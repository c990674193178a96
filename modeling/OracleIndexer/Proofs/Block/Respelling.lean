import Mathlib.Data.List.Forall2
import OracleIndexer.Block
import OracleIndexer.Proofs.Felt.Writing
set_option autoImplicit false

/-!
# Batches that are written differently

Two batches say the same if they differ only in the writing of numbers: of the addresses that events
come from, of their keys and of their data.  Such batches are read alike, or refused alike.
-/

namespace OracleIndexer

open Outcome (Agrees)

/-! ## Documents that differ in places -/

namespace Json

/-- Objects whose members are related key by key, or one document. -/
inductive MembersRelated (R : String → Json → Json → Prop) : Json → Json → Prop
  | same (document : Json) : MembersRelated R document document
  | object {a b : List (String × Json)}
      (members : List.Forall₂ (fun m n => m.1 = n.1 ∧ R m.1 m.2 n.2) a b) :
    MembersRelated R (.object a) (.object b)

/-- Arrays whose items are related one by one, or one document. -/
inductive ItemsRelated (R : Json → Json → Prop) : Json → Json → Prop
  | same (document : Json) : ItemsRelated R document document
  | array {a b : List Json} (items : List.Forall₂ R a b) : ItemsRelated R (.array a) (.array b)

section

variable {R : String → Json → Json → Prop} {a b : List (String × Json)}

theorem isSome_member?_of_related
    (h : List.Forall₂ (fun m n => m.1 = n.1 ∧ R m.1 m.2 n.2) a b) (key : String) :
    (member? a key).isSome = (member? b key).isSome := by
  induction h with
  | nil => rfl
  | @cons m n rest more hfirst _ ih =>
    obtain ⟨k, v⟩ := m
    obtain ⟨l, w⟩ := n
    obtain ⟨rfl, _⟩ := hfirst
    unfold member? at ih ⊢
    rw [List.lookup_cons, List.lookup_cons]
    cases key == k with
    | true => rfl
    | false => exact ih

/-- The members under a key are related as the key wants it. -/
theorem memberOf_related (hrefl : ∀ key document, R key document document)
    (h : List.Forall₂ (fun m n => m.1 = n.1 ∧ R m.1 m.2 n.2) a b) (key : String) :
    R key (memberOf a key) (memberOf b key) := by
  induction h with
  | nil => exact hrefl key .null
  | @cons m n rest more hfirst _ ih =>
    obtain ⟨k, v⟩ := m
    obtain ⟨l, w⟩ := n
    obtain ⟨rfl, hvalue⟩ := hfirst
    unfold memberOf member? at ih ⊢
    rw [List.lookup_cons, List.lookup_cons]
    cases hkey : key == k with
    | true =>
      obtain rfl : key = k := eq_of_beq hkey
      exact hvalue
    | false => exact ih

theorem membersWith_agrees (hrefl : ∀ key document, R key document document) {c d : Json}
    (h : MembersRelated R c d) (key : String) (absent : Fault) :
    Agrees (List.Forall₂ fun m n => m.1 = n.1 ∧ R m.1 m.2 n.2) (c.membersWith key absent)
      (d.membersWith key absent) := by
  cases h with
  | same document =>
    exact .refl (fun members => List.forall₂_same.mpr fun m _ => ⟨rfl, hrefl m.1 m.2⟩) _
  | @object a b members =>
    have hsome := isSome_member?_of_related members key
    unfold membersWith
    simp only [hsome]
    split
    · exact .ok members
    · exact .error (.same absent)

end

theorem entries_agrees {R : Json → Json → Prop} (hrefl : ∀ document, R document document)
    {c d : Json} (h : ItemsRelated R c d) : Agrees (List.Forall₂ R) c.entries d.entries := by
  cases h with
  | same document => exact .refl (fun items => List.forall₂_same.mpr fun d _ => hrefl d) _
  | array items =>
    cases items with
    | nil => exact .ok .nil
    | cons first rest => exact .ok (.cons first rest)

end Json

/-! ## Batches that say the same -/

/-- One felt, or two writings of a number. -/
inductive Felt.Alike : Json → Json → Prop
  | same (felt : Json) : Alike felt felt
  | written {n : Nat} {a b : Json} (left : Writes n a) (right : Writes n b) : Alike a b

namespace Block

open Json (MembersRelated ItemsRelated)

/-- How the members of two events are related: sender, keys and data hold the same numbers. -/
inductive EventMember : String → Json → Json → Prop
  | sender {a b : Json} (alike : Felt.Alike a b) : EventMember "fromAddress" a b
  | keys {a b : Json} (alike : ItemsRelated Felt.Alike a b) : EventMember "keys" a b
  | data {a b : Json} (alike : ItemsRelated Felt.Alike a b) : EventMember "data" a b
  | other (key : String) (document : Json) : EventMember key document document

/-- How the members of two items are related: their events may be written differently. -/
inductive ItemMember : String → Json → Json → Prop
  | event {a b : Json} (alike : MembersRelated EventMember a b) : ItemMember "event" a b
  | other (key : String) (document : Json) : ItemMember key document document

/-- How the members of two batches are related: the events of their items may be written
differently. -/
inductive BatchMember : String → Json → Json → Prop
  | events {a b : Json} (alike : ItemsRelated (MembersRelated ItemMember) a b) :
    BatchMember "events" a b
  | other (key : String) (document : Json) : BatchMember key document document

/-- Documents of batches that differ at most in the writing of senders, keys and data. -/
abbrev Respelled : Json → Json → Prop := MembersRelated BatchMember

section

variable {key : String} {a b : Json}

theorem EventMember.alike_fromAddress (h : EventMember key a b) (hkey : key = "fromAddress") :
    Felt.Alike a b := by
  cases h with
  | sender alike => exact alike
  | keys => exact absurd hkey (by decide)
  | data => exact absurd hkey (by decide)
  | other => exact .same a

theorem EventMember.alike_keys (h : EventMember key a b) (hkey : key = "keys") :
    ItemsRelated Felt.Alike a b := by
  cases h with
  | sender => exact absurd hkey (by decide)
  | keys alike => exact alike
  | data => exact absurd hkey (by decide)
  | other => exact .same a

theorem EventMember.alike_data (h : EventMember key a b) (hkey : key = "data") :
    ItemsRelated Felt.Alike a b := by
  cases h with
  | sender => exact absurd hkey (by decide)
  | keys => exact absurd hkey (by decide)
  | data alike => exact alike
  | other => exact .same a

theorem ItemMember.alike_event (h : ItemMember key a b) (hkey : key = "event") :
    MembersRelated EventMember a b := by
  cases h with
  | event alike => exact alike
  | other => exact .same a

theorem BatchMember.alike_events (h : BatchMember key a b) (hkey : key = "events") :
    ItemsRelated (MembersRelated ItemMember) a b := by
  cases h with
  | events alike => exact alike
  | other => exact .same a

theorem EventMember.eq_of_ne (h : EventMember key a b)
    (hsender : key ≠ "fromAddress") (hkeys : key ≠ "keys") (hdata : key ≠ "data") : a = b := by
  cases h with
  | sender => exact absurd rfl hsender
  | keys => exact absurd rfl hkeys
  | data => exact absurd rfl hdata
  | other => rfl

theorem ItemMember.eq_of_ne (h : ItemMember key a b)
    (hevent : key ≠ "event") : a = b := by
  cases h with
  | event => exact absurd rfl hevent
  | other => rfl

theorem BatchMember.eq_of_ne (h : BatchMember key a b)
    (hevents : key ≠ "events") : a = b := by
  cases h with
  | events => exact absurd rfl hevents
  | other => rfl

end

/-! ## Reading them -/

/-- Events that say the same. -/
structure Event.Alike (a b : Event) : Prop where
  fromAddress : Felt.Alike a.fromAddress b.fromAddress
  keys : List.Forall₂ Felt.Alike a.keys b.keys
  data : List.Forall₂ Felt.Alike a.data b.data
  index : a.index = b.index

/-- Items that say the same. -/
structure Item.Alike (a b : Item) : Prop where
  event : a.event.Alike b.event
  transactionHash : a.transactionHash = b.transactionHash
  senderAddress : a.senderAddress = b.senderAddress

/-- Batches that say the same. -/
structure Batch.Alike (a b : Batch) : Prop where
  header : a.header = b.header
  items : List.Forall₂ Item.Alike a.items b.items

theorem event_ofDocument_agrees {c d : Json} (h : MembersRelated EventMember c d) :
    Agrees Event.Alike (Event.ofDocument c) (Event.ofDocument d) := by
  refine (Json.membersWith_agrees EventMember.other h _ _).bind fun a b members => ?_
  have hmember := Json.memberOf_related EventMember.other members
  have hkeys := Json.entries_agrees Felt.Alike.same ((hmember "keys").alike_keys rfl)
  have hdata := Json.entries_agrees Felt.Alike.same ((hmember "data").alike_data rfl)
  have hindex := (hmember "index").eq_of_ne (by decide) (by decide) (by decide)
  refine hkeys.bind fun _ _ keys => ?_
  refine hdata.bind fun _ _ data => ?_
  refine (Agrees.of_eq (congrArg indexOf hindex)).bind_eq fun index => ?_
  exact .ok ⟨(hmember "fromAddress").alike_fromAddress rfl, keys, data, rfl⟩

theorem item_ofDocument_agrees {c d : Json} (h : MembersRelated ItemMember c d) :
    Agrees Item.Alike (Item.ofDocument c) (Item.ofDocument d) := by
  refine (Json.membersWith_agrees ItemMember.other h _ _).bind fun a b members => ?_
  have hmember := Json.memberOf_related ItemMember.other members
  have hrest : ∀ key, key ≠ "event" → Json.memberOf a key = Json.memberOf b key :=
    fun key hkey => (hmember key).eq_of_ne hkey
  have hhash : transactionHashOf a = transactionHashOf b := by
    rw [transactionHashOf, transactionHashOf, hrest "transaction" (by decide),
      hrest "receipt" (by decide)]
  have hsender : senderAddressOf a = senderAddressOf b := by
    rw [senderAddressOf, senderAddressOf, hrest "transaction" (by decide)]
  refine (event_ofDocument_agrees ((hmember "event").alike_event rfl)).bind fun _ _ event => ?_
  refine (Agrees.of_eq hhash).bind_eq fun hash => ?_
  refine (Agrees.of_eq hsender).bind_eq fun sender => ?_
  exact .ok ⟨event, rfl, rfl⟩

theorem itemsOfDocuments_agrees {c d : List Json}
    (h : List.Forall₂ (MembersRelated ItemMember) c d) :
    Agrees (List.Forall₂ Item.Alike) (itemsOfDocuments c) (itemsOfDocuments d) := by
  induction h with
  | nil => exact .ok .nil
  | cons first _ ih =>
    refine (item_ofDocument_agrees first).bind fun _ _ item => ?_
    exact ih.bind fun _ _ items => .ok (.cons item items)

/-- Batches that differ only in the writing of numbers are read as batches that say the same. -/
theorem batch_ofDocument_agrees {c d : Json} (h : Respelled c d) :
    Agrees Batch.Alike (Batch.ofDocument c) (Batch.ofDocument d) := by
  refine (Json.membersWith_agrees BatchMember.other h _ _).bind fun a b members => ?_
  have hmember := Json.memberOf_related BatchMember.other members
  have hevents := Json.entries_agrees MembersRelated.same ((hmember "events").alike_events rfl)
  have hheader := (hmember "header").eq_of_ne (by decide)
  refine (Agrees.of_eq (congrArg Header.ofDocument hheader)).bind_eq fun header => ?_
  refine hevents.bind fun _ _ documents => ?_
  exact (itemsOfDocuments_agrees documents).bind fun _ _ items => .ok ⟨rfl, items⟩

end Block

end OracleIndexer
