import Mathlib.Data.List.Forall2
import OracleIndexer.Block
import OracleIndexer.Proofs.Json.Members
import OracleIndexer.Proofs.Outcome
set_option autoImplicit false

/-!
# Reading a batch

A batch is read exactly if its header and each of its events are.  Other events may be put in place
of its own, and are then read beside the same header.
-/

namespace OracleIndexer.Block

/-- A header that is not given is refused. -/
theorem Header.ofDocument_of_not_given {document : Json} (h : document.isGiven = false) :
    Header.ofDocument document = .error (.value .invalidHeader) := by
  have hmembers : document.membersWith "blockNumber" (.value .invalidHeader)
      = .error (.value .invalidHeader) := by
    cases document with
    | text s =>
      have hempty : s = "" := by simpa using h
      subst hempty
      rfl
    | array items =>
      obtain rfl : items = [] := by simpa [Json.isGiven] using h
      rfl
    | object members =>
      obtain rfl : members = [] := by simpa [Json.isGiven] using h
      rfl
    | _ => simp only [Json.membersWith, h, Bool.false_eq_true, if_false]
  rw [Header.ofDocument, hmembers]
  rfl

/-- A batch whose header reads has one. -/
theorem membersWith_header {members : List (String × Json)} {header : Header}
    (h : Header.ofDocument (Json.memberOf members "header") = .ok header) :
    (Json.object members).membersWith "header" (.value .invalidBatch) = .ok members := by
  have hmember : (Json.member? members "header").isSome = true := by
    by_contra hnone
    have habsent : Json.memberOf members "header" = .null := by
      rw [Json.memberOf, Option.not_isSome_iff_eq_none.mp hnone, Option.getD_none]
    rw [habsent, Header.ofDocument_of_not_given rfl] at h
    contradiction
  rw [Json.membersWith, if_pos hmember]

/-- A batch is read by its header and its events. -/
theorem Batch.ofDocument_eq_ok_iff {members : List (String × Json)} {batch : Batch} :
    Batch.ofDocument (.object members) = .ok batch ↔
      Header.ofDocument (Json.memberOf members "header") = .ok batch.header ∧
        ∃ documents, (Json.memberOf members "events").entries = .ok documents ∧
          itemsOfDocuments documents = .ok batch.items := by
  constructor
  · intro h
    simp only [Batch.ofDocument, Outcome.bind_eq_ok_iff, Outcome.pure_eq_ok, Except.ok.injEq] at h
    obtain ⟨found, hfound, header, hheader, documents, hdocuments, items, hitems, rfl⟩ := h
    rw [Json.membersWith] at hfound
    split at hfound
    · obtain rfl := Except.ok.inj hfound
      exact ⟨hheader, documents, hdocuments, hitems⟩
    · contradiction
  · rintro ⟨hheader, documents, hdocuments, hitems⟩
    rw [Batch.ofDocument, membersWith_header hheader, Outcome.ok_bind, hheader, Outcome.ok_bind,
      hdocuments, Outcome.ok_bind, hitems]
    rfl

/-! ## Other events in place of a batch's own -/

/-- Items are read one by one. -/
theorem itemsOfDocuments_eq_ok_iff {documents : List Json} {items : List Item} :
    itemsOfDocuments documents = .ok items ↔
      List.Forall₂ (fun document item => Item.ofDocument document = .ok item) documents items := by
  induction documents generalizing items with
  | nil =>
    constructor
    · intro h
      obtain rfl := Except.ok.inj h
      exact .nil
    · intro h
      cases h
      rfl
  | cons document rest ih =>
    simp only [itemsOfDocuments, Outcome.bind_eq_ok_iff, Outcome.pure_eq_ok, Except.ok.injEq]
    constructor
    · rintro ⟨item, hitem, more, hmore, rfl⟩
      exact .cons hitem (ih.mp hmore)
    · intro h
      cases h with
      | cons hitem hmore => exact ⟨_, hitem, _, ih.mpr hmore, rfl⟩

theorem exists_item_of_mem {documents : List Json} {items : List Item}
    (h : itemsOfDocuments documents = .ok items) :
    ∀ document ∈ documents, ∃ item, Item.ofDocument document = .ok item := by
  have hitems := itemsOfDocuments_eq_ok_iff.mp h
  clear h
  induction hitems with
  | nil => exact fun document hmem => absurd hmem List.not_mem_nil
  | cons hfirst _ ih => exact List.forall_mem_cons.mpr ⟨⟨_, hfirst⟩, ih⟩

/-- Where an item does not read, the items are refused with the fault of the first such one. -/
theorem itemsOfDocuments_of_unread {documents : List Json} {document : Json} {fault : Fault}
    (hmem : document ∈ documents) (hunread : Item.ofDocument document = .error fault) :
    ∃ front first back reason, documents = front ++ first :: back ∧
      (∀ earlier ∈ front, ∃ item, Item.ofDocument earlier = .ok item) ∧
      Item.ofDocument first = .error reason ∧ itemsOfDocuments documents = .error reason := by
  induction documents with
  | nil => exact absurd hmem List.not_mem_nil
  | cons next rest ih =>
    cases hnext : Item.ofDocument next with
    | error reason =>
      refine ⟨[], next, rest, reason, rfl, by simp, hnext, ?_⟩
      rw [itemsOfDocuments, hnext, Outcome.error_bind]
    | ok item =>
      have hrest : document ∈ rest := by
        rcases List.mem_cons.mp hmem with rfl | hrest
        · cases hnext.symm.trans hunread
        · exact hrest
      obtain ⟨front, first, back, reason, rfl, hfront, hfirst, hitems⟩ := ih hrest
      refine ⟨next :: front, first, back, reason, rfl,
        List.forall_mem_cons.mpr ⟨⟨item, hnext⟩, hfront⟩, hfirst, ?_⟩
      rw [itemsOfDocuments, hnext, Outcome.ok_bind, hitems, Outcome.error_bind]

/-- A batch with other events in place of its own. -/
def withEvents (members : List (String × Json)) (documents : List Json) : Json :=
  .object (Json.putMember "events" (.array documents) members)

/-- A batch taken apart: its members, its header, and its events, each of which reads. -/
structure TakenApart (document : Json) (members : List (String × Json)) (header : Header)
    (events : List Json) : Prop where
  isObject : document = .object members
  ofHeader : Header.ofDocument (Json.memberOf members "header") = .ok header
  ofEvents : (Json.memberOf members "events").entries = .ok events
  ofEach : ∀ event ∈ events, ∃ item, Item.ofDocument event = .ok item

/-- A batch that reads can be taken apart, and its items are those of its events. -/
theorem exists_takenApart {document : Json} {batch : Batch}
    (h : Batch.ofDocument document = .ok batch) :
    ∃ members events, TakenApart document members batch.header events ∧
      itemsOfDocuments events = .ok batch.items := by
  obtain ⟨members, hmembers, _⟩ := Outcome.bind_eq_ok_iff.mp h
  obtain rfl : document = .object members := by
    cases document with
    | object found =>
      rw [Json.membersWith] at hmembers
      split at hmembers
      · rw [Except.ok.inj hmembers]
      · cases hmembers
    | _ => cases hmembers
  obtain ⟨hheader, events, hevents, hitems⟩ := Batch.ofDocument_eq_ok_iff.mp h
  exact ⟨members, events, ⟨rfl, hheader, hevents, exists_item_of_mem hitems⟩, hitems⟩

/-- The items of an array are its entries, also when there are none. -/
theorem entries_array (documents : List Json) : (Json.array documents).entries = .ok documents := by
  cases documents <;> rfl

/-- The header of a batch is read as before, whatever its events are. -/
theorem ofDocument_withEvents {members : List (String × Json)} {header : Header}
    {documents : List Json} {items : List Item}
    (hheader : Header.ofDocument (Json.memberOf members "header") = .ok header)
    (hitems : itemsOfDocuments documents = .ok items) :
    Batch.ofDocument (withEvents members documents) = .ok ⟨header, items⟩ := by
  have hkey : ("header" : String) ≠ "events" := by decide
  refine Batch.ofDocument_eq_ok_iff.mpr ⟨?_, documents, ?_, hitems⟩
  · rw [Json.memberOf_putMember_of_ne hkey, hheader]
  · rw [Json.memberOf_putMember_self, entries_array]

/-- With other events a batch reads by its own header and these events. -/
theorem ofDocument_withEvents_eq_ok_iff {members : List (String × Json)} {documents : List Json}
    {batch : Batch} :
    Batch.ofDocument (withEvents members documents) = .ok batch ↔
      Header.ofDocument (Json.memberOf members "header") = .ok batch.header ∧
        itemsOfDocuments documents = .ok batch.items := by
  constructor
  · intro h
    obtain ⟨hheader, found, hfound, hitems⟩ := Batch.ofDocument_eq_ok_iff.mp h
    rw [Json.memberOf_putMember_of_ne (by decide)] at hheader
    rw [Json.memberOf_putMember_self, entries_array] at hfound
    obtain rfl := Except.ok.inj hfound
    exact ⟨hheader, hitems⟩
  · rintro ⟨hheader, hitems⟩
    exact ofDocument_withEvents hheader hitems

/-- With its own events a batch reads as it does. -/
theorem ofDocument_withEvents_own {members : List (String × Json)} {documents : List Json}
    (h : (Json.memberOf members "events").entries = .ok documents) :
    Batch.ofDocument (withEvents members documents) = Batch.ofDocument (.object members) := by
  have hkey : ("header" : String) ≠ "events" := by decide
  simp only [withEvents, Batch.ofDocument, Json.membersWith, Json.member?_putMember_of_ne hkey]
  split
  · simp only [Outcome.ok_bind, Json.memberOf_putMember_of_ne hkey, Json.memberOf_putMember_self,
      entries_array, h]
  · rfl

/-- A batch whose header reads is refused with what its events are refused with. -/
theorem ofDocument_withEvents_of_unread {members : List (String × Json)} {header : Header}
    {documents : List Json} {fault : Fault}
    (hheader : Header.ofDocument (Json.memberOf members "header") = .ok header)
    (h : itemsOfDocuments documents = .error fault) :
    Batch.ofDocument (withEvents members documents) = .error fault := by
  have hfound : Header.ofDocument
      (Json.memberOf (Json.putMember "events" (.array documents) members) "header")
      = .ok header := by
    rw [Json.memberOf_putMember_of_ne (by decide), hheader]
  rw [withEvents, Batch.ofDocument, membersWith_header hfound, Outcome.ok_bind, hfound,
    Outcome.ok_bind, Json.memberOf_putMember_self, entries_array, Outcome.ok_bind, h,
    Outcome.error_bind]

/-! ## Examples -/

/-- An event with a sender, a selector and some data, as a document. -/
def eventDocument (sender selector : String) (data : List String) : Json :=
  .object [("event", .object [("fromAddress", .text sender), ("keys", .array [.text selector]),
    ("data", .array (data.map .text))])]

/-- A batch of a block with some events, as a document. -/
def batchDocument (block : Int) (events : List Json) : Json :=
  .object [("header", .object [("blockNumber", .int block)]), ("events", .array events)]

end OracleIndexer.Block
