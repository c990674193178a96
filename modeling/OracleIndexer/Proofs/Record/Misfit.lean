import OracleIndexer.Indexer.Mapping
import OracleIndexer.Proofs.Felt.Reading
set_option autoImplicit false

/-!
# Events that do not fit

Mapping an event fails in one of two ways.  Nearly all faults concern the event alone.  The others
come of a document that is no text where words are joined: in the body of a dispatched message, and
in the claim and the identifier of a new assertion.  Such an event does not fit its mapping.
-/

namespace OracleIndexer

open Outcome (Skippable Within)

/-- The faults that events can cause. -/
def Fault.OfEvent (fault : Fault) : Prop := fault.isSkippable = true ∨ fault = .wrongKind

theorem Outcome.Skippable.ofEvent {α : Type} {x : Outcome α} (h : Skippable x) :
    Within Fault.OfEvent x := h.mono fun _ => .inl

/-! ## Messages -/

namespace Feed

theorem Batch.skippable_readCount (radix : Option CountRadix) (text : List Char) :
    Skippable (readCount radix text) := by
  cases radix with
  | none => exact .error rfl
  | some radix => exact .mapError fun _ => rfl

theorem Batch.skippable_sizeOf (table : Option SizeTable) (assetClass feedType : Int) :
    Skippable (sizeOf table assetClass feedType) := by
  cases table with
  | none => exact .error rfl
  | some table => exact CodecFault.skippable_raise _

theorem Batch.skippable_record (table : Option SizeTable) (done : Nat) (rest : List Char) :
    Skippable (record table done rest) := by
  refine Within.bind (.mapError fun _ => rfl) fun digits => ?_
  refine Within.bind (.mapError fun _ => rfl) fun id => ?_
  refine (skippable_sizeOf table id.assetClass id.feedType).bind fun size => ?_
  exact Within.bind (.mapError fun _ => rfl) fun _ => .ok _

theorem Batch.skippable_records (table : Option SizeTable) (n done : Nat) (rest : List Char) :
    Skippable (records table n done rest) := by
  induction n generalizing done rest with
  | zero => exact .ok _
  | succ n ih =>
    refine (skippable_record table done rest).bind fun (digits, size) => ?_
    exact (ih (done + size) (rest.drop size)).bind fun _ => .ok _

theorem Batch.skippable_decode (format : Format) (stream : List Char) :
    Skippable (decode format stream) := by
  refine Within.bind (.mapError fun _ => rfl) fun head => ?_
  refine (skippable_readCount format.countRadix head).bind fun count => ?_
  exact (skippable_records _ _ _ _).bind fun _ => .ok _

theorem Envelope.sharesOf_eq_map (words : List Json) :
    sharesOf words = (Felt.textsOf words).map fun texts => texts.map fun s => share s.toList := by
  induction words with
  | nil => rfl
  | cons word rest ih =>
    cases word with
    | text s =>
      rw [sharesOf, Felt.textsOf, ih]
      cases Felt.textsOf rest <;> rfl
    | _ => rfl

theorem Envelope.streamOf_eq_error_iff {words : List Json} {fault : Fault} :
    streamOf words = .error fault ↔ (∃ word ∈ words, ¬ word.IsText) ∧ fault = .wrongKind := by
  rw [streamOf, Outcome.map_eq_error_iff, sharesOf_eq_map, Outcome.map_eq_error_iff,
    Felt.textsOf_eq_error_iff]

theorem Envelope.decode_ofEvent (format : Format) (words : List Json) :
    Within Fault.OfEvent (decode format words) := by
  refine Within.bind (fun fault hfault => ?_) fun stream =>
    (Batch.skippable_decode format stream).ofEvent
  exact .inr (streamOf_eq_error_iff.mp hfault).2

/-- A message is unusable exactly if one of its words is no text. -/
theorem Envelope.decode_eq_wrongKind_iff {format : Format} {words : List Json} :
    decode format words = .error .wrongKind ↔ ∃ word ∈ words, ¬ word.IsText := by
  rw [decode, Outcome.bind_eq_error_iff, streamOf_eq_error_iff]
  constructor
  · rintro (⟨hword, _⟩ | ⟨stream, _, hdecode⟩)
    · exact hword
    · exact absurd (Batch.skippable_decode format stream _ hdecode) (by decide)
  · intro hword
    exact .inl ⟨hword, rfl⟩

end Feed

/-! ## Rows and entities -/

namespace Record

theorem skippable_payload {α : Type} (read : List Json → Except LayoutFault α)
    (item : Block.Item) : Skippable (payload read item) := .mapError fun _ => rfl

theorem skippable_dataId (item : Block.Item) : Skippable (dataId item) := by
  refine (Json.skippable_asText _).bind fun _ => ?_
  exact (Json.skippable_asText _).bind fun _ => .ok _

theorem skippable_entryColumns (entry : Payload.SpotEntry) (header : Block.Header)
    (item : Block.Item) (context : Context) :
    Skippable (entryColumns entry header item context) := by
  refine (Felt.skippable_text _).bind fun _ => ?_
  refine (skippable_dataId item).bind fun _ => ?_
  refine (Felt.skippable_column _).bind fun _ => ?_
  refine (Felt.skippable_ofSeconds _).bind fun _ => ?_
  refine (Felt.skippable_text _).bind fun _ => ?_
  refine (Felt.skippable_text _).bind fun _ => ?_
  exact (Felt.skippable_column _).bind fun _ => .ok _

theorem skippable_spotEntry (header : Block.Header) (item : Block.Item) (context : Context) :
    Skippable (spotEntry header item context) := by
  refine (skippable_payload _ item).bind fun entry => ?_
  exact (skippable_entryColumns entry header item context).bind fun _ => .ok _

theorem skippable_futureEntry (header : Block.Header) (item : Block.Item) (context : Context) :
    Skippable (futureEntry header item context) := by
  refine (skippable_payload _ item).bind fun entry => ?_
  refine (skippable_entryColumns _ header item context).bind fun _ => ?_
  exact (Felt.skippable_ofMillis _).bind fun _ => .ok _

theorem skippable_checkpoint (header : Block.Header) (item : Block.Item) (context : Context) :
    Skippable (checkpoint header item context) := by
  refine (skippable_payload _ item).bind fun entry => ?_
  refine (Felt.skippable_text _).bind fun _ => ?_
  refine (skippable_dataId item).bind fun _ => ?_
  refine (Felt.skippable_column _).bind fun _ => ?_
  refine (Felt.skippable_ofSeconds _).bind fun _ => ?_
  refine (Felt.skippable_column _).bind fun _ => ?_
  exact (Felt.skippable_column _).bind fun _ => .ok _

theorem skippable_requestInsert (header : Block.Header) (item : Block.Item) (context : Context) :
    Skippable (requestInsert header item context) := by
  refine (skippable_payload _ item).bind fun request => ?_
  refine (skippable_dataId item).bind fun _ => ?_
  refine (Felt.skippable_column _).bind fun _ => ?_
  refine (Felt.skippable_column _).bind fun _ => ?_
  refine (Felt.skippable_column _).bind fun _ => ?_
  refine (Felt.skippable_column _).bind fun _ => ?_
  exact (Felt.skippable_column _).bind fun _ => .ok _

theorem skippable_statusUpdate (header : Block.Header) (item : Block.Item) :
    Skippable (statusUpdate header item) := by
  refine (skippable_payload _ item).bind fun change => ?_
  refine (Felt.skippable_column _).bind fun _ => ?_
  exact (Felt.skippable_column _).bind fun _ => .ok _

theorem skippable_randomness (header : Block.Header) (item : Block.Item) (context : Context) :
    Skippable (randomness header item context) := by
  refine (Felt.skippable_same _ _).bind fun isRequest => ?_
  cases isRequest with
  | true => exact skippable_requestInsert header item context
  | false =>
    refine (Felt.skippable_same _ _).bind fun isChange => ?_
    cases isChange with
    | true => exact skippable_statusUpdate header item
    | false => exact .ok _

theorem skippable_disputeUpdate (item : Block.Item) : Skippable (disputeUpdate item) :=
  (skippable_payload _ item).bind fun _ => .ok _

theorem skippable_settlementUpdate (header : Block.Header) (item : Block.Item) :
    Skippable (settlementUpdate header item) := by
  refine (skippable_payload _ item).bind fun settled => ?_
  refine (Felt.skippable_isZero _).bind fun _ => ?_
  exact (Felt.skippable_isZero _).bind fun _ => .ok _

/-- A new assertion does not fit if a document is no text where its claim and its identifier are
joined as text, unless a fault of the event comes first. -/
inductive AssertionMisfit (item : Block.Item) (made : Payload.AssertionMade) : Prop
  /-- the last word of the claim, whose padding is dropped before anything is read -/
  | lastWord {word : Json} (last : word ∈ made.claimWords.getLast?) (other : ¬ word.IsText)
  /-- any word of the claim -/
  | claimWord {word : Json} {id domainId : String} (mem : word ∈ made.claimWords)
      (other : ¬ word.IsText) (row : dataId item = .ok id)
      (domain : Felt.amount made.domainIdLow made.domainIdHigh = .ok domainId)
  /-- the identifier, which is read last -/
  | identifier {id domainId expiration bond : String} (other : ¬ made.identifier.IsText)
      (row : dataId item = .ok id)
      (domain : Felt.amount made.domainIdLow made.domainIdHigh = .ok domainId)
      (expires : Timestamp.ofSeconds made.expirationTimestamp = .ok expiration)
      (bonded : Felt.amount made.bondLow made.bondHigh = .ok bond)

theorem assertionColumns_ofEvent (made : Payload.AssertionMade) (header : Block.Header)
    (item : Block.Item) (context : Context) :
    Within Fault.OfEvent (assertionColumns made header item context) := by
  refine Within.bind (fun fault h => .inr (Felt.atLast_trimmed_eq_error_iff.mp h).2) fun words => ?_
  refine (skippable_dataId item).ofEvent.bind fun id => ?_
  refine (Felt.skippable_amount _ _).ofEvent.bind fun domainId => ?_
  refine Within.bind (fun fault h => .inr (Felt.concatenated_eq_error_iff.mp h).2) fun claim => ?_
  refine (Felt.skippable_ofSeconds _).ofEvent.bind fun expiration => ?_
  refine (Felt.skippable_amount _ _).ofEvent.bind fun bond => ?_
  exact Within.bind (fun fault h => .inr (Felt.trimmed_eq_error_iff.mp h).2) fun _ => .ok _

/-- The columns of a new assertion are refused for the kind of a document exactly if the assertion
does not fit. -/
theorem assertionColumns_eq_wrongKind_iff {made : Payload.AssertionMade} {header : Block.Header}
    {item : Block.Item} {context : Context} :
    assertionColumns made header item context = .error .wrongKind ↔ AssertionMisfit item made := by
  simp only [assertionColumns, Outcome.bind_eq_error_iff, Felt.atLast_trimmed_eq_error_iff,
    (skippable_dataId item).bind_eq_wrongKind_iff,
    (Felt.skippable_amount _ _).bind_eq_wrongKind_iff, Felt.concatenated_eq_error_iff,
    (Felt.skippable_ofSeconds _).bind_eq_wrongKind_iff, Felt.trimmed_eq_error_iff, and_true]
  constructor
  · rintro (⟨last, hlast, hother⟩ | ⟨words, hwords, id, hid, domainId, hdomain, hrest⟩)
    · exact .lastWord hlast hother
    · rcases hrest with hword | ⟨_, _, expiration, hexpires, bond, hbonded, hidentifier⟩
      · obtain ⟨word, hmem, hother⟩ := (Felt.exists_not_isText_of_atLast hwords).mp hword
        exact .claimWord hmem hother hid hdomain
      · rcases hidentifier with hother | ⟨_, _, hdone⟩
        · exact .identifier hother hid hdomain hexpires hbonded
        · contradiction
  · intro hmisfit
    -- the last word of the claim is looked at first, whatever else does not fit
    cases hwords : Felt.atLast Felt.trimmed made.claimWords with
    | error fault =>
      exact .inl (Felt.atLast_trimmed_eq_error_iff.mp hwords).1
    | ok words =>
      refine .inr ⟨words, rfl, ?_⟩
      cases hmisfit with
      | lastWord last other =>
        have hrefused := Felt.atLast_trimmed_eq_error_iff.mpr ⟨⟨_, last, other⟩, rfl⟩
        rw [hwords] at hrefused
        contradiction
      | claimWord mem other row domain =>
        have hword := (Felt.exists_not_isText_of_atLast hwords).mpr ⟨_, mem, other⟩
        exact ⟨_, row, _, domain, .inl hword⟩
      | identifier other row domain expires bonded =>
        refine ⟨_, row, _, domain, ?_⟩
        cases hclaim : Felt.concatenated words with
        | error fault => exact .inl (Felt.concatenated_eq_error_iff.mp hclaim).1
        | ok claim => exact .inr ⟨claim, rfl, _, expires, _, bonded, .inl other⟩

theorem skippable_ofData (data : List Json) : Skippable (Payload.AssertionMade.ofData data) :=
  .mapError fun _ => Fault.isSkippable_raised rfl

theorem assertion_ofEvent (header : Block.Header) (item : Block.Item) (context : Context) :
    Within Fault.OfEvent (assertion header item context) := by
  refine (Felt.skippable_same _ _).ofEvent.bind fun isMade => ?_
  cases isMade with
  | true =>
    refine (skippable_ofData _).ofEvent.bind fun made => ?_
    exact (assertionColumns_ofEvent made header item context).bind fun _ => .ok _
  | false =>
    refine (Felt.skippable_same _ _).ofEvent.bind fun isDisputed => ?_
    cases isDisputed with
    | true => exact (skippable_disputeUpdate item).ofEvent
    | false =>
      refine (Felt.skippable_same _ _).ofEvent.bind fun isSettled => ?_
      cases isSettled with
      | true => exact (skippable_settlementUpdate header item).ofEvent
      | false => exact .ok _

theorem feedUpdate_ofEvent (header : Block.Header) (item : Block.Item) (context : Context) :
    Within Fault.OfEvent (feedUpdate header item context) := by
  refine (skippable_payload _ item).ofEvent.bind fun message => ?_
  refine (Feed.Envelope.decode_ofEvent _ _).bind fun batch => ?_
  exact (Felt.skippable_column _).ofEvent.bind fun _ => .ok _

/-! ## Any mapping -/

/-- An event does not fit its mapping if it holds a document that is no text where words are joined,
and no fault of the event comes before. -/
inductive Misfit (item : Block.Item) : Mapping → Prop
  /-- a word in the body of a dispatched message -/
  | bodyWord {word : Json} (long : Payload.Dispatch.bodyPosition ≤ item.event.data.length)
      (mem : word ∈ item.event.data.drop Payload.Dispatch.bodyPosition)
      (other : ¬ word.IsText) : Misfit item .feedUpdate
  /-- a piece of a new assertion -/
  | assertionMade {made : Payload.AssertionMade}
      (selected : Felt.same item.event.selector (.text assertionMadeSelector) = .ok true)
      (payload : Payload.AssertionMade.ofData item.event.data = .ok made)
      (misfit : AssertionMisfit item made) : Misfit item .assertion

theorem feedUpdate_eq_wrongKind_iff {header : Block.Header} {item : Block.Item}
    {context : Context} :
    feedUpdate header item context = .error .wrongKind ↔ Misfit item .feedUpdate := by
  rw [feedUpdate, (skippable_payload _ item).bind_eq_wrongKind_iff]
  constructor
  · rintro ⟨message, hmessage, hrest⟩
    rw [payload, Outcome.mapError_eq_ok_iff, Payload.Dispatch.ofData] at hmessage
    split at hmessage
    · rename_i hlong
      obtain rfl := Except.ok.inj hmessage
      rcases Outcome.bind_eq_error_iff.mp hrest with hdecode | ⟨batch, _, hnonce⟩
      · obtain ⟨word, hmem, hother⟩ := Feed.Envelope.decode_eq_wrongKind_iff.mp hdecode
        exact .bodyWord hlong hmem hother
      · obtain ⟨_, _, hdone⟩ := (Felt.skippable_column _).bind_eq_wrongKind_iff.mp hnonce
        contradiction
    · contradiction
  · intro h
    cases h with
    | bodyWord long mem other =>
      refine ⟨_, by rw [payload, Payload.Dispatch.ofData, if_pos long]; rfl, ?_⟩
      refine Outcome.bind_eq_error_iff.mpr (.inl ?_)
      exact Feed.Envelope.decode_eq_wrongKind_iff.mpr ⟨_, mem, other⟩

theorem assertion_eq_wrongKind_iff {header : Block.Header} {item : Block.Item}
    {context : Context} :
    assertion header item context = .error .wrongKind ↔ Misfit item .assertion := by
  simp only [assertion, (Felt.skippable_same _ _).bind_eq_wrongKind_iff]
  constructor
  · rintro ⟨isMade, hmade, hrest⟩
    cases isMade with
    | true =>
      obtain ⟨made, hpayload, hcolumns⟩ :=
        (skippable_ofData _).bind_eq_wrongKind_iff.mp hrest
      rcases Outcome.bind_eq_error_iff.mp hcolumns with hcolumns | ⟨_, _, hdone⟩
      · exact .assertionMade hmade hpayload
          (assertionColumns_eq_wrongKind_iff.mp hcolumns)
      · contradiction
    | false =>
      -- disputes and settlements have faults of the event alone
      obtain ⟨isDisputed, _, hdisputed⟩ :=
        (Felt.skippable_same _ _).bind_eq_wrongKind_iff.mp hrest
      cases isDisputed with
      | true => exact absurd (skippable_disputeUpdate item _ hdisputed) (by decide)
      | false =>
        obtain ⟨isSettled, _, hsettled⟩ :=
          (Felt.skippable_same _ _).bind_eq_wrongKind_iff.mp hdisputed
        cases isSettled with
        | true => exact absurd (skippable_settlementUpdate header item _ hsettled) (by decide)
        | false => contradiction
  · intro h
    cases h with
    | assertionMade selected payload misfit =>
      refine ⟨true, selected, ?_⟩
      refine (skippable_ofData _).bind_eq_wrongKind_iff.mpr ⟨_, payload, ?_⟩
      exact Outcome.bind_eq_error_iff.mpr
        (.inl (assertionColumns_eq_wrongKind_iff.mpr misfit))

theorem outputs_ofEvent (mapping : Mapping) (header : Block.Header) (item : Block.Item)
    (context : Context) : Within Fault.OfEvent (mapping.outputs header item context) := by
  cases mapping with
  | spotEntry => exact (skippable_spotEntry header item context).ofEvent
  | futureEntry => exact (skippable_futureEntry header item context).ofEvent
  | checkpoint => exact (skippable_checkpoint header item context).ofEvent
  | feedUpdate => exact feedUpdate_ofEvent header item context
  | randomness => exact (skippable_randomness header item context).ofEvent
  | assertion => exact assertion_ofEvent header item context

theorem outputs_eq_wrongKind_iff {mapping : Mapping} {header : Block.Header} {item : Block.Item}
    {context : Context} :
    mapping.outputs header item context = .error .wrongKind ↔ Misfit item mapping := by
  have hnever : ∀ {x : Outcome (List Output)}, Skippable x → ¬ Misfit item mapping →
      (x = .error .wrongKind ↔ Misfit item mapping) := by
    intro x hx hfits
    exact ⟨fun h => absurd (hx _ h) (by decide), fun h => absurd h hfits⟩
  cases mapping with
  | spotEntry => exact hnever (skippable_spotEntry header item context) (by rintro ⟨⟩)
  | futureEntry => exact hnever (skippable_futureEntry header item context) (by rintro ⟨⟩)
  | checkpoint => exact hnever (skippable_checkpoint header item context) (by rintro ⟨⟩)
  | feedUpdate => exact feedUpdate_eq_wrongKind_iff
  | randomness => exact hnever (skippable_randomness header item context) (by rintro ⟨⟩)
  | assertion => exact assertion_eq_wrongKind_iff

/-- Mapping an event meets another fault than those of the event alone exactly if the event does not
fit. -/
theorem outputs_eq_error_iff {mapping : Mapping} {header : Block.Header} {item : Block.Item}
    {context : Context} {fault : Fault} (hfault : fault.isSkippable = false) :
    mapping.outputs header item context = .error fault ↔
      fault = .wrongKind ∧ Misfit item mapping := by
  constructor
  · intro h
    rcases outputs_ofEvent mapping header item context fault h with hskip | rfl
    · rw [hfault] at hskip
      contradiction
    · exact ⟨rfl, outputs_eq_wrongKind_iff.mp h⟩
  · rintro ⟨rfl, hmisfit⟩
    exact outputs_eq_wrongKind_iff.mpr hmisfit

end Record

end OracleIndexer
