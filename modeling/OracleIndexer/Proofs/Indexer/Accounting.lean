import OracleIndexer.Proofs.Indexer.Skipping
import OracleIndexer.Proofs.Noted
import OracleIndexer.Proofs.Record.Columns
set_option autoImplicit false

/-!
# No wanted event is lost

The selectors that a registered indexer listens for are those that its mapping knows, so a wanted
event that does not fail becomes one output, neither none nor two.  When a batch gives outputs, each
of its events is accounted for: it is not wanted, or its output stands among the outputs, or it is
noted as left out, the latter only where failing events may be.
-/

namespace OracleIndexer

/-! ## One output for each event -/

/-- An outcome that is one output, unless it is refused. -/
def Outcome.Single (x : Outcome (List Output)) : Prop :=
  ∀ outputs, x = .ok outputs → ∃ output, outputs = [output]

namespace Outcome.Single

theorem ok (output : Output) : Single (.ok [output]) := by
  intro outputs h
  exact ⟨output, (Except.ok.inj h).symm⟩

theorem bind {α : Type} {x : Outcome α} {f : α → Outcome (List Output)}
    (hf : ∀ a, x = .ok a → Single (f a)) : Single (x >>= f) := by
  intro outputs h
  obtain ⟨a, hx, ha⟩ := bind_eq_ok_iff.mp h
  exact hf a hx outputs ha

/-- A step that is known to succeed may be left out. -/
theorem bind_of_ok {α : Type} {x : Outcome α} {f : α → Outcome (List Output)} {a : α}
    (hx : x = .ok a) (hf : Single (f a)) : Single (x >>= f) := by
  rw [hx]
  exact hf

end Outcome.Single

namespace Record

open Outcome (Single)

theorem single_spotEntry (header : Block.Header) (item : Block.Item) (context : Context) :
    Single (spotEntry header item context) := .bind fun _ _ => .bind fun _ _ => .ok _

theorem single_futureEntry (header : Block.Header) (item : Block.Item) (context : Context) :
    Single (futureEntry header item context) :=
  .bind fun _ _ => .bind fun _ _ => .bind fun _ _ => .ok _

theorem single_checkpoint (header : Block.Header) (item : Block.Item) (context : Context) :
    Single (checkpoint header item context) :=
  .bind fun _ _ => .bind fun _ _ => .bind fun _ _ => .bind fun _ _ => .bind fun _ _ =>
    .bind fun _ _ => .bind fun _ _ => .ok _

theorem single_feedUpdate (header : Block.Header) (item : Block.Item) (context : Context) :
    Single (feedUpdate header item context) :=
  .bind fun _ _ => .bind fun _ _ => .bind fun _ _ => .ok _

theorem single_requestInsert (header : Block.Header) (item : Block.Item) (context : Context) :
    Single (requestInsert header item context) :=
  .bind fun _ _ => .bind fun _ _ => .bind fun _ _ => .bind fun _ _ => .bind fun _ _ =>
    .bind fun _ _ => .bind fun _ _ => .ok _

theorem single_statusUpdate (header : Block.Header) (item : Block.Item) :
    Single (statusUpdate header item) := .bind fun _ _ => .bind fun _ _ => .bind fun _ _ => .ok _

theorem single_assertionInsert (header : Block.Header) (item : Block.Item) (context : Context) :
    Single (assertionInsert header item context) := .bind fun _ _ => .bind fun _ _ => .ok _

theorem single_disputeUpdate (item : Block.Item) : Single (disputeUpdate item) :=
  .bind fun _ _ => .ok _

theorem single_settlementUpdate (header : Block.Header) (item : Block.Item) :
    Single (settlementUpdate header item) :=
  .bind fun _ _ => .bind fun _ _ => .bind fun _ _ => .ok _

end Record

namespace Indexer

open Outcome (Single)

/-- A felt has the value of one of some texts if it has that of the first one it can be told from
by none before. -/
theorem sameAsAny_cons_eq_true_iff {felt : Json} {s : String} {rest : List String} :
    sameAsAny felt (s :: rest) = .ok true ↔
      Felt.same felt (.text s) = .ok true ∨
        (Felt.same felt (.text s) = .ok false ∧ sameAsAny felt rest = .ok true) := by
  rw [sameAsAny, Outcome.bind_eq_ok_iff]
  constructor
  · rintro ⟨same, hsame, hrest⟩
    cases same with
    | true => exact .inl hsame
    | false => exact .inr ⟨hsame, hrest⟩
  · rintro (hsame | ⟨hsame, hrest⟩)
    · exact ⟨true, hsame, rfl⟩
    · exact ⟨false, hsame, hrest⟩

theorem sameAsAny_of_wants {indexer : Indexer} {event : Block.Event} {contract : Json}
    (h : indexer.wants event contract = .ok true) :
    sameAsAny event.selector indexer.selectors = .ok true := by
  obtain ⟨sent, _, hselector⟩ := Outcome.bind_eq_ok_iff.mp h
  cases sent with
  | true => exact hselector
  | false => cases hselector

/-- The selectors of requests for random words are those that their mapping tells apart. -/
theorem single_randomness {header : Block.Header} {item : Block.Item} {context : Record.Context}
    (h : sameAsAny item.event.selector randomnessRequests.selectors = .ok true) :
    Single (Record.randomness header item context) := by
  rcases sameAsAny_cons_eq_true_iff.mp h with hrequest | ⟨hnot, hrest⟩
  · exact .bind_of_ok hrequest (Record.single_requestInsert header item context)
  · refine .bind_of_ok hnot ?_
    rcases sameAsAny_cons_eq_true_iff.mp hrest with hchange | ⟨_, hnone⟩
    · exact .bind_of_ok hchange (Record.single_statusUpdate header item)
    · cases hnone

/-- So are the selectors of assertions, which the mapping asks for in another order. -/
theorem single_assertion {header : Block.Header} {item : Block.Item} {context : Record.Context}
    (h : sameAsAny item.event.selector assertionRequests.selectors = .ok true) :
    Single (Record.assertion header item context) := by
  rcases sameAsAny_cons_eq_true_iff.mp h with hmade | ⟨hnotMade, hrest⟩
  · exact .bind_of_ok hmade (Record.single_assertionInsert header item context)
  · refine .bind_of_ok hnotMade (.bind fun disputed hdisputed => ?_)
    cases disputed with
    | true => exact Record.single_disputeUpdate item
    | false =>
      rcases sameAsAny_cons_eq_true_iff.mp hrest with hsettled | ⟨_, hlast⟩
      · exact .bind_of_ok hsettled (Record.single_settlementUpdate header item)
      · rcases sameAsAny_cons_eq_true_iff.mp hlast with hother | ⟨_, hnone⟩
        · rw [hdisputed] at hother
          cases hother
        · cases hnone

/-- A wanted event does not become no output, nor two. -/
theorem single_outputs_of_wants {indexer : Indexer} (hindexer : indexer ∈ all)
    {header : Block.Header} {item : Block.Item} {context : Record.Context} {contract : Json}
    (h : indexer.wants item.event contract = .ok true) :
    Single (indexer.mapping.outputs header item context) := by
  have hselector := sameAsAny_of_wants h
  simp only [all, List.mem_cons, List.not_mem_nil, or_false] at hindexer
  rcases hindexer with rfl | rfl | rfl | rfl | rfl | rfl
  · exact Record.single_spotEntry header item context
  · exact Record.single_checkpoint header item context
  · exact Record.single_futureEntry header item context
  · exact Record.single_feedUpdate header item context
  · exact single_randomness hselector
  · exact single_assertion hselector

/-! ## All events of a batch -/

/-- Whether it can be told that an event is wanted, and it is. -/
def listensTo (indexer : Indexer) (contract : Json) (item : Block.Item) : Bool :=
  match indexer.wants item.event contract with
  | .ok wanted => wanted
  | .error _ => false

/-- Events, the outputs that stand for some of them, and the notes on those left out, all in the
order of the events. -/
inductive Accounted (indexer : Indexer) (context : Record.Context) (contract : Json)
    (skipFailed : Bool) (header : Block.Header) :
    List Block.Item → List Output → List Note → Prop
  | nil : Accounted indexer context contract skipFailed header [] [] []
  /-- an event that is not wanted leaves nothing -/
  | unwanted {item : Block.Item} {items : List Block.Item} {outputs : List Output}
      {skips : List Note} (unwanted : indexer.wants item.event contract = .ok false)
      (rest : Accounted indexer context contract skipFailed header items outputs skips) :
    Accounted indexer context contract skipFailed header (item :: items) outputs skips
  /-- a wanted event becomes one output -/
  | mapped {item : Block.Item} {items : List Block.Item} {output : Output} {outputs : List Output}
      {skips : List Note} (wanted : indexer.wants item.event contract = .ok true)
      (maps : indexer.mapping.outputs header item context = .ok [output])
      (rest : Accounted indexer context contract skipFailed header items outputs skips) :
    Accounted indexer context contract skipFailed header (item :: items) (output :: outputs) skips
  /-- a wanted event that fails is noted, if it may be left out -/
  | leftOut {item : Block.Item} {items : List Block.Item} {outputs : List Output}
      {skips : List Note} {fault : Fault} (allowed : skipFailed = true)
      (wanted : indexer.wants item.event contract = .ok true)
      (fails : indexer.mapping.outputs header item context = .error fault)
      (rest : Accounted indexer context contract skipFailed header items outputs skips) :
    Accounted indexer context contract skipFailed header (item :: items) outputs
      (.skipped indexer.name item header.number fault :: skips)

section

variable {indexer : Indexer} {context : Record.Context} {contract : Json} {skipFailed : Bool}
  {header : Block.Header} {items : List Block.Item} {outputs : List Output} {skips : List Note}

/-- The outputs and the notes are together as many as the wanted events. -/
theorem Accounted.length_add_length
    (h : indexer.Accounted context contract skipFailed header items outputs skips) :
    outputs.length + skips.length = items.countP (indexer.listensTo contract) := by
  induction h with
  | nil => rfl
  | @unwanted item _ _ _ unwanted _ ih =>
    have hnot : ¬ indexer.listensTo contract item = true := by simp [listensTo, unwanted]
    rw [List.countP_cons_of_neg hnot, ih]
  | @mapped item _ _ _ _ wanted _ _ ih =>
    have hyes : indexer.listensTo contract item = true := by simp [listensTo, wanted]
    rw [List.countP_cons_of_pos hyes, ← ih, List.length_cons]
    omega
  | @leftOut item _ _ _ _ _ wanted _ _ ih =>
    have hyes : indexer.listensTo contract item = true := by simp [listensTo, wanted]
    rw [List.countP_cons_of_pos hyes, ← ih, List.length_cons]
    omega

/-- Where failing events may not be left out, none is. -/
theorem Accounted.skips_eq_nil
    (h : indexer.Accounted context contract false header items outputs skips) : skips = [] := by
  induction h with
  | nil => rfl
  | unwanted _ _ ih => exact ih
  | mapped _ _ _ ih => exact ih
  | leftOut allowed => cases allowed

theorem mapItem_accounted (hindexer : indexer ∈ all) {item : Block.Item} {own : List Output}
    (hwanted : indexer.wants item.event contract = .ok true)
    (h : (indexer.mapItem context skipFailed header item).result = .ok own)
    (hrest : indexer.Accounted context contract skipFailed header items outputs skips) :
    indexer.Accounted context contract skipFailed header (item :: items) (own ++ outputs)
      ((indexer.mapItem context skipFailed header item).skips ++ skips) := by
  cases houtputs : indexer.mapping.outputs header item context with
  | ok made =>
    rw [mapItem_of_ok houtputs] at h ⊢
    obtain rfl : made = own := Except.ok.inj h
    obtain ⟨output, rfl⟩ := single_outputs_of_wants hindexer hwanted made houtputs
    have hnone : (⟨indexer.mapping.notes item context, .ok [output]⟩ : Noted _).skips = [] :=
      skips_notes indexer.mapping item context
    rw [hnone]
    exact .mapped hwanted houtputs hrest
  | error fault =>
    cases hskip : skipFailed && fault.isSkippable with
    | false =>
      simp only [mapItem, houtputs, hskip] at h
      cases h
    | true =>
      obtain ⟨rfl, hfault⟩ := Bool.and_eq_true_iff.mp hskip
      rw [mapItem_of_skippable houtputs hfault] at h ⊢
      obtain rfl : [] = own := Except.ok.inj h
      rw [Noted.skips, List.filter_append, skips_notes]
      exact .leftOut rfl hwanted houtputs hrest

theorem transformItem_accounted (hindexer : indexer ∈ all) {item : Block.Item} {own : List Output}
    (h : (indexer.transformItem context (some contract) skipFailed header item).result = .ok own)
    (hrest : indexer.Accounted context contract skipFailed header items outputs skips) :
    indexer.Accounted context contract skipFailed header (item :: items) (own ++ outputs)
      ((indexer.transformItem context (some contract) skipFailed header item).skips ++ skips) := by
  rw [transformItem, wantsItem] at h ⊢
  cases hwants : indexer.wants item.event contract with
  | error fault =>
    rw [hwants] at h
    cases h
  | ok wanted =>
    rw [hwants] at h
    cases wanted with
    | false =>
      obtain rfl : [] = own := Except.ok.inj h
      exact .unwanted hwants hrest
    | true => exact mapItem_accounted hindexer hwants h hrest

/-- What one event adds is accounted for, and so is what all of them leave. -/
theorem transformItems_accounted (hindexer : indexer ∈ all)
    (h : (indexer.transformItems context (some contract) skipFailed header items).result
      = .ok outputs) :
    indexer.Accounted context contract skipFailed header items outputs
      (indexer.transformItems context (some contract) skipFailed header items).skips := by
  induction items generalizing outputs with
  | nil =>
    obtain rfl : [] = outputs := Except.ok.inj h
    exact .nil
  | cons item rest ih =>
    rw [transformItems] at h ⊢
    obtain ⟨own, hown, hothers, hskips⟩ := Noted.bind_eq_ok h
    obtain ⟨others, hmore, hdone, hmoreSkips⟩ := Noted.bind_eq_ok hothers
    obtain rfl : own ++ others = outputs := Except.ok.inj hdone
    have hnone : (pure (own ++ others) : Noted (List Output)).skips = [] := rfl
    rw [hskips, hmoreSkips, hnone, List.append_nil]
    exact transformItem_accounted hindexer hown (ih hmore)

end

/-- For a registered indexer a wanted event never becomes no output or two.  When a batch gives
outputs, its events are accounted for in order; the outputs and the events noted as left out are
together as many as the wanted events, and none is left out unless failing events may be. -/
theorem transform_accounted {indexer : Indexer} (hindexer : indexer ∈ all) (contract : Json)
    (context : Record.Context) :
    (∀ (header : Block.Header) (item : Block.Item) (outputs : List Output),
      indexer.wants item.event contract = .ok true →
      indexer.mapping.outputs header item context = .ok outputs → outputs.length = 1) ∧
    ∀ (skipFailed : Bool) (document : Json) (outputs : List Output),
      (indexer.transform document context (some contract) skipFailed).result = .ok outputs →
      ∃ batch, Block.Batch.ofDocument document = .ok batch ∧
        indexer.Accounted context contract skipFailed batch.header batch.items outputs
          (indexer.transform document context (some contract) skipFailed).skips ∧
        outputs.length
            + (indexer.transform document context (some contract) skipFailed).skips.length
          = batch.items.countP (indexer.listensTo contract) ∧
        (skipFailed = false →
          (indexer.transform document context (some contract) skipFailed).skips = []) := by
  constructor
  · intro header item outputs hwanted houtputs
    obtain ⟨output, rfl⟩ := single_outputs_of_wants hindexer hwanted outputs houtputs
    rfl
  · intro skipFailed document outputs h
    rw [transform] at h ⊢
    obtain ⟨batch, hbatch, hitems, hskips⟩ := Noted.bind_eq_ok h
    have haccounted := transformItems_accounted hindexer hitems
    have hplain : (Noted.plain (Block.Batch.ofDocument document)).skips = [] := rfl
    rw [hskips, hplain, List.nil_append]
    refine ⟨batch, hbatch, haccounted, haccounted.length_add_length, ?_⟩
    rintro rfl
    exact haccounted.skips_eq_nil

/-- A batch of a dispute from elsewhere, a dispute, and a settlement that lacks its data. -/
private def disputesDocument : Json :=
  Block.batchDocument 7
    [Block.eventDocument "0xC1" Record.assertionDisputedSelector ["0xa", "0x1", "0x2", "0x3"],
      Record.disputeDocument ["0xa", "0x1", "0x2", "0x3"],
      Block.eventDocument "0x0c0" Record.assertionSettledSelector ["0xa"]]

/-- Of a dispute from elsewhere, a dispute and a settlement that lacks its data, one becomes an
output and one is noted as left out. -/
theorem transform_accounted_disputes :
    (assertionRequests.transform disputesDocument ⟨"net", ⟨none, none⟩⟩ (some (.text "0xC0"))
        true).result
      = .ok [Record.disputeOutput "0xa"] ∧
    (assertionRequests.transform disputesDocument ⟨"net", ⟨none, none⟩⟩ (some (.text "0xC0"))
        true).skips.length = 1 ∧
    ∃ batch, Block.Batch.ofDocument disputesDocument = .ok batch ∧
      batch.items.countP (assertionRequests.listensTo (.text "0xC0")) = 2 := by
  have hindexer : assertionRequests ∈ all := by simp [all]
  have hresult : (assertionRequests.transform disputesDocument ⟨"net", ⟨none, none⟩⟩
      (some (.text "0xC0")) true).result
      = .ok [Record.disputeOutput "0xa"] := rfl
  obtain ⟨_, hbatches⟩ := transform_accounted hindexer (.text "0xC0") ⟨"net", ⟨none, none⟩⟩
  obtain ⟨batch, hbatch, _, hcount, _⟩ := hbatches true disputesDocument _ hresult
  have hskips : (assertionRequests.transform disputesDocument ⟨"net", ⟨none, none⟩⟩
      (some (.text "0xC0")) true).skips.length = 1 := rfl
  rw [hskips] at hcount
  exact ⟨hresult, hskips, batch, hbatch, hcount.symm⟩

end Indexer

end OracleIndexer
