import OracleIndexer.Proofs.Block.Reading
import OracleIndexer.Proofs.Indexer.Skipping
import OracleIndexer.Proofs.Noted
import OracleIndexer.Proofs.Record.Columns
set_option autoImplicit false

/-!
# Leaving an event out is taking it away

A run that leaves failing events out gives what a strict run gives on the batch without these
events.  Which events they are does not depend on the others: they are the wanted ones for which a
strict run fails on the batch of that event alone.
-/

namespace OracleIndexer.Indexer

variable {indexer : Indexer} {context : Record.Context} {contract : Option Json}
  {header : Block.Header} {item : Block.Item} {items : List Block.Item} {outputs : List Output}

/-! ## One event -/

/-- What becomes of an event where failing events may be left out, compared with a strict run. -/
inductive Treated (indexer : Indexer) (context : Record.Context) (contract : Option Json)
    (header : Block.Header) (item : Block.Item) : Prop
  /-- the same becomes of it, and nothing is noted as left out -/
  | alike
      (same : indexer.transformItem context contract true header item
        = indexer.transformItem context contract false header item)
      (quiet : (indexer.transformItem context contract true header item).skips = [])
      (final : ∀ fault, indexer.wantsItem contract item = .ok true →
        (indexer.transformItem context contract false header item).result = .error fault →
        fault.isSkippable = false)
  /-- it is noted as left out, where a strict run fails -/
  | leftOut {fault : Fault} (wanted : indexer.wantsItem contract item = .ok true)
      (skippable : fault.isSkippable = true)
      (fails : (indexer.transformItem context contract false header item).result = .error fault)
      (nothing : (indexer.transformItem context contract true header item).result = .ok [])
      (noted : (indexer.transformItem context contract true header item).skips
        = [.skipped indexer.name item header.number fault])

theorem mapItem_strict_of_error {fault : Fault}
    (h : indexer.mapping.outputs header item context = .error fault) :
    indexer.mapItem context false header item
      = ⟨indexer.mapping.notes item context, .error fault⟩ := by
  rw [mapItem, h]
  rfl

/-- A fault that does not concern the event alone ends both kinds of run. -/
theorem mapItem_of_not_skippable {skipFailed : Bool} {fault : Fault}
    (h : indexer.mapping.outputs header item context = .error fault)
    (hfault : fault.isSkippable = false) :
    indexer.mapItem context skipFailed header item
      = ⟨indexer.mapping.notes item context, .error fault⟩ := by
  rw [mapItem, h]
  simp only [hfault, Bool.and_false, Bool.false_eq_true, if_false]

theorem treated (indexer : Indexer) (context : Record.Context) (contract : Option Json)
    (header : Block.Header) (item : Block.Item) :
    indexer.Treated context contract header item := by
  have hquiet : ∀ result : Outcome (List Output),
      (⟨indexer.mapping.notes item context, result⟩ : Noted (List Output)).skips = [] :=
    fun _ => skips_notes indexer.mapping item context
  cases hwants : indexer.wantsItem contract item with
  | error fault =>
    refine .alike ?_ ?_ ?_
    · simp only [transformItem, hwants]
    · simp only [transformItem, hwants, Noted.skips, List.filter_nil]
    · intro other hwanted
      cases hwants.symm.trans hwanted
  | ok wanted =>
    cases wanted with
    | false =>
      refine .alike ?_ ?_ ?_
      · simp only [transformItem, hwants]
      · simp only [transformItem, hwants, Noted.skips, List.filter_nil]
      · intro other hwanted
        cases hwants.symm.trans hwanted
    | true =>
      have hitem : ∀ skipFailed, indexer.transformItem context contract skipFailed header item
          = indexer.mapItem context skipFailed header item := by
        intro skipFailed
        rw [transformItem, hwants]
      cases houtputs : indexer.mapping.outputs header item context with
      | ok made =>
        refine .alike ?_ ?_ ?_
        · rw [hitem, hitem, mapItem_of_ok houtputs, mapItem_of_ok houtputs]
        · rw [hitem, mapItem_of_ok houtputs, hquiet]
        · intro other _ hother
          rw [hitem, mapItem_of_ok houtputs] at hother
          cases hother
      | error fault =>
        cases hfault : fault.isSkippable with
        | false =>
          refine .alike ?_ ?_ ?_
          · rw [hitem, hitem, mapItem_of_not_skippable houtputs hfault,
              mapItem_of_not_skippable houtputs hfault]
          · rw [hitem, mapItem_of_not_skippable houtputs hfault, hquiet]
          · intro other _ hother
            rw [hitem, mapItem_of_not_skippable houtputs hfault] at hother
            rw [← Except.error.inj hother, hfault]
        | true =>
          refine .leftOut hwants hfault ?_ ?_ ?_
          · rw [hitem, mapItem_strict_of_error houtputs]
          · rw [hitem, mapItem_of_skippable houtputs hfault]
          · rw [hitem, mapItem_of_skippable houtputs hfault, Noted.skips, List.filter_append,
              skips_notes]
            rfl

/-- A strict run notes no event as left out. -/
theorem skips_transformItem_strict :
    (indexer.transformItem context contract false header item).skips = [] := by
  cases hwants : indexer.wantsItem contract item with
  | error fault => simp only [transformItem, hwants, Noted.skips, List.filter_nil]
  | ok wanted =>
    cases wanted with
    | false => simp only [transformItem, hwants, Noted.skips, List.filter_nil]
    | true =>
      simp only [transformItem, hwants]
      cases houtputs : indexer.mapping.outputs header item context with
      | ok made =>
        rw [mapItem_of_ok houtputs]
        exact skips_notes indexer.mapping item context
      | error fault =>
        rw [mapItem_strict_of_error houtputs]
        exact skips_notes indexer.mapping item context

/-- Nothing is noted as left out for an event that ends the run. -/
theorem skips_of_transformItem_eq_error {fault : Fault}
    (h : (indexer.transformItem context contract true header item).result = .error fault) :
    (indexer.transformItem context contract true header item).skips = [] := by
  cases indexer.treated context contract header item with
  | alike _ quiet _ => exact quiet
  | leftOut _ _ _ nothing _ => cases nothing.symm.trans h

/-! ## All events -/

/-- The note that an event is left out, when a run that leaves failing events out comes to it. -/
def skipsOf (indexer : Indexer) (context : Record.Context) (contract : Option Json)
    (header : Block.Header) (item : Block.Item) : List Note :=
  (indexer.transformItem context contract true header item).skips

/-- Whether an event is not noted as left out. -/
def stays (indexer : Indexer) (context : Record.Context) (contract : Option Json)
    (header : Block.Header) (item : Block.Item) : Bool :=
  (indexer.skipsOf context contract header item).isEmpty

theorem skips_transformItems_strict :
    (indexer.transformItems context contract false header items).skips = [] := by
  induction items with
  | nil => rfl
  | cons item rest ih =>
    rw [transformItems]
    cases hfirst : (indexer.transformItem context contract false header item).result with
    | error fault =>
      rw [Noted.bind_of_error hfirst]
      exact skips_transformItem_strict
    | ok made =>
      rw [Noted.skips_bind_of_ok hfirst, skips_transformItem_strict, List.nil_append]
      cases hmore : (indexer.transformItems context contract false header rest).result with
      | error fault =>
        rw [Noted.bind_of_error hmore]
        exact ih
      | ok more =>
        rw [Noted.skips_bind_of_ok hmore, ih]
        rfl

/-- A run over events gives those of the first one and then those of the others. -/
theorem transformItems_cons_eq_ok {skipFailed : Bool} {rest : List Block.Item}
    (h : (indexer.transformItems context contract skipFailed header (item :: rest)).result
      = .ok outputs) :
    ∃ made more,
      (indexer.transformItem context contract skipFailed header item).result = .ok made ∧
      (indexer.transformItems context contract skipFailed header rest).result = .ok more ∧
      outputs = made ++ more ∧
      (indexer.transformItems context contract skipFailed header (item :: rest)).skips
        = (indexer.transformItem context contract skipFailed header item).skips
          ++ (indexer.transformItems context contract skipFailed header rest).skips := by
  rw [transformItems] at h ⊢
  obtain ⟨made, hmade, hothers, hskips⟩ := Noted.bind_eq_ok h
  obtain ⟨more, hmore, hdone, hmoreSkips⟩ := Noted.bind_eq_ok hothers
  refine ⟨made, more, hmade, hmore, (Except.ok.inj hdone).symm, ?_⟩
  have hnone : (pure (made ++ more) : Noted (List Output)).skips = [] := rfl
  rw [hskips, hmoreSkips, hnone, List.append_nil]

theorem transformItems_cons_of_ok {skipFailed : Bool} {rest : List Block.Item}
    {made more : List Output}
    (hmade : (indexer.transformItem context contract skipFailed header item).result = .ok made)
    (hmore : (indexer.transformItems context contract skipFailed header rest).result = .ok more) :
    (indexer.transformItems context contract skipFailed header (item :: rest)).result
      = .ok (made ++ more) := by
  rw [transformItems, Noted.bind_of_ok hmade, Noted.bind_of_ok hmore]
  rfl

/-- A run that leaves failing events out gives what a strict run gives without these events. -/
theorem transformItems_filter
    (h : (indexer.transformItems context contract true header items).result = .ok outputs) :
    (indexer.transformItems context contract true header items).skips
        = items.flatMap (indexer.skipsOf context contract header) ∧
      (indexer.transformItems context contract false header
          (items.filter (indexer.stays context contract header))).result = .ok outputs := by
  induction items generalizing outputs with
  | nil => exact ⟨rfl, h⟩
  | cons item rest ih =>
    obtain ⟨made, more, hmade, hmore, rfl, hskips⟩ := transformItems_cons_eq_ok h
    obtain ⟨hrest, hstrict⟩ := ih hmore
    refine ⟨by rw [hskips, hrest, List.flatMap_cons, skipsOf], ?_⟩
    cases indexer.treated context contract header item with
    | alike same quiet final =>
      have hkept : indexer.stays context contract header item = true := by
        rw [stays, skipsOf, quiet, List.isEmpty_nil]
      rw [List.filter_cons_of_pos hkept]
      rw [same] at hmade
      exact transformItems_cons_of_ok hmade hstrict
    | leftOut wanted skippable fails nothing noted =>
      have hdropped : ¬ indexer.stays context contract header item = true := by
        rw [stays, skipsOf, noted, List.isEmpty_cons]
        exact Bool.false_ne_true
      rw [List.filter_cons_of_neg hdropped]
      obtain rfl : [] = made := Except.ok.inj (nothing.symm.trans hmade)
      exact hstrict

/-- Where a strict run gives outputs, leaving failing events out changes nothing. -/
theorem transformItems_of_strict
    (h : (indexer.transformItems context contract false header items).result = .ok outputs) :
    (indexer.transformItems context contract true header items).result = .ok outputs ∧
      (indexer.transformItems context contract true header items).skips = [] := by
  induction items generalizing outputs with
  | nil => exact ⟨h, rfl⟩
  | cons item rest ih =>
    obtain ⟨made, more, hmade, hmore, rfl, _⟩ := transformItems_cons_eq_ok h
    obtain ⟨hrest, hrestSkips⟩ := ih hmore
    cases indexer.treated context contract header item with
    | alike same quiet final =>
      rw [← same] at hmade
      have hall := transformItems_cons_of_ok hmade hrest
      obtain ⟨_, _, _, _, _, hskips⟩ := transformItems_cons_eq_ok hall
      exact ⟨hall, by rw [hskips, quiet, hrestSkips, List.append_nil]⟩
    | leftOut wanted skippable fails nothing noted => cases fails.symm.trans hmade

/-- A run that ends with a fault has noted the events in front of the one that ends it. -/
theorem skips_transformItems_of_error {fault : Fault}
    (h : (indexer.transformItems context contract true header items).result = .error fault) :
    ∃ front last back, items = front ++ last :: back ∧
      (indexer.transformItem context contract true header last).result = .error fault ∧
      (indexer.transformItems context contract true header items).skips
        = front.flatMap (indexer.skipsOf context contract header) := by
  induction items with
  | nil => cases h
  | cons item rest ih =>
    rw [transformItems] at h ⊢
    cases hfirst : (indexer.transformItem context contract true header item).result with
    | error other =>
      rw [Noted.bind_of_error hfirst] at h ⊢
      obtain rfl : other = fault := Except.error.inj h
      exact ⟨[], item, rest, rfl, hfirst, skips_of_transformItem_eq_error hfirst⟩
    | ok made =>
      rw [Noted.result_bind, hfirst, Outcome.ok_bind] at h
      rw [Noted.skips_bind_of_ok hfirst]
      cases hmore : (indexer.transformItems context contract true header rest).result with
      | ok more =>
        rw [Noted.bind_of_ok hmore] at h
        cases h
      | error other =>
        rw [Noted.bind_of_error hmore] at h ⊢
        obtain rfl : other = fault := Except.error.inj h
        obtain ⟨front, last, back, hsplit, hlast, hskips⟩ := ih hmore
        refine ⟨item :: front, last, back, by rw [hsplit, List.cons_append], hlast, ?_⟩
        rw [List.flatMap_cons, ← hskips]
        rfl

/-! ## Batches -/

/-- The note that an event is left out, the event being given as a document. -/
def skipsAt (indexer : Indexer) (context : Record.Context) (contract : Option Json)
    (header : Block.Header) (event : Json) : List Note :=
  match Block.Item.ofDocument event with
  | .ok item => indexer.skipsOf context contract header item
  | .error _ => []

/-- An event that passes the filter, and for which alone a strict run fails with a fault that
concerns one event. -/
structure FailsAlone (indexer : Indexer) (context : Record.Context) (contract : Option Json)
    (members : List (String × Json)) (event : Json) (item : Block.Item) (fault : Fault) :
    Prop where
  read : Block.Item.ofDocument event = .ok item
  wanted : indexer.wantsItem contract item = .ok true
  skippable : fault.isSkippable = true
  fails : (indexer.transform (Block.withEvents members [event]) context contract false).result
    = .error fault

/-- A run on a batch that is read works on its events. -/
theorem transform_of_read {document : Json} {batch : Block.Batch}
    (h : Block.Batch.ofDocument document = .ok batch) (skipFailed : Bool) :
    indexer.transform document context contract skipFailed
      = indexer.transformItems context contract skipFailed batch.header batch.items := by
  rw [transform, h, Noted.bind_of_ok rfl]
  rfl

theorem transform_of_unread {document : Json} {fault : Fault}
    (h : Block.Batch.ofDocument document = .error fault) (skipFailed : Bool) :
    indexer.transform document context contract skipFailed = ⟨[], .error fault⟩ := by
  rw [transform, h, Noted.bind_of_error rfl]
  rfl

/-- The strict result on the batch of one event is that of the event. -/
theorem transform_withEvent {members : List (String × Json)} {event : Json}
    (hheader : Block.Header.ofDocument (Json.memberOf members "header") = .ok header)
    (hitem : Block.Item.ofDocument event = .ok item) {fault : Fault} :
    (indexer.transform (Block.withEvents members [event]) context contract false).result
        = .error fault ↔
      (indexer.transformItem context contract false header item).result = .error fault := by
  have hitems : Block.itemsOfDocuments [event] = .ok [item] :=
    Block.itemsOfDocuments_eq_ok_iff.mpr (.cons hitem .nil)
  rw [transform_of_read (Block.ofDocument_withEvents hheader hitems), transformItems,
    Noted.result_bind]
  cases (indexer.transformItem context contract false header item).result with
  | error other => rfl
  | ok made =>
    constructor <;> intro h <;> cases h

/-- An event is noted as left out exactly if it fails alone, and with the fault it fails with. -/
theorem skipsAt_of_read {members : List (String × Json)} {event : Json}
    (hheader : Block.Header.ofDocument (Json.memberOf members "header") = .ok header)
    (hitem : Block.Item.ofDocument event = .ok item) :
    (indexer.skipsAt context contract header event ≠ [] ↔
      ∃ fault, indexer.FailsAlone context contract members event item fault) ∧
    ∀ fault, indexer.FailsAlone context contract members event item fault →
      indexer.skipsAt context contract header event
        = [.skipped indexer.name item header.number fault] := by
  have hskips : indexer.skipsAt context contract header event
      = indexer.skipsOf context contract header item := by
    rw [skipsAt, hitem]
  rw [hskips, skipsOf]
  cases indexer.treated context contract header item with
  | alike same quiet final =>
    have hnever : ∀ fault, ¬ indexer.FailsAlone context contract members event item fault := by
      intro fault halone
      have hfinal := final fault halone.wanted
        ((transform_withEvent hheader hitem).mp halone.fails)
      rw [halone.skippable] at hfinal
      cases hfinal
    refine ⟨⟨fun hnote => absurd quiet hnote, ?_⟩, fun fault halone => absurd halone (hnever fault)⟩
    rintro ⟨fault, halone⟩
    exact absurd halone (hnever fault)
  | @leftOut fault wanted skippable fails nothing noted =>
    have halone : indexer.FailsAlone context contract members event item fault :=
      ⟨hitem, wanted, skippable, (transform_withEvent hheader hitem).mpr fails⟩
    rw [noted]
    refine ⟨⟨fun _ => ⟨fault, halone⟩, fun _ => List.cons_ne_nil _ _⟩, ?_⟩
    intro other hother
    have hfails := (transform_withEvent hheader hitem).mp hother.fails
    rw [Except.error.inj (fails.symm.trans hfails)]

/-- The notes on events given as documents are those on their items. -/
theorem flatMap_skipsAt {events : List Json} (h : Block.itemsOfDocuments events = .ok items) :
    events.flatMap (indexer.skipsAt context contract header)
      = items.flatMap (indexer.skipsOf context contract header) := by
  have hitems := Block.itemsOfDocuments_eq_ok_iff.mp h
  clear h
  induction hitems with
  | nil => rfl
  | cons hfirst _ ih => rw [List.flatMap_cons, List.flatMap_cons, ih, skipsAt, hfirst]

/-- Events that are not noted as left out are read as the items that stay. -/
theorem itemsOfDocuments_filter {events : List Json}
    (h : Block.itemsOfDocuments events = .ok items) :
    Block.itemsOfDocuments
        (events.filter fun event => (indexer.skipsAt context contract header event).isEmpty)
      = .ok (items.filter (indexer.stays context contract header)) := by
  refine Block.itemsOfDocuments_eq_ok_iff.mpr ?_
  refine List.rel_filter ?_ (Block.itemsOfDocuments_eq_ok_iff.mp h)
  intro event item hitem
  show (indexer.skipsAt context contract header event).isEmpty = true
    ↔ indexer.stays context contract header item = true
  rw [skipsAt, hitem, stays]

/-- Where the items of events are split, so are the events. -/
theorem exists_split_of_items {events : List Json} {front back : List Block.Item}
    {last : Block.Item} (h : Block.itemsOfDocuments events = .ok (front ++ last :: back)) :
    ∃ earlier event later, events = earlier ++ event :: later ∧
      Block.itemsOfDocuments earlier = .ok front := by
  have hitems := Block.itemsOfDocuments_eq_ok_iff.mp h
  have hfront := List.forall₂_take_append _ _ _ hitems
  obtain ⟨event, later, _, _, hlater⟩ :=
    List.forall₂_cons_right_iff.mp (List.forall₂_drop_append _ _ _ hitems)
  refine ⟨events.take front.length, event, later, ?_,
    Block.itemsOfDocuments_eq_ok_iff.mpr hfront⟩
  rw [← hlater, List.take_append_drop]

/-- When a run that leaves failing events out gives outputs, a strict run gives the same on the
batch without the events noted as left out, and notes none.  An event is noted exactly if it passes
the filter and a strict run on the batch of this event alone fails with a fault that concerns one
event; a run that ends with a fault has noted those in front of the event that ends it.  When a
strict run gives outputs, leaving failing events out gives the same and notes none. -/
theorem transform_without_leftOut (indexer : Indexer) (context : Record.Context)
    (contract : Option Json) (document : Json) :
    (∀ outputs, (indexer.transform document context contract true).result = .ok outputs →
      ∃ members header events, Block.TakenApart document members header events ∧
        (indexer.transform document context contract true).skips
          = events.flatMap (indexer.skipsAt context contract header) ∧
        let others := Block.withEvents members
          (events.filter fun event => (indexer.skipsAt context contract header event).isEmpty)
        (indexer.transform others context contract false).result = .ok outputs ∧
          (indexer.transform others context contract false).skips = []) ∧
    (∀ members header events, Block.TakenApart document members header events →
      ∀ event ∈ events, ∃ item, Block.Item.ofDocument event = .ok item ∧
        (indexer.skipsAt context contract header event ≠ [] ↔
          ∃ fault, indexer.FailsAlone context contract members event item fault) ∧
        ∀ fault, indexer.FailsAlone context contract members event item fault →
          indexer.skipsAt context contract header event
            = [.skipped indexer.name item header.number fault]) ∧
    (∀ fault, (indexer.transform document context contract true).result = .error fault →
      (indexer.transform document context contract true).skips = [] ∨
        ∃ members header front last back,
          Block.TakenApart document members header (front ++ last :: back) ∧
          (indexer.transform document context contract true).skips
            = front.flatMap (indexer.skipsAt context contract header)) ∧
    ∀ outputs, (indexer.transform document context contract false).result = .ok outputs →
      (indexer.transform document context contract true).result = .ok outputs ∧
        (indexer.transform document context contract true).skips = [] := by
  refine ⟨?_, ?_, ?_, ?_⟩
  · intro outputs h
    cases hbatch : Block.Batch.ofDocument document with
    | error fault =>
      rw [transform_of_unread hbatch] at h
      cases h
    | ok batch =>
      obtain ⟨members, events, hparts, hitems⟩ := Block.exists_takenApart hbatch
      rw [transform_of_read hbatch] at h ⊢
      obtain ⟨hskips, hstrict⟩ := transformItems_filter h
      have hothers : Block.Batch.ofDocument (Block.withEvents members (events.filter
          fun event => (indexer.skipsAt context contract batch.header event).isEmpty))
          = .ok ⟨batch.header, batch.items.filter (indexer.stays context contract batch.header)⟩ :=
        Block.ofDocument_withEvents hparts.ofHeader (itemsOfDocuments_filter hitems)
      refine ⟨members, batch.header, events, hparts, ?_, ?_⟩
      · rw [hskips, flatMap_skipsAt hitems]
      · intro others
        have hrun : indexer.transform _ context contract false = _ :=
          transform_of_read hothers false
        exact ⟨(congrArg Noted.result hrun).trans hstrict,
          (congrArg Noted.skips hrun).trans skips_transformItems_strict⟩
  · intro members header events hparts event hevent
    obtain ⟨item, hitem⟩ := hparts.ofEach event hevent
    exact ⟨item, hitem, skipsAt_of_read hparts.ofHeader hitem⟩
  · intro fault h
    cases hbatch : Block.Batch.ofDocument document with
    | error other =>
      rw [transform_of_unread hbatch]
      exact .inl rfl
    | ok batch =>
      obtain ⟨members, events, hparts, hitems⟩ := Block.exists_takenApart hbatch
      rw [transform_of_read hbatch] at h ⊢
      obtain ⟨front, last, back, hsplit, _, hskips⟩ := skips_transformItems_of_error h
      rw [hsplit] at hitems
      obtain ⟨earlier, event, later, rfl, hearlier⟩ := exists_split_of_items hitems
      refine .inr ⟨members, batch.header, earlier, event, later, hparts, ?_⟩
      rw [hskips, flatMap_skipsAt hearlier]
  · intro outputs h
    cases hbatch : Block.Batch.ofDocument document with
    | error fault =>
      rw [transform_of_unread hbatch] at h
      cases h
    | ok batch =>
      rw [transform_of_read hbatch] at h ⊢
      exact transformItems_of_strict h

open Record (disputeDocument disputeOutput)

/-- The members of a batch of two disputes, the first of which lacks its data. -/
private def disputedMembers : List (String × Json) :=
  [("header", .object [("blockNumber", .int 7)]),
    ("events", .array [disputeDocument [], disputeDocument ["0xa", "0x1", "0x2", "0x3"]])]

/-- Of two disputes the one that lacks its data is left out, since it fails alone; a strict run on
the batch of the other gives the same output. -/
theorem transform_without_leftOut_disputes :
    (assertionRequests.transform (.object disputedMembers) ⟨"net", ⟨none, none⟩⟩
      (some (.text "0x0c0")) true).result = .ok [disputeOutput "0xa"] ∧
    (assertionRequests.transform
        (Block.withEvents disputedMembers [disputeDocument ["0xa", "0x1", "0x2", "0x3"]])
        ⟨"net", ⟨none, none⟩⟩ (some (.text "0x0c0")) false).result = .ok [disputeOutput "0xa"] ∧
    ∃ item fault, assertionRequests.FailsAlone ⟨"net", ⟨none, none⟩⟩ (some (.text "0x0c0"))
      disputedMembers (disputeDocument []) item fault := by
  have hresult : (assertionRequests.transform (.object disputedMembers) ⟨"net", ⟨none, none⟩⟩
      (some (.text "0x0c0")) true).result = .ok [disputeOutput "0xa"] := rfl
  obtain ⟨hreturns, hevents, _⟩ := transform_without_leftOut assertionRequests
    ⟨"net", ⟨none, none⟩⟩ (some (.text "0x0c0")) (.object disputedMembers)
  obtain ⟨members, header, events, hparts, _, hothers, _⟩ :=
    hreturns [disputeOutput "0xa"] hresult
  obtain rfl : disputedMembers = members := Json.object.inj hparts.isObject
  obtain rfl : ⟨7, .null, .null⟩ = header := Except.ok.inj hparts.ofHeader
  obtain rfl : [disputeDocument [], disputeDocument ["0xa", "0x1", "0x2", "0x3"]] = events :=
    Except.ok.inj hparts.ofEvents
  obtain ⟨item, _, hnoted, _⟩ := hevents _ _ _ hparts (disputeDocument []) List.mem_cons_self
  exact ⟨hresult, hothers, item, hnoted.mp (List.cons_ne_nil _ _)⟩

end OracleIndexer.Indexer
