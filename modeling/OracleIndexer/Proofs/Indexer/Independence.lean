import OracleIndexer.Proofs.Indexer.Removal
import OracleIndexer.Proofs.Record.Columns
set_option autoImplicit false

/-!
# Events do not depend on each other

A run over two lists of events is the run over the first followed by that over the second.  So an
event leaves the same outputs and the same notes whatever stands beside it, and events in another
order leave what each of them leaves in that order.  All of this comes after the reading: where one
event does not read, nothing is asked of the others.
-/

namespace OracleIndexer

namespace Block

/-- Whether a batch reads with some events in place of its own. -/
def ReadsWith (members : List (String × Json)) (events : List Json) : Prop :=
  ∃ batch, Batch.ofDocument (withEvents members events) = .ok batch

variable {members : List (String × Json)} {front back : List Json}

/-- Joined lists of events read exactly if both do. -/
theorem itemsOfDocuments_append_eq_ok_iff {items : List Item} :
    itemsOfDocuments (front ++ back) = .ok items ↔
      ∃ first last, itemsOfDocuments front = .ok first ∧ itemsOfDocuments back = .ok last ∧
        items = first ++ last := by
  constructor
  · intro h
    have hitems := itemsOfDocuments_eq_ok_iff.mp h
    refine ⟨items.take front.length, items.drop front.length,
      itemsOfDocuments_eq_ok_iff.mpr ?_, itemsOfDocuments_eq_ok_iff.mpr ?_,
      (List.take_append_drop _ _).symm⟩
    · simpa using List.forall₂_take front.length hitems
    · simpa using List.forall₂_drop front.length hitems
  · rintro ⟨first, last, hfirst, hlast, rfl⟩
    exact itemsOfDocuments_eq_ok_iff.mpr (List.rel_append
      (itemsOfDocuments_eq_ok_iff.mp hfirst) (itemsOfDocuments_eq_ok_iff.mp hlast))

theorem readsWith_append_iff :
    ReadsWith members (front ++ back) ↔ ReadsWith members front ∧ ReadsWith members back := by
  constructor
  · rintro ⟨batch, hbatch⟩
    obtain ⟨hheader, hitems⟩ := ofDocument_withEvents_eq_ok_iff.mp hbatch
    obtain ⟨first, last, hfirst, hlast, _⟩ := itemsOfDocuments_append_eq_ok_iff.mp hitems
    exact ⟨⟨_, ofDocument_withEvents hheader hfirst⟩, ⟨_, ofDocument_withEvents hheader hlast⟩⟩
  · rintro ⟨⟨first, hfirst⟩, ⟨last, hlast⟩⟩
    obtain ⟨hheader, hfirst⟩ := ofDocument_withEvents_eq_ok_iff.mp hfirst
    obtain ⟨_, hlast⟩ := ofDocument_withEvents_eq_ok_iff.mp hlast
    exact ⟨_, ofDocument_withEvents hheader
      (itemsOfDocuments_append_eq_ok_iff.mpr ⟨_, _, hfirst, hlast, rfl⟩)⟩

end Block

namespace Indexer

/-! ## Runs over joined lists -/

/-- A run over joined lists of events is that over the first and then that over the second. -/
theorem transformItems_append (indexer : Indexer) (context : Record.Context)
    (contract : Option Json) (skipFailed : Bool) (header : Block.Header)
    (front back : List Block.Item) :
    indexer.transformItems context contract skipFailed header (front ++ back) = do
      let made ← indexer.transformItems context contract skipFailed header front
      let more ← indexer.transformItems context contract skipFailed header back
      return made ++ more := by
  induction front with
  | nil => simp only [List.nil_append, transformItems, pure_bind, bind_pure]
  | cons item rest ih =>
    simp only [List.cons_append, transformItems, ih, bind_assoc, pure_bind, List.append_assoc]

/-- What becomes of events, put into a batch in place of its own. -/
def transformEvents (indexer : Indexer) (context : Record.Context) (contract : Option Json)
    (skipFailed : Bool) (members : List (String × Json)) (events : List Json) :
    Noted (List Output) :=
  indexer.transform (Block.withEvents members events) context contract skipFailed

section

variable {indexer : Indexer} {context : Record.Context} {contract : Option Json}
  {skipFailed : Bool} {members : List (String × Json)} {events front back : List Json}

theorem transformEvents_append (hfront : Block.ReadsWith members front)
    (hback : Block.ReadsWith members back) :
    indexer.transformEvents context contract skipFailed members (front ++ back) = do
      let made ← indexer.transformEvents context contract skipFailed members front
      let more ← indexer.transformEvents context contract skipFailed members back
      return made ++ more := by
  obtain ⟨first, hfirst⟩ := hfront
  obtain ⟨last, hlast⟩ := hback
  obtain ⟨hheader, hitems⟩ := Block.ofDocument_withEvents_eq_ok_iff.mp hfirst
  obtain ⟨hsame, hmore⟩ := Block.ofDocument_withEvents_eq_ok_iff.mp hlast
  have hall := Block.ofDocument_withEvents hheader
    (Block.itemsOfDocuments_append_eq_ok_iff.mpr ⟨_, _, hitems, hmore, rfl⟩)
  unfold transformEvents
  rw [transform_of_read hall, transform_of_read hfirst, transform_of_read hlast,
    ← Except.ok.inj (hheader.symm.trans hsame), transformItems_append]

/-- What gives outputs has been read. -/
theorem readsWith_of_transformEvents {outputs : List Output}
    (h : (indexer.transformEvents context contract skipFailed members events).result
      = .ok outputs) : Block.ReadsWith members events := by
  cases hbatch : Block.Batch.ofDocument (Block.withEvents members events) with
  | ok batch => exact ⟨batch, hbatch⟩
  | error fault =>
    rw [transformEvents, transform_of_unread hbatch] at h
    contradiction

/-- Outputs of joined lists are those of the first, followed by those of the second. -/
theorem transformEvents_append_of_ok {made more : List Output}
    (hfront : (indexer.transformEvents context contract skipFailed members front).result
      = .ok made)
    (hback : (indexer.transformEvents context contract skipFailed members back).result
      = .ok more) :
    indexer.transformEvents context contract skipFailed members (front ++ back)
      = ⟨(indexer.transformEvents context contract skipFailed members front).notes
          ++ (indexer.transformEvents context contract skipFailed members back).notes,
        .ok (made ++ more)⟩ := by
  rw [transformEvents_append (readsWith_of_transformEvents hfront)
    (readsWith_of_transformEvents hback), Noted.bind_of_ok hfront, Noted.bind_of_ok hback]
  simp

/-- A run over joined lists fails as that over the first does, or else as that over the second. -/
theorem transformEvents_append_eq_error_iff (hfront : Block.ReadsWith members front)
    (hback : Block.ReadsWith members back) {fault : Fault} :
    (indexer.transformEvents context contract skipFailed members (front ++ back)).result
        = .error fault ↔
      (indexer.transformEvents context contract skipFailed members front).result = .error fault ∨
        ∃ made, (indexer.transformEvents context contract skipFailed members front).result
            = .ok made ∧
          (indexer.transformEvents context contract skipFailed members back).result
            = .error fault := by
  simp only [transformEvents_append hfront hback, Noted.result_bind, Outcome.bind_eq_error_iff,
    Noted.pure_result, reduceCtorEq, and_false, exists_false, or_false]

/-! ## One event beside others -/

/-- Where a run gives outputs, so does the run over each event alone. -/
theorem exists_transformEvents_singleton {outputs : List Output}
    (h : (indexer.transformEvents context contract skipFailed members events).result
      = .ok outputs) :
    ∀ event ∈ events, ∃ made,
      (indexer.transformEvents context contract skipFailed members [event]).result = .ok made := by
  induction events generalizing outputs with
  | nil => simp
  | cons event rest ih =>
    have hreads : Block.ReadsWith members ([event] ++ rest) := readsWith_of_transformEvents h
    obtain ⟨hevent, hrest⟩ := Block.readsWith_append_iff.mp hreads
    rw [← List.singleton_append, transformEvents_append hevent hrest] at h
    obtain ⟨made, hmade, hothers, _⟩ := Noted.bind_eq_ok h
    obtain ⟨more, hmore, _⟩ := Noted.bind_eq_ok hothers
    exact List.forall_mem_cons.mpr ⟨⟨made, hmade⟩, ih hmore⟩

/-- Events leave what each of them leaves alone, one after the other. -/
theorem transformEvents_of_each {noted : Json → List Note} {made : Json → List Output}
    (hnone : Block.ReadsWith members [])
    (heach : ∀ event ∈ events, indexer.transformEvents context contract skipFailed members [event]
      = ⟨noted event, .ok (made event)⟩) :
    indexer.transformEvents context contract skipFailed members events
      = ⟨events.flatMap noted, .ok (events.flatMap made)⟩ := by
  induction events with
  | nil =>
    obtain ⟨batch, hbatch⟩ := hnone
    have hitems : Except.ok [] = Except.ok batch.items :=
      (Block.ofDocument_withEvents_eq_ok_iff.mp hbatch).2
    rw [transformEvents, transform_of_read hbatch, ← Except.ok.inj hitems]
    rfl
  | cons event rest ih =>
    obtain ⟨hevent, hrest⟩ := List.forall_mem_cons.mp heach
    have hothers := ih hrest
    rw [← List.singleton_append, transformEvents_append_of_ok (congrArg Noted.result hevent)
      (congrArg Noted.result hothers), hevent, hothers]
    simp

/-- A batch that does not read leaves nothing but the fault. -/
theorem transformEvents_of_unread {header : Block.Header} {fault : Fault}
    (hheader : Block.Header.ofDocument (Json.memberOf members "header") = .ok header)
    (h : Block.itemsOfDocuments events = .error fault) :
    indexer.transformEvents context contract skipFailed members events = ⟨[], .error fault⟩ :=
  transform_of_unread (Block.ofDocument_withEvents_of_unread hheader h) skipFailed

/-- With its own events a batch gives what it gives. -/
theorem transformEvents_own (h : (Json.memberOf members "events").entries = .ok events) :
    indexer.transformEvents context contract skipFailed members events
      = indexer.transform (.object members) context contract skipFailed := by
  rw [transformEvents, transform, Block.ofDocument_withEvents_own h, transform]

end

/-- The events of a batch are independent.  Joined lists of events give the outputs and the notes of
the first list and then those of the second; they fail as the first list does, and as the second
where the first does not fail.  When a run gives outputs, each event leaves what it leaves alone,
and a run over the events in any other order gives the same for each of them in that order.  Before
any of this the events are read: if the header reads and some event does not, the run is refused
with the fault of the first such event, and nothing is noted. -/
theorem events_independent (indexer : Indexer) (context : Record.Context)
    (contract : Option Json) (skipFailed : Bool) (members : List (String × Json)) :
    let run := indexer.transformEvents context contract skipFailed members
    (∀ front back, Block.ReadsWith members front → Block.ReadsWith members back →
      (∀ made more, (run front).result = .ok made → (run back).result = .ok more →
        run (front ++ back) = ⟨(run front).notes ++ (run back).notes, .ok (made ++ more)⟩) ∧
      ∀ fault, (run (front ++ back)).result = .error fault ↔
        (run front).result = .error fault ∨
          ∃ made, (run front).result = .ok made ∧ (run back).result = .error fault) ∧
    (∀ events outputs, (run events).result = .ok outputs →
      ∃ (noted : Json → List Note) (made : Json → List Output),
        (∀ event ∈ events, run [event] = ⟨noted event, .ok (made event)⟩) ∧
        ∀ order : List Json, order.Perm events →
          run order = ⟨order.flatMap noted, .ok (order.flatMap made)⟩) ∧
    (∀ header, Block.Header.ofDocument (Json.memberOf members "header") = .ok header →
      ∀ events, ∀ event ∈ events, ∀ fault, Block.Item.ofDocument event = .error fault →
        ∃ front first back reason, events = front ++ first :: back ∧
          (∀ earlier ∈ front, ∃ item, Block.Item.ofDocument earlier = .ok item) ∧
          Block.Item.ofDocument first = .error reason ∧ run events = ⟨[], .error reason⟩) ∧
    ∀ events, (Json.memberOf members "events").entries = .ok events →
      run events = indexer.transform (.object members) context contract skipFailed := by
  intro run
  refine ⟨?_, ?_, ?_, ?_⟩
  · intro front back hfront hback
    constructor
    · intro made more hmade hmore
      exact transformEvents_append_of_ok hmade hmore
    · intro fault
      exact transformEvents_append_eq_error_iff hfront hback
  · intro events outputs houtputs
    choose! made hmade using exists_transformEvents_singleton houtputs
    have heach : ∀ event ∈ events, run [event] = ⟨(run [event]).notes, .ok (made event)⟩ := by
      intro event hevent
      rw [← hmade event hevent]
    have hnone : Block.ReadsWith members [] := by
      have hall : Block.ReadsWith members (events ++ []) := by
        rw [List.append_nil]
        exact readsWith_of_transformEvents houtputs
      exact (Block.readsWith_append_iff.mp hall).2
    refine ⟨fun event => (run [event]).notes, made, heach, ?_⟩
    intro order hperm
    apply transformEvents_of_each hnone
    intro event hevent
    exact heach event (hperm.mem_iff.mp hevent)
  · intro header hheader events event hevent fault hunread
    obtain ⟨front, first, back, reason, hsplit, hfront, hfirst, hitems⟩ :=
      Block.itemsOfDocuments_of_unread hevent hunread
    exact ⟨front, first, back, reason, hsplit, hfront, hfirst,
      transformEvents_of_unread hheader hitems⟩
  · intro events hevents
    exact transformEvents_own hevents

/-- The members of a batch without events. -/
private def headed : List (String × Json) := [("header", .object [("blockNumber", .int 7)])]

/-- A dispute that fails stops a strict run behind one that does not, and an event that does not
read stops it before that.  Where failing events are left out, the disputes may change places. -/
theorem events_independent_disputes :
    let strict := assertionRequests.transformEvents ⟨"net", ⟨none, none⟩⟩ none false headed
    let skipping := assertionRequests.transformEvents ⟨"net", ⟨none, none⟩⟩ none true headed
    let whole := Record.disputeDocument ["0xa", "0x1", "0x2", "0x3"]
    let short := Record.disputeDocument ["0xa"]
    (Block.ReadsWith headed [whole] ∧ Block.ReadsWith headed [short]) ∧
    (strict [whole, short]).result = .error (.layout (.short "AssertionDisputed" 4 1)) ∧
    (skipping [short, whole]).result = .ok [Record.disputeOutput "0xa"] ∧
    (∃ (noted : Json → List Note) (made : Json → List Output),
      (∀ event ∈ [short, whole], skipping [event] = ⟨noted event, .ok (made event)⟩) ∧
      skipping [whole, short] = ⟨noted whole ++ noted short, .ok (made whole ++ made short)⟩) ∧
    strict [short, .null, whole] = ⟨[], .error (.value .invalidItem)⟩ := by
  intro strict skipping whole short
  have hwhole : Block.ReadsWith headed [whole] := ⟨_, rfl⟩
  have hshort : Block.ReadsWith headed [short] := ⟨_, rfl⟩
  obtain ⟨hstrict, _, hunread, _⟩ :=
    events_independent assertionRequests ⟨"net", ⟨none, none⟩⟩ none false headed
  obtain ⟨_, hskipping, _⟩ :=
    events_independent assertionRequests ⟨"net", ⟨none, none⟩⟩ none true headed
  refine ⟨⟨hwhole, hshort⟩, ?_, rfl, ?_, ?_⟩
  · exact ((hstrict [whole] [short] hwhole hshort).2 _).mpr (.inr ⟨_, rfl, rfl⟩)
  · obtain ⟨noted, made, heach, horder⟩ := hskipping [short, whole] _ rfl
    exact ⟨noted, made, heach, by simpa using horder [whole, short] (.swap ..)⟩
  · obtain ⟨_, _, _, reason, _, _, _, hrun⟩ :=
      hunread _ rfl [short, .null, whole] .null (by simp) _ rfl
    have hreason : Except.error (.value .invalidItem) = Except.error reason :=
      congrArg Noted.result hrun
    rw [Except.error.inj hreason]
    exact hrun

end Indexer

end OracleIndexer
