import OracleIndexer.Proofs.Block.Reading
import OracleIndexer.Proofs.Broker.HandOver
import OracleIndexer.Proofs.Broker.History
import OracleIndexer.Proofs.Indexer.Skipping
set_option autoImplicit false

/-!
# Batches that block an indexer

A broker looks at no more of a batch than its header, and takes a batch without one.  An indexer
reads all of a batch before it works on any event.  A batch that the broker took and the indexer
cannot work off stays the first pending one: every consumption fails at it, and what is published
behind it is not reached.
-/

namespace OracleIndexer

/-! ## Reading a batch -/

namespace Block

/-- The members of a batch whose header can be read if it is given. -/
def HeaderChecked (members : List (String × Json)) : Prop :=
  (Json.memberOf members "header").isGiven = true →
    ∃ header, Header.ofDocument (Json.memberOf members "header") = .ok header

/-- A batch without a header is refused. -/
theorem Batch.ofDocument_of_not_given {members : List (String × Json)}
    (h : (Json.memberOf members "header").isGiven = false) :
    Batch.ofDocument (.object members) = .error (.value .invalidBatch) ∨
      Batch.ofDocument (.object members) = .error (.value .invalidHeader) := by
  by_cases hmember : (Json.member? members "header").isSome = true
  · refine .inr ?_
    rw [Batch.ofDocument, Json.membersWith, if_pos hmember, Outcome.ok_bind,
      Header.ofDocument_of_not_given h]
    rfl
  · refine .inl ?_
    rw [Batch.ofDocument, Json.membersWith, if_neg hmember]
    rfl

end Block

/-! ## What a broker has looked at -/

namespace Broker

/-- A batch that a broker took is an object, whose header can be read if it is given. -/
theorem object_of_blockOf {offset : Nat} {batch : Json} {block : Int}
    (h : blockOf offset batch = .ok block) :
    ∃ members, batch = .object members ∧ Block.HeaderChecked members := by
  cases blockOf_eq_ok_iff.mp h with
  | read given reads => exact ⟨_, rfl, fun _ => ⟨_, reads⟩⟩
  | headless absent =>
    refine ⟨_, rfl, fun hgiven => ?_⟩
    rw [absent] at hgiven
    contradiction

end Broker

/-! ## Batches that can be worked off -/

namespace Indexer

/-- Settings that were validated, that leave failing events out, and that have a contract for the
indexer. -/
structure RunsUnder (indexer : Indexer) (settings : Settings) (contract : String) : Prop where
  validated : ∃ value, Settings.ofValue value = .ok settings
  skips : settings.skipFailed = true
  contract : settings.contract indexer.role = .ok contract

/-- The members of a batch that an indexer with a contract can work off: the header is given, the
events can be read, and none of them escapes. -/
structure Manages (indexer : Indexer) (contract : String) (members : List (String × Json)) :
    Prop where
  header : (Json.memberOf members "header").isGiven = true
  events : ∃ documents items, (Json.memberOf members "events").entries = .ok documents ∧
    Block.itemsOfDocuments documents = .ok items ∧ indexer.NoneEscapes (.text contract) items

variable {indexer : Indexer} {settings : Settings} {contract : String}

/-- Of a batch that can be read, the outputs are told exactly if no event escapes. -/
theorem exists_runBatch_iff (hindexer : indexer ∈ all) (hruns : indexer.RunsUnder settings contract)
    {document : Json} {batch : Block.Batch} (hbatch : Block.Batch.ofDocument document = .ok batch) :
    (∃ outputs, (indexer.runBatch document settings).result = .ok outputs) ↔
      indexer.NoneEscapes (.text contract) batch.items := by
  obtain ⟨value, hvalue⟩ := hruns.validated
  obtain ⟨n, hn⟩ :=
    Settings.exists_value_of_isAddress (Settings.isAddress_of_contract hvalue hruns.contract)
  rw [runBatch_eq_transformItems hruns.contract hbatch, hruns.skips]
  rcases noneEscapes_or_firstEscape indexer (.text contract) batch.items with
    hnone | ⟨fault, items_eq, hfront, hescapes⟩
  · exact ⟨fun _ => hnone, fun _ => ⟨_, (transformItems_of_not_escapes hindexer hn hnone).1⟩⟩
  · rw [items_eq, transformItems_of_escapes hindexer hn hfront hescapes]
    constructor
    · rintro ⟨outputs, houtputs⟩
      contradiction
    · intro hnone
      exact absurd hescapes (hnone _ (by simp) fault)

/-- A batch that cannot be read has no outputs. -/
theorem runBatch_of_unread (hcontract : settings.contract indexer.role = .ok contract)
    {document : Json} {fault : Fault} (h : Block.Batch.ofDocument document = .error fault) :
    (indexer.runBatch document settings).result = .error fault := by
  rw [runBatch, hcontract, Noted.bind_of_ok rfl, transform, h, Noted.bind_of_error rfl]

/-- A batch that a broker took is worked off exactly if it can be managed. -/
theorem exists_runBatch_iff_manages (hindexer : indexer ∈ all)
    (hruns : indexer.RunsUnder settings contract) {members : List (String × Json)}
    (hheader : Block.HeaderChecked members) :
    (∃ outputs, (indexer.runBatch (.object members) settings).result = .ok outputs) ↔
      indexer.Manages contract members := by
  constructor
  · rintro ⟨outputs, houtputs⟩
    cases hbatch : Block.Batch.ofDocument (.object members) with
    | error fault =>
      rw [runBatch_of_unread hruns.contract hbatch] at houtputs
      contradiction
    | ok batch =>
      obtain ⟨hread, documents, hdocuments, hitems⟩ := Block.Batch.ofDocument_eq_ok_iff.mp hbatch
      refine ⟨?_, documents, batch.items, hdocuments, hitems,
        (exists_runBatch_iff hindexer hruns hbatch).mp ⟨outputs, houtputs⟩⟩
      by_contra hnot
      rw [Block.Header.ofDocument_of_not_given (Bool.eq_false_of_not_eq_true hnot)] at hread
      contradiction
  · rintro ⟨hgiven, documents, items, hdocuments, hitems, hnone⟩
    obtain ⟨header, hread⟩ := hheader hgiven
    have hbatch : Block.Batch.ofDocument (.object members) = .ok ⟨header, items⟩ :=
      Block.Batch.ofDocument_eq_ok_iff.mpr ⟨hread, documents, hdocuments, hitems⟩
    exact (exists_runBatch_iff hindexer hruns hbatch).mpr hnone

/-- A batch that a broker took and that cannot be managed fails. -/
theorem runBatch_of_not_manages (hindexer : indexer ∈ all)
    (hruns : indexer.RunsUnder settings contract) {members : List (String × Json)}
    (hheader : Block.HeaderChecked members)
    (hnot : ¬ indexer.Manages contract members) :
    ∃ fault, (indexer.runBatch (.object members) settings).result = .error fault := by
  cases hresult : (indexer.runBatch (.object members) settings).result with
  | ok outputs =>
    exact absurd ((exists_runBatch_iff_manages hindexer hruns hheader).mp ⟨outputs, hresult⟩) hnot
  | error fault => exact ⟨fault, rfl⟩

end Indexer

/-! ## Consumptions of the first pending batch -/

namespace Consumption

variable {broker : Broker} {indexer : Indexer} {settings : Settings} {message : Message}

/-- One batch that is transformed and taken by the sink is acknowledged. -/
theorem ofBroker_of_transforms {outputs : List Output}
    (hfirst : (broker.pending indexer.name).head? = some message)
    (h : indexer.Transforms settings message outputs) :
    ofBroker broker indexer settings (some 1) (fun _ _ => none)
      = ⟨broker.commit indexer.name message.offset, [outputs], none,
          notesOf indexer settings message outputs.length, 1, .enough⟩ := by
  obtain ⟨rest, hpending⟩ := List.head?_eq_some_iff.mp hfirst
  rw [Broker.pending] at hpending
  rw [ofBroker, hpending]
  exact ofMessages_cons_of_enough h rfl ⟨1, rfl, by decide⟩

/-- A first batch that is not transformed leaves the broker as it was. -/
theorem ofBroker_of_error {fault : Fault}
    (hfirst : (broker.pending indexer.name).head? = some message)
    (h : (indexer.runBatch message.batch settings).result = .error fault) (limit : Option Int)
    (refuses : Refusals) :
    ofBroker broker indexer settings limit refuses
      = ⟨broker, [], none, (indexer.runBatch message.batch settings).notes, 0,
          .failed fault⟩ := by
  obtain ⟨rest, hpending⟩ := List.head?_eq_some_iff.mp hfirst
  rw [Broker.pending] at hpending
  rw [ofBroker, hpending]
  exact ofMessages_cons_of_error h

end Consumption

namespace Session

/-- A step that leaves the acknowledgements of an indexer to its consumptions under settings with
one contract. -/
def Step.KeepsTo (indexer : Indexer) (contract : String) (step : Step) : Prop :=
  step.Acknowledges indexer.name → ∃ settings limit refuses,
    indexer.RunsUnder settings contract ∧ step = .consume indexer settings limit refuses

section

variable {indexer : Indexer} {contract : String} {message : Message} {session : Session}

/-- A first pending batch that no settings with the contract get past is still the first one after a
step: the step is no acknowledgement, or it is a consumption that fails at the batch. -/
theorem head?_pending_take_of_stuck
    (hstuck : ∀ settings, indexer.RunsUnder settings contract →
      ∃ fault, (indexer.runBatch message.batch settings).result = .error fault)
    (hfirst : (session.broker.pending indexer.name).head? = some message) {step : Step}
    (hstep : step.KeepsTo indexer contract) :
    ((session.take step).1.broker.pending indexer.name).head? = some message ∧
      (session.take step).1.broker.cursor indexer.name = session.broker.cursor indexer.name := by
  by_cases hacknowledges : step.Acknowledges indexer.name
  · obtain ⟨settings, limit, refuses, hruns, rfl⟩ := hstep hacknowledges
    obtain ⟨fault, hfault⟩ := hstuck settings hruns
    rw [take_consume, Consumption.ofBroker_of_error hfirst hfault]
    exact ⟨hfirst, rfl⟩
  · have hquiet : ∀ other ∈ [step], ¬ other.Acknowledges indexer.name := by
      simpa using hacknowledges
    exact ⟨head?_pending_after hfirst hquiet, cursor_take hacknowledges⟩

/-- The run lemma. -/
theorem head?_pending_after_of_stuck
    (hstuck : ∀ settings, indexer.RunsUnder settings contract →
      ∃ fault, (indexer.runBatch message.batch settings).result = .error fault)
    (hfirst : (session.broker.pending indexer.name).head? = some message) {steps : List Step}
    (hsteps : ∀ step ∈ steps, step.KeepsTo indexer contract) :
    ((session.after steps).broker.pending indexer.name).head? = some message ∧
      (session.after steps).broker.cursor indexer.name = session.broker.cursor indexer.name := by
  induction steps generalizing session with
  | nil => exact ⟨hfirst, rfl⟩
  | cons step rest ih =>
    obtain ⟨hstep, hrest⟩ := List.forall_mem_cons.mp hsteps
    obtain ⟨hnext, hkept⟩ := head?_pending_take_of_stuck hstuck hfirst hstep
    obtain ⟨hhead, hcursor⟩ := ih hnext hrest
    exact ⟨hhead, hcursor.trans hkept⟩

end

/-- The first pending batch of an indexer follows its cursor. -/
theorem offset_of_head?_pending {steps : List Step} {name : String} {message : Message}
    (hfirst : ((start.after steps).broker.pending name).head? = some message) :
    (message.offset : Int) = (start.after steps).broker.cursor name + 1 := by
  have hlow : -1 ≤ (start.after steps).broker.cursor name := cursor_le_after start steps name
  rw [Broker.pending, List.head?_drop] at hfirst
  rw [dense_after steps Broker.dense_empty _ message hfirst, Broker.resumption]
  omega

/-- A pending batch is an object, whose header can be read if it is given. -/
theorem object_of_head?_pending {steps : List Step} {name : String} {message : Message}
    (hfirst : ((start.after steps).broker.pending name).head? = some message) :
    ∃ members, message.batch = .object members ∧ Block.HeaderChecked members := by
  have hmember : message ∈ (start.after steps).broker.log :=
    List.mem_of_mem_drop (List.mem_of_mem_head? hfirst)
  exact Broker.object_of_blockOf (checked_after steps message hmember)

/-- After any run, an indexer that leaves failing events out and asks for one batch gets the first
one behind its cursor.  If the batch has a header, its events can be read and none of them escapes,
then the batch is acknowledged.  Otherwise the consumption fails and acknowledges nothing; and
whatever is done later, as long as only consumptions of the indexer under settings with this
contract acknowledge batches for it, the batch stays the first one. -/
theorem consumes_pending_iff_manages (steps : List Step) {indexer : Indexer}
    (hindexer : indexer ∈ Indexer.all) {settings : Settings} {contract : String}
    (hruns : indexer.RunsUnder settings contract) {message : Message}
    (hfirst : ((start.after steps).broker.pending indexer.name).head? = some message) :
    let session := start.after steps
    let consumption := Consumption.ofBroker session.broker indexer settings (some 1) fun _ _ => none
    (message.offset : Int) = session.broker.cursor indexer.name + 1 ∧
    ∃ members, message.batch = .object members ∧
      (indexer.Manages contract members →
        consumption.ending = .enough ∧ consumption.processed = 1 ∧
          consumption.broker.cursor indexer.name = message.offset) ∧
      ((Json.memberOf members "header").isGiven = false →
        consumption.ending = .failed (.value .invalidBatch) ∨
          consumption.ending = .failed (.value .invalidHeader)) ∧
      (¬ indexer.Manages contract members →
        (∃ fault, consumption.ending = .failed fault) ∧ consumption.processed = 0 ∧
          ∀ later : List Step, (∀ step ∈ later, step.KeepsTo indexer contract) →
            ((session.after later).broker.pending indexer.name).head? = some message ∧
              (session.after later).broker.cursor indexer.name
                = session.broker.cursor indexer.name) := by
  intro session consumption
  have hoffset : (message.offset : Int) = session.broker.cursor indexer.name + 1 :=
    offset_of_head?_pending hfirst
  obtain ⟨members, hobject, hheader⟩ := object_of_head?_pending hfirst
  have hfails : ∀ {fault}, (indexer.runBatch (.object members) settings).result = .error fault →
      consumption.ending = .failed fault ∧ consumption.processed = 0 := by
    intro fault hfault
    rw [← hobject] at hfault
    have hconsumption := Consumption.ofBroker_of_error hfirst hfault (some 1) fun _ _ => none
    exact ⟨congrArg Consumption.ending hconsumption, congrArg Consumption.processed hconsumption⟩
  refine ⟨hoffset, members, hobject, ?_, ?_, ?_⟩
  · intro hmanages
    obtain ⟨outputs, houtputs⟩ :=
      (Indexer.exists_runBatch_iff_manages hindexer hruns hheader).mpr hmanages
    rw [← hobject] at houtputs
    have hconsumption : consumption = _ := Consumption.ofBroker_of_transforms hfirst houtputs
    rw [hconsumption]
    refine ⟨rfl, rfl, ?_⟩
    rw [Broker.cursor_commit_self, hoffset]
    omega
  · intro hgiven
    rcases Block.Batch.ofDocument_of_not_given hgiven with hbatch | hbatch
    · exact .inl (hfails (Indexer.runBatch_of_unread hruns.contract hbatch)).1
    · exact .inr (hfails (Indexer.runBatch_of_unread hruns.contract hbatch)).1
  · intro hnot
    have hstuck : ∀ other, indexer.RunsUnder other contract →
        ∃ fault, (indexer.runBatch message.batch other).result = .error fault := by
      intro other hother
      rw [hobject]
      exact Indexer.runBatch_of_not_manages hindexer hother hheader hnot
    obtain ⟨fault, hfault⟩ := Indexer.runBatch_of_not_manages hindexer hruns hheader hnot
    obtain ⟨hending, hprocessed⟩ := hfails hfault
    exact ⟨⟨fault, hending⟩, hprocessed, fun later => head?_pending_after_of_stuck hstuck hfirst⟩

private theorem runsUnder_requestsSettings :
    Indexer.randomnessRequests.RunsUnder Indexer.requestsSettings "0xC0" where
  validated := ⟨.ofJson Indexer.requestsDocument, rfl⟩
  skips := rfl
  contract := rfl

/-- The members of a batch with one request that lacks its data. -/
private def shortRequestMembers : List (String × Json) :=
  [("header", .object [("blockNumber", .int 7)]),
    ("events", .array [Block.eventDocument "0xC0" Record.randomnessRequestSelector []])]

private theorem manages_shortRequest :
    Indexer.randomnessRequests.Manages "0xC0" shortRequestMembers where
  header := rfl
  events := by
    refine ⟨_, _, rfl, rfl, ?_⟩
    intro item hitem fault hescapes
    rw [List.mem_singleton.mp hitem] at hescapes
    cases hescapes with
    | sender unread => cases unread
    | selector sent unread => cases unread
    | misfit wanted misfit => cases misfit

/-- A batch whose one event fails is acknowledged. -/
theorem consumes_shortRequest :
    Indexer.randomnessRequests.RunsUnder Indexer.requestsSettings "0xC0" ∧
    ((start.after [.publish (.object shortRequestMembers)]).broker.pending "vrf-requests").head?
      = some ⟨0, 7, .object shortRequestMembers⟩ ∧
    let consumption := Consumption.ofBroker
      (start.after [.publish (.object shortRequestMembers)]).broker .randomnessRequests
      Indexer.requestsSettings (some 1) fun _ _ => none
    consumption.ending = .enough ∧ consumption.processed = 1 ∧
      consumption.broker.cursor "vrf-requests" = 0 := by
  have hfirst : ((start.after [.publish (.object shortRequestMembers)]).broker.pending
      "vrf-requests").head? = some ⟨0, 7, .object shortRequestMembers⟩ := rfl
  obtain ⟨_, members, hobject, hworks, _⟩ :=
    consumes_pending_iff_manages [.publish (.object shortRequestMembers)]
      (by simp [Indexer.all] : Indexer.randomnessRequests ∈ Indexer.all)
      runsUnder_requestsSettings hfirst
  obtain rfl : shortRequestMembers = members := Json.object.inj hobject
  exact ⟨runsUnder_requestsSettings, hfirst, hworks manages_shortRequest⟩

/-- A broker takes a batch without a header, and no consumption acknowledges it. -/
theorem not_consumes_headless :
    Indexer.randomnessRequests.RunsUnder Indexer.requestsSettings "0xC0" ∧
    (start.take (.publish (.object [("events", .array [])]))).2 = .number 0 ∧
    ((start.after [.publish (.object [("events", .array [])])]).broker.pending
      "vrf-requests").head? = some ⟨0, 0, .object [("events", .array [])]⟩ ∧
    let consumption := Consumption.ofBroker
      (start.after [.publish (.object [("events", .array [])])]).broker .randomnessRequests
      Indexer.requestsSettings (some 1) fun _ _ => none
    consumption.ending = .failed (.value .invalidBatch) ∧ consumption.processed = 0 ∧
      consumption.broker.cursor "vrf-requests" = -1 :=
  ⟨runsUnder_requestsSettings, rfl, rfl, rfl, rfl, rfl⟩

end Session

end OracleIndexer
