import OracleIndexer.Proofs.Broker.Steps
set_option autoImplicit false

/-!
# Handing over exactly once

Every batch up to the cursor of an indexer has been handed to the sink in one call, in the order of
the log, as long as nobody but the indexer's own consumptions acknowledges batches for it.  A
consumption that ends with a fault acknowledges what the sink has kept and nothing more, so that the
next one starts with the batch that failed.
-/

namespace OracleIndexer

/-- A call of the sink for a message, under the settings of the consumption that made it. -/
def Indexer.HandsOver (indexer : Indexer) (message : Message) (call : Settings × List Output) :
    Prop :=
  indexer.Transforms call.1 message call.2

namespace Consumption

/-- A consumption that begins with a message: the outputs of the message are the first that the
sink kept, or the sink kept nothing because the message failed. -/
def BeginsWith (indexer : Indexer) (settings : Settings) (refuses : Refusals) (message : Message)
    (consumption : Consumption) : Prop :=
  (∃ outputs later, consumption.kept = outputs :: later ∧
    indexer.Transforms settings message outputs) ∨
  (consumption.kept = [] ∧ ∃ fault, consumption.ending = .failed fault ∧
    FailsAt indexer settings refuses 1 message fault)

section

variable {broker : Broker} {indexer : Indexer} {settings : Settings} {limit : Option Int}
  {refuses : Refusals}

/-- A consumption begins with the first pending batch. -/
theorem beginsWith_ofBroker {message : Message}
    (h : (broker.pending indexer.name).head? = some message) :
    BeginsWith indexer settings refuses message
      (ofBroker broker indexer settings limit refuses) := by
  obtain ⟨rest, hpending⟩ : ∃ rest, broker.pending indexer.name = message :: rest :=
    List.head?_eq_some_iff.mp h
  show BeginsWith indexer settings refuses message
    (ofMessages indexer settings limit refuses broker 0 (broker.pending indexer.name))
  rw [hpending]
  cases hresult : (indexer.runBatch message.batch settings).result with
  | error fault =>
    rw [ofMessages_cons_of_error hresult]
    exact .inr ⟨rfl, fault, rfl, .transform hresult⟩
  | ok outputs =>
    cases hsink : refuses (0 + 1) outputs with
    | some fault =>
      rw [ofMessages_cons_of_refused hresult hsink]
      exact .inr ⟨rfl, fault, rfl, .sink hresult hsink⟩
    | none =>
      by_cases hlimit : Reached limit (0 + 1)
      · rw [ofMessages_cons_of_enough hresult hsink hlimit]
        exact .inl ⟨outputs, [], rfl, hresult⟩
      · rw [ofMessages_cons_of_more hresult hsink hlimit]
        exact .inl ⟨outputs, _, rfl, hresult⟩

/-- A consumption moves the cursor by the number of calls that the sink kept. -/
theorem cursor_ofBroker (hdense : broker.Dense) (hcursor : broker.InLog indexer.name) :
    (ofBroker broker indexer settings limit refuses).broker.cursor indexer.name
      = broker.cursor indexer.name
        + (ofBroker broker indexer settings limit refuses).kept.length := by
  have haccount := account_ofBroker broker indexer settings limit refuses
  rw [haccount.broker, cursor_commitAll_of_consecutive, List.length_take,
    Nat.min_eq_left haccount.length_kept_le]
  intro k message hmessage
  apply hdense.offset_pending hcursor
  have hk := (List.getElem?_eq_some_iff.mp hmessage).1
  rw [List.length_take] at hk
  rwa [List.getElem?_take_of_lt (by omega)] at hmessage

theorem resumption_ofBroker (hdense : broker.Dense) (hcursor : broker.InLog indexer.name) :
    (ofBroker broker indexer settings limit refuses).broker.resumption indexer.name
      = broker.resumption indexer.name
        + (ofBroker broker indexer settings limit refuses).kept.length := by
  have heq := hcursor.resumption_eq
  simp only [Broker.resumption, cursor_ofBroker hdense hcursor] at heq ⊢
  omega

theorem inLog_ofBroker (hdense : broker.Dense) (hcursor : broker.InLog indexer.name) :
    (ofBroker broker indexer settings limit refuses).broker.InLog indexer.name := by
  have haccount := account_ofBroker broker indexer settings limit refuses
  have hkept := haccount.length_kept_le
  have heq := hcursor.resumption_eq
  obtain ⟨hlow, hhigh⟩ := hcursor
  rw [Broker.pending, List.length_drop] at hkept
  constructor
  · rw [cursor_ofBroker hdense ⟨hlow, hhigh⟩]
    omega
  · rw [cursor_ofBroker hdense ⟨hlow, hhigh⟩, haccount.log_eq]
    omega

/-- The batches of the calls that the sink kept move from the pending ones to those done. -/
theorem done_ofBroker (hdense : broker.Dense) (hcursor : broker.InLog indexer.name) :
    (ofBroker broker indexer settings limit refuses).broker.done indexer.name
      = broker.done indexer.name ++ (broker.pending indexer.name).take
          (ofBroker broker indexer settings limit refuses).kept.length := by
  have haccount := account_ofBroker broker indexer settings limit refuses
  rw [Broker.done, resumption_ofBroker hdense hcursor, haccount.log_eq, List.take_add]
  rfl

theorem pending_ofBroker (hdense : broker.Dense) (hcursor : broker.InLog indexer.name) :
    (ofBroker broker indexer settings limit refuses).broker.pending indexer.name
      = (broker.pending indexer.name).drop
          (ofBroker broker indexer settings limit refuses).kept.length := by
  have haccount := account_ofBroker broker indexer settings limit refuses
  rw [Broker.pending, resumption_ofBroker hdense hcursor, haccount.log_eq, ← List.drop_drop]
  rfl

end

end Consumption

namespace Session

/-- A step that leaves the acknowledgements of an indexer to its own consumptions. -/
def Step.LeavesTo (indexer : Indexer) : Step → Prop
  | .commit other _ => other ≠ indexer.name
  | .consume other .. => other.name = indexer.name → other = indexer
  | _ => True

/-- What the sink of an indexer keeps in a step, call by call. -/
def handedBy (session : Session) (indexer : Indexer) (step : Step) :
    List (Settings × List Output) :=
  match step, (session.take step).2 with
  | .consume other settings _ _, .consumption consumption =>
    if other.name = indexer.name then consumption.kept.map fun outputs => (settings, outputs)
    else []
  | _, _ => []

/-- What the sinks of an indexer keep over a run, call by call, each call with the settings of the
consumption that made it. -/
def handed (session : Session) (indexer : Indexer) : List Step → List (Settings × List Output)
  | [] => []
  | step :: rest => session.handedBy indexer step ++ (session.take step).1.handed indexer rest

/-- The calls of an indexer's sinks are those of the batches up to its cursor, in their order. -/
structure HandedOver (indexer : Indexer) (broker : Broker)
    (calls : List (Settings × List Output)) : Prop where
  /-- the batch at a position has this position as its offset -/
  dense : broker.Dense
  /-- the cursor stands before the first batch or on a batch -/
  cursor : broker.InLog indexer.name
  each : List.Forall₂ indexer.HandsOver (broker.done indexer.name) calls

theorem handedOver_start (indexer : Indexer) : HandedOver indexer start.broker [] where
  dense := Broker.dense_empty
  cursor := by simp [start, Broker.empty, Broker.InLog]
  each := .nil

theorem handedBy_of_not_acknowledges {session : Session} {indexer : Indexer} {step : Step}
    (h : ¬ step.Acknowledges indexer.name) : session.handedBy indexer step = [] := by
  unfold handedBy
  split
  · exact if_neg h
  · rfl

/-- A step that does not acknowledge batches for the indexer changes neither its calls nor the
batches up to its cursor. -/
theorem HandedOver.take_of_not_acknowledges {indexer : Indexer} {session : Session} {step : Step}
    {calls : List (Settings × List Output)} (h : HandedOver indexer session.broker calls)
    (hstep : ¬ step.Acknowledges indexer.name) :
    HandedOver indexer (session.take step).1.broker calls := by
  have hcursor : (session.take step).1.broker.cursor indexer.name
      = session.broker.cursor indexer.name := cursor_take hstep
  obtain ⟨added, hlog⟩ := log_prefix_take session step
  have hresumption : (session.take step).1.broker.resumption indexer.name
      = session.broker.resumption indexer.name := Broker.resumption_of_cursor_eq hcursor
  refine ⟨dense_take step h.dense, ?_, ?_⟩
  · obtain ⟨hlow, hhigh⟩ := h.cursor
    rw [Broker.InLog, hcursor, ← hlog, List.length_append]
    omega
  · have hdone : (session.take step).1.broker.done indexer.name
        = session.broker.done indexer.name := by
      rw [Broker.done, hresumption, ← hlog,
        List.take_append_of_le_length h.cursor.resumption_le, Broker.done]
    rw [hdone]
    exact h.each

/-- A consumption of the indexer adds a call for each batch that it acknowledges. -/
theorem HandedOver.consume {indexer : Indexer} {broker : Broker}
    {calls : List (Settings × List Output)} (h : HandedOver indexer broker calls)
    (settings : Settings) (limit : Option Int) (refuses : Consumption.Refusals) :
    HandedOver indexer (Consumption.ofBroker broker indexer settings limit refuses).broker
      (calls ++ (Consumption.ofBroker broker indexer settings limit refuses).kept.map
        fun outputs => (settings, outputs)) := by
  have haccount := Consumption.account_ofBroker broker indexer settings limit refuses
  refine ⟨?_, Consumption.inLog_ofBroker h.dense h.cursor, ?_⟩
  · intro n message hmessage
    rw [haccount.log_eq] at hmessage
    exact h.dense n message hmessage
  · rw [Consumption.done_ofBroker h.dense h.cursor]
    apply List.rel_append h.each
    rw [List.forall₂_map_right_iff]
    exact haccount.kept

theorem HandedOver.take {indexer : Indexer} {session : Session} {step : Step}
    {calls : List (Settings × List Output)} (h : HandedOver indexer session.broker calls)
    (hstep : step.LeavesTo indexer) :
    HandedOver indexer (session.take step).1.broker
      (calls ++ session.handedBy indexer step) := by
  by_cases hacknowledges : step.Acknowledges indexer.name
  · cases step with
    | commit other offset => exact absurd hacknowledges hstep
    | consume other settings limit refuses =>
      obtain rfl : other = indexer := hstep hacknowledges
      have hcalls := h.consume settings limit refuses
      simpa [handedBy] using hcalls
    | _ => exact hacknowledges.elim
  · rw [handedBy_of_not_acknowledges hacknowledges, List.append_nil]
    exact h.take_of_not_acknowledges hacknowledges

/-- The run lemma: what is handed over in a run adds up with what was handed over before. -/
theorem HandedOver.after {indexer : Indexer} {session : Session} {steps : List Step}
    {calls : List (Settings × List Output)} (h : HandedOver indexer session.broker calls)
    (hsteps : ∀ step ∈ steps, step.LeavesTo indexer) :
    HandedOver indexer (session.after steps).broker
      (calls ++ session.handed indexer steps) := by
  induction steps generalizing session calls with
  | nil => simpa [handed, Session.after] using h
  | cons step rest ih =>
    have hstep := h.take (hsteps step List.mem_cons_self)
    have hrest := ih hstep fun later hlater => hsteps later (List.mem_cons_of_mem step hlater)
    rw [List.append_assoc] at hrest
    exact hrest

/-- The first pending batch of an indexer stays the first until somebody acknowledges it. -/
theorem head?_pending_after {session : Session} {steps : List Step} {name : String}
    {message : Message} (h : (session.broker.pending name).head? = some message)
    (hsteps : ∀ step ∈ steps, ¬ step.Acknowledges name) :
    ((session.after steps).broker.pending name).head? = some message := by
  have hresumption : (session.after steps).broker.resumption name
      = session.broker.resumption name :=
    Broker.resumption_of_cursor_eq (cursor_after hsteps)
  obtain ⟨added, hlog⟩ := log_prefix_after session steps
  rw [Broker.pending, List.head?_drop] at h ⊢
  obtain ⟨hposition, _⟩ := List.getElem?_eq_some_iff.mp h
  rw [hresumption, ← hlog, List.getElem?_append_left hposition]
  exact h

/-- After any run in which only an indexer's own consumptions acknowledge batches for it, what its
sinks kept is, call by call, what the batches up to its cursor are transformed into.  A further
consumption moves the cursor by the number of its calls that the sink kept, however it ends.  If it
fails, it fails at the first batch behind the cursor, and the next consumption begins with that
batch, whatever is done in between. -/
theorem handed_over_exactly_once (indexer : Indexer) (steps : List Step)
    (hsteps : ∀ step ∈ steps, step.LeavesTo indexer) :
    HandedOver indexer (start.after steps).broker (start.handed indexer steps) ∧
    ∀ (settings : Settings) (limit : Option Int) (refuses : Consumption.Refusals),
      let session := start.after steps
      let consumption := Consumption.ofBroker session.broker indexer settings limit refuses
      let next := (session.take (.consume indexer settings limit refuses)).1
      next.broker.cursor indexer.name
          = session.broker.cursor indexer.name + consumption.kept.length ∧
      ∀ fault, consumption.ending = .failed fault →
        ∃ message, (next.broker.pending indexer.name).head? = some message ∧
          (message.offset : Int) = next.broker.cursor indexer.name + 1 ∧
          Consumption.FailsAt indexer settings refuses (consumption.kept.length + 1) message
            fault ∧
          ∀ between : List Step, (∀ step ∈ between, ¬ step.Acknowledges indexer.name) →
            ∀ (settings' : Settings) (limit' : Option Int) (refuses' : Consumption.Refusals),
              Consumption.BeginsWith indexer settings' refuses' message
                (Consumption.ofBroker (next.after between).broker indexer settings' limit'
                  refuses') := by
  have hrun : HandedOver indexer (start.after steps).broker (start.handed indexer steps) := by
    simpa using (handedOver_start indexer).after hsteps
  refine ⟨hrun, ?_⟩
  intro settings limit refuses session consumption next
  have haccount := Consumption.account_ofBroker session.broker indexer settings limit refuses
  have hnext := hrun.consume settings limit refuses
  refine ⟨Consumption.cursor_ofBroker hrun.dense hrun.cursor, ?_⟩
  intro fault hfailed
  have hending := haccount.ending
  rw [show (Consumption.ofBroker session.broker indexer settings limit refuses).ending
    = .failed fault from hfailed] at hending
  obtain ⟨message, hleft, hfails⟩ := hending
  rw [haccount.processed, Nat.zero_add] at hfails
  have hhead : (next.broker.pending indexer.name).head? = some message := by
    show (consumption.broker.pending indexer.name).head? = some message
    rw [Consumption.pending_ofBroker hrun.dense hrun.cursor]
    exact hleft
  refine ⟨message, hhead, ?_, hfails, ?_⟩
  · have hfirst : (next.broker.pending indexer.name)[0]? = some message := by
      rw [← List.head?_eq_getElem?]
      exact hhead
    have hoffset : (message.offset : Int) = next.broker.cursor indexer.name + 1 + (0 : Nat) :=
      hnext.dense.offset_pending hnext.cursor hfirst
    omega
  · intro between hbetween settings' limit' refuses'
    exact Consumption.beginsWith_ofBroker (head?_pending_after hhead hbetween)

/-- A batch that a broker takes and no indexer can read, since its event is null. -/
def unreadableBatch (block : Int) : Json :=
  .object [("header", .object [("blockNumber", .int block)]), ("events", .array [.null])]

/-- A run whose consumption works off one batch and fails at the next. -/
private def failingRun : List Step :=
  [.produce [bareBatch 7, unreadableBatch 8],
    .consume .randomnessRequests plainSettings none fun _ _ => none,
    .publish (bareBatch 9)]

/-- The run that fails at its second batch: one call is kept, and a further consumption starts with
the batch that failed. -/
theorem handed_over_until_unreadable :
    (∀ step ∈ failingRun, step.LeavesTo .randomnessRequests) ∧
    HandedOver .randomnessRequests (start.after failingRun).broker [(plainSettings, [])] ∧
    (start.after failingRun).broker.cursor "vrf-requests" = 0 ∧
    (Consumption.ofBroker (start.after failingRun).broker .randomnessRequests plainSettings none
      fun _ _ => none).ending = .failed (.value .invalidItem) ∧
    ∃ message : Message, message.offset = 1 ∧
      Consumption.FailsAt .randomnessRequests plainSettings (fun _ _ => none) 1 message
        (.value .invalidItem) := by
  have hsteps : ∀ step ∈ failingRun, step.LeavesTo .randomnessRequests := by
    simp [failingRun, Step.LeavesTo]
  obtain ⟨hrun, hnext⟩ := handed_over_exactly_once .randomnessRequests failingRun hsteps
  obtain ⟨_, hfails⟩ := hnext plainSettings none fun _ _ => none
  obtain ⟨message, _, hoffset, hmessage, _⟩ := hfails (.value .invalidItem) rfl
  refine ⟨hsteps, hrun, rfl, rfl, message, ?_, hmessage⟩
  have hone : (message.offset : Int) = 1 := hoffset
  omega

end Session

end OracleIndexer
