import OracleIndexer.CommandLine.Run
import OracleIndexer.Proofs.Broker.HandOver
import OracleIndexer.Proofs.Broker.History
import OracleIndexer.Proofs.Console
import OracleIndexer.Proofs.Record.Columns
set_option autoImplicit false

/-!
# A file of batches and a stream of them

A run over the batches of a file and a consumption of the same batches from a new broker, with a
console as the sink and as many batches asked for as there are, show the same text and the same
count, and end alike: both finish, or both stop at the same batch with the same fault, be it that
the batch is not transformed or that an output of it cannot be shown.
-/

namespace OracleIndexer

/-! ## A console as a sink -/

namespace Console

variable (levels : Nat)

/-- What stops a console does not depend on what it shows. -/
theorem showAll_snd_eq (console other : Console) (documents : List Json) :
    (console.showAll levels documents).2 = (other.showAll levels documents).2 := by
  induction documents generalizing console other with
  | nil => rfl
  | cons document rest ih =>
    rw [showAll, showAll, put, put]
    cases document.dump levels with
    | ok line => exact ih _ _
    | error fault => rfl

/-- A console as a sink: the outputs that it does not take. -/
def refuses : Consumption.Refusals := fun _ outputs => (empty.take levels outputs).2

theorem take_snd_eq (console : Console) (call : Nat) (outputs : List Output) :
    (console.take levels outputs).2 = refuses levels call outputs :=
  showAll_snd_eq levels console empty (outputs.map Output.document)

/-- A console after calls; of a call that it refuses it shows what comes before the output that
cannot be shown. -/
def after (console : Console) (calls : List (List Output)) : Console :=
  calls.foldl (fun shown outputs => (shown.take levels outputs).1) console

end Console

/-- The calls of the sink in a consumption: those that it kept, and the one that it refused. -/
def Consumption.calls (consumption : Consumption) : List (List Output) :=
  consumption.kept ++ consumption.refused.toList

/-! ## Publishing batches that are accepted -/

namespace Broker

/-- Batches that a new broker accepts one by one are all published, in order. -/
theorem produce_of_accepted {batches : List Json}
    (h : ∀ batch ∈ batches, ∃ published, empty.publish batch = .ok published) (broker : Broker)
    (count : Nat) :
    (broker.produce count batches).2 = .ok (count + batches.length) ∧
      (broker.produce count batches).1.cursor = broker.cursor ∧
      (broker.produce count batches).1.log.map Message.batch
        = broker.log.map Message.batch ++ batches := by
  have htakes : ∀ batch ∈ batches, takes batch = true := by
    intro batch hbatch
    obtain ⟨published, hpublished⟩ := h batch hbatch
    exact takes_of_publish hpublished
  have hproduce := Session.produce_append_of_takes htakes ⟨broker, []⟩ count []
  rw [List.append_nil, produce] at hproduce
  rw [hproduce]
  refine ⟨rfl, ?_, Session.batches_after_publish htakes ⟨broker, []⟩⟩
  funext name
  apply Session.cursor_after
  intro step hstep
  obtain ⟨batch, _, rfl⟩ := List.mem_map.mp hstep
  exact id

/-- On a new broker every indexer starts with the first batch published. -/
theorem resumption_of_cursor_empty {broker : Broker} (h : broker.cursor = empty.cursor)
    (indexer : String) : broker.resumption indexer = 0 := by
  rw [resumption, h]
  rfl

end Broker

namespace CommandLine

/-! ## The run over a file -/

section

variable {indexer : Indexer} {settings : Settings} {batch : Json} {rest : List Json}

theorem work_cons_of_error {fault : Fault} (console : Console)
    (h : (indexer.runBatch batch settings).result = .error fault) :
    work indexer settings console (batch :: rest)
      = ⟨console, (indexer.runBatch batch settings).notes, some fault⟩ := by
  simp only [work, h]

theorem work_cons_of_refused {outputs : List Output} {fault : Fault} {call : Nat}
    (console : Console) (h : (indexer.runBatch batch settings).result = .ok outputs)
    (hsink : Console.refuses Json.levels call outputs = some fault) :
    work indexer settings console (batch :: rest)
      = ⟨(console.take Json.levels outputs).1, (indexer.runBatch batch settings).notes,
          some fault⟩ := by
  rw [← Console.take_snd_eq Json.levels console] at hsink
  cases htake : console.take Json.levels outputs with
  | mk shown stop =>
    rw [htake] at hsink
    obtain rfl : stop = some fault := hsink
    simp only [work, h, htake]

theorem work_cons_of_ok {outputs : List Output} {call : Nat} (console : Console)
    (h : (indexer.runBatch batch settings).result = .ok outputs)
    (hsink : Console.refuses Json.levels call outputs = none) :
    work indexer settings console (batch :: rest)
      = let more := work indexer settings (console.take Json.levels outputs).1 rest
        { more with notes := (indexer.runBatch batch settings).notes ++ more.notes } := by
  rw [← Console.take_snd_eq Json.levels console] at hsink
  cases htake : console.take Json.levels outputs with
  | mk shown stop =>
    rw [htake] at hsink
    obtain rfl : stop = none := hsink
    simp only [work, h, htake]

end

/-! ## Both at once -/

/-- How a run over batches and a consumption of them end. -/
inductive EndsAlike (indexer : Indexer) (settings : Settings) (batches : List Json)
    (fault : Option Fault) (processed : Nat) (ending : OracleIndexer.Ending) : Prop
  /-- both have worked off all batches -/
  | finished (noFault : fault = none) (enough : ending = .enough)
      (all : processed = batches.length)
  /-- both have worked off the batches in front of one that is not transformed or cannot be shown -/
  | stopped {front back : List Json} {batch : Json} {refusal : Fault}
      (split : batches = front ++ batch :: back)
      (earlier : ∀ console, (work indexer settings console front).fault = none)
      (refused : ∀ console, (work indexer settings console [batch]).fault = some refusal)
      (sameFault : fault = some refusal) (failed : ending = .failed refusal)
      (count : processed = front.length)

/-- None is worked off in front of a first batch that is refused. -/
theorem EndsAlike.of_first_refused {indexer : Indexer} {settings : Settings} {batch : Json}
    {rest : List Json} {fault : Fault}
    (h : ∀ console, (work indexer settings console [batch]).fault = some fault) :
    EndsAlike indexer settings (batch :: rest) (some fault) 0 (.failed fault) := by
  have hsplit : batch :: rest = [] ++ batch :: rest := rfl
  exact .stopped hsplit (fun _ => rfl) h rfl rfl rfl

/-- One more batch worked off in front. -/
theorem EndsAlike.cons {indexer : Indexer} {settings : Settings} {batches : List Json}
    {fault : Option Fault} {processed : Nat} {ending : OracleIndexer.Ending}
    (h : EndsAlike indexer settings batches fault processed ending) {batch : Json}
    {outputs : List Output} {call : Nat}
    (hfirst : (indexer.runBatch batch settings).result = .ok outputs)
    (hsink : Console.refuses Json.levels call outputs = none) :
    EndsAlike indexer settings (batch :: batches) fault (processed + 1) ending := by
  cases h with
  | finished noFault enough all =>
    exact .finished noFault enough (by rw [all, List.length_cons])
  | @stopped front back last refusal split earlier refused sameFault failed count =>
    have hearlier : ∀ console, (work indexer settings console (batch :: front)).fault = none := by
      intro console
      rw [work_cons_of_ok console hfirst hsink]
      exact earlier _
    exact .stopped (by rw [split, List.cons_append]) hearlier refused sameFault failed
      (by rw [count, List.length_cons])

theorem EndsAlike.fault_eq_of_failed {indexer : Indexer} {settings : Settings}
    {batches : List Json} {fault : Option Fault} {processed : Nat} {ending : OracleIndexer.Ending}
    (h : EndsAlike indexer settings batches fault processed ending) {refusal : Fault}
    (hending : ending = .failed refusal) : fault = some refusal := by
  cases h with
  | finished _ enough _ =>
    rw [enough] at hending
    contradiction
  | stopped _ _ _ sameFault failed _ =>
    rw [failed] at hending
    obtain rfl := OracleIndexer.Ending.failed.inj hending
    exact sameFault

/-- The step lemma and the run lemma in one: a run over the batches of messages and a consumption
of the messages that is asked for all of them go through the same batches. -/
theorem work_alongside (indexer : Indexer) (settings : Settings) (broker : Broker) (before : Nat)
    (console : Console) {messages : List Message} (hne : messages ≠ []) {limit : Int}
    (hlimit : limit = (before + messages.length : Nat)) :
    let progress := work indexer settings console (messages.map Message.batch)
    let consumption := Consumption.ofMessages indexer settings (some limit)
      (Console.refuses Json.levels) broker before messages
    progress.console = console.after Json.levels consumption.calls ∧
      EndsAlike indexer settings (messages.map Message.batch) progress.fault
        consumption.kept.length consumption.ending := by
  induction messages generalizing broker before console with
  | nil => exact absurd rfl hne
  | cons message rest ih =>
    intro progress consumption
    cases hresult : (indexer.runBatch message.batch settings).result with
    | error fault =>
      have hprogress : progress = _ := work_cons_of_error console hresult
      have hconsumption : consumption = _ := Consumption.ofMessages_cons_of_error hresult
      rw [hprogress, hconsumption]
      refine ⟨rfl, .of_first_refused fun shown => ?_⟩
      rw [work_cons_of_error shown hresult]
    | ok outputs =>
      cases hsink : Console.refuses Json.levels (before + 1) outputs with
      | some fault =>
        have hprogress : progress = _ := work_cons_of_refused console hresult hsink
        have hconsumption : consumption = _ :=
          Consumption.ofMessages_cons_of_refused hresult hsink
        rw [hprogress, hconsumption]
        refine ⟨rfl, .of_first_refused fun shown => ?_⟩
        rw [work_cons_of_refused shown hresult hsink]
      | none =>
        have hprogress : progress = _ := work_cons_of_ok console hresult hsink
        rw [List.length_cons] at hlimit
        cases rest with
        | nil =>
          have hreached : Consumption.Reached (some limit) (before + 1) :=
            ⟨limit, rfl, by rw [hlimit]; exact Int.le_refl _⟩
          have hconsumption : consumption = _ :=
            Consumption.ofMessages_cons_of_enough hresult hsink hreached
          rw [hprogress, hconsumption]
          exact ⟨rfl, .finished rfl rfl rfl⟩
        | cons next more =>
          have hbelow : ¬ Consumption.Reached (some limit) (before + 1) := by
            rintro ⟨most, hmost, hle⟩
            obtain rfl := Option.some.inj hmost
            rw [List.length_cons] at hlimit
            omega
          have hconsumption : consumption = _ :=
            Consumption.ofMessages_cons_of_more hresult hsink hbelow
          obtain ⟨hconsole, hends⟩ := ih (broker.commit indexer.name message.offset) (before + 1)
            (console.take Json.levels outputs).1 (List.cons_ne_nil _ _)
            (by rw [hlimit]; congr 1; omega)
          rw [hprogress, hconsumption]
          exact ⟨hconsole, hends.cons hresult hsink⟩

/-- Batches that publishing accepts are all published on a new broker.  A run over them and a
consumption from the broker that is asked for all of them show the same text and the same count on
their consoles, and end alike; the cursor then stands on the last batch worked off. -/
theorem work_eq_consumption (indexer : Indexer) (settings : Settings) {batches : List Json}
    (hne : batches ≠ [])
    (haccepted : ∀ batch ∈ batches, ∃ published, Broker.empty.publish batch = .ok published) :
    let published := Broker.empty.produce 0 batches
    let progress := work indexer settings .empty batches
    let consumption := Consumption.ofBroker published.1 indexer settings
      (some (batches.length : Int)) (Console.refuses Json.levels)
    published.2 = .ok batches.length ∧
    progress.console = Console.empty.after Json.levels consumption.calls ∧
    EndsAlike indexer settings batches progress.fault consumption.processed consumption.ending ∧
    consumption.broker.cursor indexer.name = (consumption.processed : Int) - 1 := by
  intro published progress consumption
  obtain ⟨hcount, hcursor, hlog⟩ := Broker.produce_of_accepted haccepted .empty 0
  have hresumption : published.1.resumption indexer.name = 0 :=
    Broker.resumption_of_cursor_empty hcursor indexer.name
  have hdense : published.1.Dense :=
    Broker.produce_induction Broker.dense_empty fun hearlier hpublish => hearlier.publish hpublish
  have hbefore : published.1.cursor indexer.name = -1 := congrFun hcursor indexer.name
  have hinLog : published.1.InLog indexer.name := by
    rw [Broker.InLog, hbefore]
    omega
  have hmessages : published.1.log.map Message.batch = batches := hlog
  have hlength : published.1.log.length = batches.length := by
    rw [← hmessages, List.length_map]
  have haccount := Consumption.account_ofBroker published.1 indexer settings
    (some (batches.length : Int)) (Console.refuses Json.levels)
  have hprocessed : consumption.processed = consumption.kept.length := by
    rw [haccount.processed, Nat.zero_add]
  have hconsumption : consumption = Consumption.ofMessages indexer settings
      (some (batches.length : Int)) (Console.refuses Json.levels) published.1 0
      published.1.log := by
    show Consumption.ofBroker published.1 indexer settings _ _ = _
    rw [Consumption.ofBroker, hresumption, List.drop_zero]
  have hfilled : published.1.log ≠ [] := by
    rw [← List.length_pos_iff, hlength]
    exact List.length_pos_iff.mpr hne
  have hlimit : (batches.length : Int) = (0 + published.1.log.length : Nat) := by
    rw [hlength, Nat.zero_add]
  obtain ⟨hconsole, hends⟩ :=
    work_alongside indexer settings published.1 0 .empty hfilled hlimit
  rw [hmessages, ← hconsumption] at hconsole hends
  refine ⟨?_, hconsole, ?_, ?_⟩
  · rw [hcount, Nat.zero_add]
  · rw [hprocessed]
    exact hends
  · have hafter : consumption.broker.cursor indexer.name
        = published.1.cursor indexer.name + consumption.kept.length :=
      Consumption.cursor_ofBroker hdense hinLog
    omega

open Record (disputeBatch disputeOutput)
open Session (unreadableBatch)

private theorem plain_dispute (inner : Nat) :
    Json.Plain (inner + 2) (disputeOutput "0xa").document := by
  refine .object (by decide) (List.forall_mem_cons.mpr ⟨.object (by decide) ?key,
    List.forall_mem_singleton.mpr (.object (by decide) ?changes)⟩)
  case key => exact List.forall_mem_singleton.mpr (.text _)
  case changes => simp [Json.Plain.text, Json.Plain.bool]

private theorem refuses_dispute (call : Nat) :
    Console.refuses Json.levels call [disputeOutput "0xa"] = none := by
  have hplain : ∀ document ∈ [(disputeOutput "0xa").document], document.Plain Json.levels :=
    List.forall_mem_singleton.mpr (plain_dispute 988)
  obtain ⟨_, hshown, _⟩ := Console.showAll_of_plain hplain Console.empty
  exact congrArg Prod.snd hshown

/-- A batch of a dispute, one without events, and one that cannot be read. -/
private def disputeBatches : List Json := [disputeBatch 7 "0xa", bareBatch 8, unreadableBatch 9]

/-- The messages of the batches. -/
private def disputeMessages : List Message :=
  [⟨0, 7, disputeBatch 7 "0xa"⟩, ⟨1, 8, bareBatch 8⟩, ⟨2, 9, unreadableBatch 9⟩]

private theorem pending_disputes :
    (Broker.empty.produce 0 disputeBatches).1.pending "oo-requests" = disputeMessages := rfl

private theorem transforms_dispute :
    Indexer.assertionRequests.Transforms plainSettings ⟨0, 7, disputeBatch 7 "0xa"⟩
      [disputeOutput "0xa"] :=
  show (Indexer.assertionRequests.runBatch (disputeBatch 7 "0xa") plainSettings).result = _ from rfl

private theorem transforms_bare :
    Indexer.assertionRequests.Transforms plainSettings ⟨1, 8, bareBatch 8⟩ [] :=
  show (Indexer.assertionRequests.runBatch (bareBatch 8) plainSettings).result = _ from rfl

private theorem runBatch_unread :
    (Indexer.assertionRequests.runBatch (unreadableBatch 9) plainSettings).result
      = .error (.value .invalidItem) := rfl

/-- The consumption of the three batches ends at the third. -/
private theorem calls_disputes (broker : Broker) :
    let consumption := Consumption.ofMessages .assertionRequests plainSettings (some 3)
      (Console.refuses Json.levels) broker 0 disputeMessages
    consumption.calls = [[disputeOutput "0xa"], []] ∧ consumption.processed = 2 ∧
      consumption.ending = .failed (.value .invalidItem) := by
  have hbelow : ∀ processed, processed < 3 → ¬ Consumption.Reached (some 3) processed := by
    rintro processed hprocessed ⟨most, hmost, hle⟩
    obtain rfl := Option.some.inj hmost
    omega
  rw [disputeMessages,
    Consumption.ofMessages_cons_of_more transforms_dispute (refuses_dispute _)
      (hbelow _ (by decide)),
    Consumption.ofMessages_cons_of_more transforms_bare rfl (hbelow _ (by decide)),
    Consumption.ofMessages_cons_of_error runBatch_unread]
  exact ⟨rfl, rfl, rfl⟩

/-- Of a batch of a dispute, one without events and one that cannot be read, a file run and a
consumption work off the first two, show the dispute, and stop at the third. -/
theorem work_eq_consumption_disputes :
    disputeBatches ≠ [] ∧
    (∀ batch ∈ disputeBatches, ∃ published, Broker.empty.publish batch = .ok published) ∧
    let progress := work .assertionRequests plainSettings .empty disputeBatches
    let consumption := Consumption.ofBroker (Broker.empty.produce 0 disputeBatches).1
      .assertionRequests plainSettings (some 3) (Console.refuses Json.levels)
    progress.console = Console.empty.after Json.levels [[disputeOutput "0xa"], []] ∧
      progress.fault = some (.value .invalidItem) ∧
      consumption.ending = .failed (.value .invalidItem) ∧
      consumption.broker.cursor "oo-requests" = 1 := by
  have hne : disputeBatches ≠ [] := List.cons_ne_nil _ _
  have haccepted : ∀ batch ∈ disputeBatches,
      ∃ published, Broker.empty.publish batch = .ok published := by
    intro batch hbatch
    simp only [disputeBatches, List.mem_cons, List.not_mem_nil, or_false] at hbatch
    rcases hbatch with rfl | rfl | rfl
    · exact ⟨_, rfl⟩
    · exact ⟨_, rfl⟩
    · exact ⟨_, rfl⟩
  obtain ⟨hcalls, hprocessed, hending⟩ := calls_disputes (Broker.empty.produce 0 disputeBatches).1
  rw [← pending_disputes] at hcalls hprocessed hending
  obtain ⟨_, hconsole, hends, hcursor⟩ :=
    work_eq_consumption .assertionRequests plainSettings hne haccepted
  refine ⟨hne, haccepted, ?_, ?_, hending, ?_⟩
  · exact hconsole.trans (congrArg (Console.empty.after Json.levels) hcalls)
  · exact hends.fault_eq_of_failed hending
  · exact hcursor.trans (congrArg (fun processed : Nat => (processed : Int) - 1) hprocessed)

end CommandLine

end OracleIndexer
