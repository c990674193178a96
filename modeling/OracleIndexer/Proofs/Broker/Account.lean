import Mathlib.Data.List.Forall2
import OracleIndexer.Proofs.Broker.Log
set_option autoImplicit false

/-!
# The account of a consumption

What a consumption did, told without the way it went: the outputs that the sink kept are those of
the first messages, one call for each; exactly these messages were acknowledged, in order; and the
message behind them tells why the consumption ended.
-/

namespace OracleIndexer

/-- The outputs of a message under settings. -/
def Indexer.Transforms (indexer : Indexer) (settings : Settings) (message : Message)
    (outputs : List Output) : Prop :=
  (indexer.runBatch message.batch settings).result = .ok outputs

namespace Consumption

/-- A message at which a consumption fails: it has no outputs, or the sink refuses them in the call
that hands them over. -/
inductive FailsAt (indexer : Indexer) (settings : Settings) (refuses : Refusals) (call : Nat)
    (message : Message) : Fault → Prop
  /-- the message is not transformed -/
  | transform {fault : Fault}
      (refused : (indexer.runBatch message.batch settings).result = .error fault) :
      FailsAt indexer settings refuses call message fault
  /-- the sink does not take the outputs -/
  | sink {outputs : List Output} {fault : Fault}
      (transformed : indexer.Transforms settings message outputs)
      (refused : refuses call outputs = some fault) :
      FailsAt indexer settings refuses call message fault

/-- Whether a limit is reached with a number of messages. -/
def Reached (limit : Option Int) (processed : Nat) : Prop :=
  ∃ most, limit = some most ∧ most ≤ (processed : Int)

/-- Why a consumption ended where it did, given the messages that it had not worked off. -/
def EndsBefore (indexer : Indexer) (settings : Settings) (limit : Option Int) (refuses : Refusals)
    (processed : Nat) (left : List Message) : Ending → Prop
  | .enough => Reached limit processed
  | .idle => left = []
  | .failed fault =>
    ∃ message, left.head? = some message ∧
      FailsAt indexer settings refuses (processed + 1) message fault

/-- Acknowledges messages in order. -/
def commitAll (broker : Broker) (indexer : String) (messages : List Message) : Broker :=
  messages.foldl (fun b message => b.commit indexer message.offset) broker

@[simp] theorem commitAll_nil (broker : Broker) (indexer : String) :
    commitAll broker indexer [] = broker := rfl

@[simp] theorem commitAll_cons (broker : Broker) (indexer : String) (message : Message)
    (rest : List Message) :
    commitAll broker indexer (message :: rest)
      = commitAll (broker.commit indexer message.offset) indexer rest := rfl

/-- The account of a consumption of messages, `before` others having been worked off earlier. -/
structure Account (indexer : Indexer) (settings : Settings) (limit : Option Int)
    (refuses : Refusals) (broker : Broker) (before : Nat) (messages : List Message)
    (consumption : Consumption) : Prop where
  /-- each call that the sink kept is that of one message, from the first one on -/
  kept : List.Forall₂ (indexer.Transforms settings)
    (messages.take consumption.kept.length) consumption.kept
  processed : consumption.processed = before + consumption.kept.length
  /-- exactly the messages whose outputs were kept are acknowledged -/
  broker : consumption.broker
    = commitAll broker indexer.name (messages.take consumption.kept.length)
  ending : EndsBefore indexer settings limit refuses consumption.processed
    (messages.drop consumption.kept.length) consumption.ending

section

variable {indexer : Indexer} {settings : Settings} {limit : Option Int} {refuses : Refusals}
  {broker : Broker} {before : Nat} {message : Message} {rest : List Message}

/-- A message that cannot be transformed ends a consumption. -/
theorem ofMessages_cons_of_error {fault : Fault}
    (h : (indexer.runBatch message.batch settings).result = .error fault) :
    ofMessages indexer settings limit refuses broker before (message :: rest)
      = ⟨broker, [], none, (indexer.runBatch message.batch settings).notes, before,
          .failed fault⟩ := by
  simp [ofMessages, h]

/-- A refusal of the sink ends a consumption. -/
theorem ofMessages_cons_of_refused {outputs : List Output} {fault : Fault}
    (h : indexer.Transforms settings message outputs)
    (hsink : refuses (before + 1) outputs = some fault) :
    ofMessages indexer settings limit refuses broker before (message :: rest)
      = ⟨broker, [], some outputs, (indexer.runBatch message.batch settings).notes, before,
          .failed fault⟩ := by
  have hresult : (indexer.runBatch message.batch settings).result = .ok outputs := h
  simp [ofMessages, hresult, hsink]

/-- What is noted of a message whose outputs were kept. -/
def notesOf (indexer : Indexer) (settings : Settings) (message : Message) (outputs : Nat) :
    List Note :=
  (indexer.runBatch message.batch settings).notes ++ [.consumed indexer.name message.block outputs]

/-- The message that reaches the limit is the last one. -/
theorem ofMessages_cons_of_enough {outputs : List Output}
    (h : indexer.Transforms settings message outputs)
    (hsink : refuses (before + 1) outputs = none)
    (hlimit : Reached limit (before + 1)) :
    ofMessages indexer settings limit refuses broker before (message :: rest)
      = ⟨broker.commit indexer.name message.offset, [outputs], none,
          notesOf indexer settings message outputs.length, before + 1, .enough⟩ := by
  have hresult : (indexer.runBatch message.batch settings).result = .ok outputs := h
  obtain ⟨most, rfl, hmost⟩ := hlimit
  have hreach : most ≤ (before : Int) + 1 := by omega
  simp [ofMessages, hresult, hsink, hreach, notesOf]

/-- Short of the limit the consumption goes on with the next message. -/
theorem ofMessages_cons_of_more {outputs : List Output}
    (h : indexer.Transforms settings message outputs)
    (hsink : refuses (before + 1) outputs = none)
    (hlimit : ¬ Reached limit (before + 1)) :
    ofMessages indexer settings limit refuses broker before (message :: rest)
      = let more := ofMessages indexer settings limit refuses
          (broker.commit indexer.name message.offset) (before + 1) rest
        { more with
          kept := outputs :: more.kept
          notes := notesOf indexer settings message outputs.length ++ more.notes } := by
  have hresult : (indexer.runBatch message.batch settings).result = .ok outputs := h
  have hbelow : (limit.any fun (most : Int) => decide (most ≤ (before : Int) + 1)) = false := by
    cases limit with
    | none => rfl
    | some most =>
      have hmost : ¬ most ≤ (before : Int) + 1 := fun hle =>
        hlimit ⟨most, rfl, by omega⟩
      simpa using hmost
  simp [ofMessages, hresult, hsink, hbelow, notesOf]

end

/-- Every consumption of messages has its account. -/
theorem account_ofMessages (indexer : Indexer) (settings : Settings) (limit : Option Int)
    (refuses : Refusals) (broker : Broker) (before : Nat) (messages : List Message) :
    Account indexer settings limit refuses broker before messages
      (ofMessages indexer settings limit refuses broker before messages) := by
  induction messages generalizing broker before with
  | nil => exact ⟨.nil, rfl, rfl, rfl⟩
  | cons message rest ih =>
    cases hresult : (indexer.runBatch message.batch settings).result with
    | error fault =>
      rw [ofMessages_cons_of_error hresult]
      exact ⟨.nil, rfl, rfl, message, rfl, .transform hresult⟩
    | ok outputs =>
      have htransforms : indexer.Transforms settings message outputs := hresult
      cases hsink : refuses (before + 1) outputs with
      | some fault =>
        rw [ofMessages_cons_of_refused htransforms hsink]
        exact ⟨.nil, rfl, rfl, message, rfl, .sink htransforms hsink⟩
      | none =>
        by_cases hlimit : Reached limit (before + 1)
        · rw [ofMessages_cons_of_enough htransforms hsink hlimit]
          exact ⟨.cons htransforms .nil, rfl, rfl, hlimit⟩
        · rw [ofMessages_cons_of_more htransforms hsink hlimit]
          obtain ⟨hkept, hprocessed, hbroker, hending⟩ :=
            ih (broker.commit indexer.name message.offset) (before + 1)
          refine ⟨.cons htransforms hkept, ?_, hbroker, hending⟩
          rw [hprocessed, List.length_cons]
          omega

/-- The account of a consumption of a broker's pending batches. -/
theorem account_ofBroker (broker : Broker) (indexer : Indexer) (settings : Settings)
    (limit : Option Int) (refuses : Refusals) :
    Account indexer settings limit refuses broker 0 (broker.pending indexer.name)
      (ofBroker broker indexer settings limit refuses) :=
  account_ofMessages indexer settings limit refuses broker 0 (broker.pending indexer.name)

/-! ## Acknowledging messages -/

@[simp] theorem log_commitAll (broker : Broker) (indexer : String) (messages : List Message) :
    (commitAll broker indexer messages).log = broker.log := by
  induction messages generalizing broker with
  | nil => rfl
  | cons message rest ih => rw [commitAll_cons, ih, Broker.log_commit]

/-- Messages that follow the cursor without a gap move it by their number. -/
theorem cursor_commitAll_of_consecutive {broker : Broker} {indexer : String}
    {messages : List Message}
    (h : ∀ (k : Nat) (message : Message), messages[k]? = some message →
      (message.offset : Int) = broker.cursor indexer + 1 + k) :
    (commitAll broker indexer messages).cursor indexer
      = broker.cursor indexer + messages.length := by
  induction messages generalizing broker with
  | nil => simp
  | cons message rest ih =>
    have hfirst : (message.offset : Int) = broker.cursor indexer + 1 := by
      simpa using h 0 message rfl
    have hcursor : (broker.commit indexer message.offset).cursor indexer
        = broker.cursor indexer + 1 := by
      rw [Broker.cursor_commit_self, hfirst]
      omega
    rw [commitAll_cons, ih, hcursor, List.length_cons]
    · push_cast
      omega
    · intro k next hnext
      rw [hcursor, h (k + 1) next (by simpa using hnext)]
      push_cast
      omega

/-! ## What follows from an account -/

namespace Account

variable {indexer : Indexer} {settings : Settings} {limit : Option Int} {refuses : Refusals}
  {broker : Broker} {before : Nat} {messages : List Message} {consumption : Consumption}

/-- A sink keeps no more calls than there are messages. -/
theorem length_kept_le
    (h : Account indexer settings limit refuses broker before messages consumption) :
    consumption.kept.length ≤ messages.length := by
  have hlength := h.kept.length_eq
  rw [List.length_take] at hlength
  omega

theorem log_eq
    (h : Account indexer settings limit refuses broker before messages consumption) :
    consumption.broker.log = broker.log := by
  rw [h.broker, log_commitAll]

end Account

end Consumption

end OracleIndexer
