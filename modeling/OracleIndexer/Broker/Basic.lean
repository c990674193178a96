import OracleIndexer.Block
import OracleIndexer.Json.Writer
set_option autoImplicit false

/-!
# Broker

A log of batches in the order in which they were published, and for each indexer a cursor: the
offset of the last batch it acknowledged.  The log only grows and a cursor never falls back.
-/

namespace OracleIndexer

/-- A published batch. -/
structure Message where
  offset : Nat
  block : Int
  batch : Json
  deriving Repr, Inhabited

/-- The published batches, and the cursor of each indexer, which is -1 before the first batch. -/
structure Broker where
  log : List Message
  cursor : String → Int
  deriving Inhabited

namespace Broker

/-- A broker without batches. -/
def empty : Broker := ⟨[], fun _ => -1⟩

/-- The block number of a batch at an offset: that of its header, or the offset when there is none.
-/
def blockOf (offset : Nat) : Json → Outcome Int
  | .object members =>
    let header := Json.memberOf members "header"
    if header.isGiven then (Block.Header.ofDocument header).map (·.number) else .ok offset
  | _ => .error .wrongKind

/-- The copy of a batch that the log keeps: the batch as it is written and read again. -/
def copyOf (batch : Json) : Outcome Json :=
  match batch.obstacle? Json.levels with
  | some fault => .error fault
  | none => .ok batch

/-- Adds a batch at the end of the log, and gives its offset. -/
def publish (broker : Broker) (batch : Json) : Outcome (Nat × Broker) := do
  let offset := broker.log.length
  let block ← blockOf offset batch
  let copy ← copyOf batch
  return (offset, { broker with log := broker.log ++ [⟨offset, block, copy⟩] })

/-- Publishes batches in order up to the first that is refused, and counts them. -/
def produce (broker : Broker) (count : Nat) : List Json → Broker × Outcome Nat
  | [] => (broker, .ok count)
  | batch :: rest =>
    match broker.publish batch with
    | .ok (_, next) => next.produce (count + 1) rest
    | .error fault => (broker, .error fault)

/-- Moves the cursor of an indexer forward to an offset; a cursor beyond it stays. -/
def commit (broker : Broker) (indexer : String) (offset : Int) : Broker :=
  { broker with
    cursor := fun name => if name = indexer then max (broker.cursor name) offset
      else broker.cursor name }

/-- The block number of the last batch that an indexer acknowledged, if it acknowledged any. -/
def acknowledged (broker : Broker) (indexer : String) : Outcome (Option Int) :=
  match broker.cursor indexer with
  | .negSucc _ => .ok none
  | .ofNat offset =>
    match broker.log[offset]? with
    | some message => .ok (some message.block)
    | none => .error .noSuchOffset

/-- The offset after the cursor of an indexer. -/
def resumption (broker : Broker) (indexer : String) : Nat := (broker.cursor indexer + 1).toNat

@[simp] theorem log_commit (broker : Broker) (indexer : String) (offset : Int) :
    (broker.commit indexer offset).log = broker.log := rfl

@[simp] theorem cursor_commit_self (broker : Broker) (indexer : String) (offset : Int) :
    (broker.commit indexer offset).cursor indexer = max (broker.cursor indexer) offset := by
  simp [commit]

theorem cursor_commit_of_ne (broker : Broker) {indexer other : String} (offset : Int)
    (h : other ≠ indexer) : (broker.commit indexer offset).cursor other = broker.cursor other := by
  simp [commit, h]

end Broker

/-- A subscription of an indexer, and the offset of the batch it delivers next.  Where it starts is
read off the cursor when it is opened, and never again. -/
structure Subscription where
  indexer : String
  next : Nat
  deriving DecidableEq, Repr, Inhabited

namespace Subscription

/-- Opens a subscription after the last batch that an indexer acknowledged. -/
def ofBroker (broker : Broker) (indexer : String) : Subscription :=
  ⟨indexer, broker.resumption indexer⟩

/-- The next batch and the subscription after it, once the batch is published. -/
def deliver (subscription : Subscription) (broker : Broker) : Option (Message × Subscription) :=
  (broker.log[subscription.next]?).map fun message =>
    (message, { subscription with next := subscription.next + 1 })

end Subscription

end OracleIndexer
