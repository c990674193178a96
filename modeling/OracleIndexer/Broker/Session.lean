import OracleIndexer.Broker.Consumption
set_option autoImplicit false

/-!
# Sessions

A broker together with the subscriptions opened on it, and the steps that can be taken, one after
the other, with the answer to each.
-/

namespace OracleIndexer

/-- A broker and its open subscriptions by name. -/
structure Session where
  broker : Broker
  subscriptions : List (String × Subscription)
  deriving Inhabited

namespace Session

/-- A session on a broker without batches. -/
def start : Session := ⟨.empty, []⟩

/-- What can be done in a session. -/
inductive Step where
  | publish (batch : Json)
  | produce (batches : List Json)
  | commit (indexer : String) (offset : Int)
  | offset (indexer : String)
  | acknowledged (indexer : String)
  /-- asks a subscription, which is opened for the indexer at the first time, for the next batch -/
  | next (name indexer : String)
  | consume (indexer : Indexer) (settings : Settings) (limit : Option Int)
      (refuses : Consumption.Refusals)

/-- What a step is answered with. -/
inductive Answer where
  | nothing
  | number (value : Int)
  | block (value : Option Int)
  | message (value : Message)
  /-- the step would have to wait for a batch -/
  | idle
  | consumption (value : Consumption)
  | refused (fault : Fault)

/-- The subscription with a name, or else a new one for an indexer. -/
def subscription (session : Session) (name indexer : String) : Subscription :=
  (session.subscriptions.lookup name).getD (.ofBroker session.broker indexer)

/-- Keeps a subscription under a name. -/
def keep (session : Session) (name : String) (subscription : Subscription) : Session :=
  { session with subscriptions := (name, subscription) :: session.subscriptions }

/-- Asks the subscription with a name for the next batch. -/
def ask (session : Session) (name indexer : String) : Session × Answer :=
  let subscription := session.subscription name indexer
  match subscription.deliver session.broker with
  | some (message, moved) => (session.keep name moved, .message message)
  | none => (session.keep name subscription, .idle)

/-- Takes one step. -/
def take (session : Session) : Step → Session × Answer
  | .publish batch =>
    match session.broker.publish batch with
    | .ok (offset, broker) => ({ session with broker }, .number offset)
    | .error fault => (session, .refused fault)
  | .produce batches =>
    let (broker, count) := session.broker.produce 0 batches
    match count with
    | .ok n => ({ session with broker }, .number n)
    | .error fault => ({ session with broker }, .refused fault)
  | .commit indexer offset =>
    ({ session with broker := session.broker.commit indexer offset }, .nothing)
  | .offset indexer => (session, .number (session.broker.cursor indexer))
  | .acknowledged indexer =>
    match session.broker.acknowledged indexer with
    | .ok block => (session, .block block)
    | .error fault => (session, .refused fault)
  | .next name indexer => session.ask name indexer
  | .consume indexer settings limit refuses =>
    let consumption := Consumption.ofBroker session.broker indexer settings limit refuses
    ({ session with broker := consumption.broker }, .consumption consumption)

/-- The session after some steps. -/
def after (session : Session) : List Step → Session
  | [] => session
  | step :: rest => (session.take step).1.after rest

/-- The answers to steps taken in order. -/
def answers (session : Session) : List Step → List Answer
  | [] => []
  | step :: rest =>
    let (next, answer) := session.take step
    answer :: next.answers rest

end Session

end OracleIndexer
