import Mathlib.Data.List.TakeWhile
import OracleIndexer.Proofs.Broker.Steps
set_option autoImplicit false

/-!
# The history of a run

Which batches a run publishes can be read off its steps, since a batch is taken or refused whatever
has been published before.  The log holds exactly these batches, each at its offset and under the
number of its block, and the cursor of an indexer stands at the farthest offset that was committed
for it.
-/

namespace OracleIndexer

namespace Block

/-- The number of the block of a batch that stands at an offset: what its header reads as, or the
offset where no header is given. -/
inductive Numbered (offset : Nat) : Json → Int → Prop
  | read {members : List (String × Json)} {header : Header}
      (given : (Json.memberOf members "header").isGiven = true)
      (reads : Header.ofDocument (Json.memberOf members "header") = .ok header) :
    Numbered offset (.object members) header.number
  | headless {members : List (String × Json)}
      (absent : (Json.memberOf members "header").isGiven = false) :
    Numbered offset (.object members) offset

end Block

namespace Broker

variable {batch : Json}

theorem blockOf_eq_ok_iff {offset : Nat} {block : Int} :
    blockOf offset batch = .ok block ↔ Block.Numbered offset batch block := by
  constructor
  · intro h
    cases batch with
    | object members =>
      cases hgiven : (Json.memberOf members "header").isGiven with
      | true =>
        simp only [blockOf, hgiven, if_true] at h
        obtain ⟨header, hreads, rfl⟩ := Outcome.map_eq_ok_iff.mp h
        exact .read hgiven hreads
      | false =>
        simp only [blockOf, hgiven, Bool.false_eq_true, if_false, Except.ok.injEq] at h
        subst h
        exact .headless hgiven
    | _ => contradiction
  · intro h
    cases h with
    | read given reads => simp [blockOf, given, reads]
    | headless absent => simp [blockOf, absent]

/-! ## Batches that are taken -/

/-- Whether a batch has a block: it is an object, and its header reads if it is given. -/
def hasBlock : Json → Bool
  | .object members =>
    let header := Json.memberOf members "header"
    !header.isGiven || (Block.Header.ofDocument header).isOk
  | _ => false

/-- Whether a broker takes a batch: it has a block and can be copied. -/
def takes (batch : Json) : Bool := hasBlock batch && (copyOf batch).isOk

/-- A batch with a block has one wherever it comes to stand. -/
theorem exists_numbered_of_hasBlock (h : hasBlock batch = true) (offset : Nat) :
    ∃ block, Block.Numbered offset batch block := by
  cases batch with
  | object members =>
    cases hgiven : (Json.memberOf members "header").isGiven with
    | false => exact ⟨offset, .headless hgiven⟩
    | true =>
      cases hheader : Block.Header.ofDocument (Json.memberOf members "header") with
      | ok header => exact ⟨header.number, .read hgiven hheader⟩
      | error fault => simp [hasBlock, hgiven, hheader, Except.isOk, Except.toBool] at h
  | _ => contradiction

/-- A batch without one is refused for the same reason everywhere. -/
theorem exists_fault_of_not_hasBlock (h : hasBlock batch = false) :
    ∃ fault, ∀ offset, blockOf offset batch = .error fault := by
  cases batch with
  | object members =>
    cases hgiven : (Json.memberOf members "header").isGiven with
    | false => simp [hasBlock, hgiven] at h
    | true =>
      cases hheader : Block.Header.ofDocument (Json.memberOf members "header") with
      | ok header => simp [hasBlock, hgiven, hheader, Except.isOk, Except.toBool] at h
      | error fault => exact ⟨fault, fun offset => by simp [blockOf, hgiven, hheader]⟩
  | _ => exact ⟨.wrongKind, fun _ => rfl⟩

theorem isOk_copyOf_iff : (copyOf batch).isOk = true ↔ copyOf batch = .ok batch := by
  constructor
  · intro h
    cases hcopy : copyOf batch with
    | ok copy => rw [eq_of_copyOf hcopy]
    | error fault =>
      rw [hcopy] at h
      contradiction
  · intro h
    rw [h]
    rfl

theorem takes_iff : takes batch = true ↔ hasBlock batch = true ∧ copyOf batch = .ok batch := by
  rw [takes, Bool.and_eq_true, isOk_copyOf_iff]

/-- A batch that is taken has a block wherever it comes to stand. -/
theorem exists_numbered_of_takes (h : takes batch = true) (offset : Nat) :
    ∃ block, Block.Numbered offset batch block :=
  exists_numbered_of_hasBlock (takes_iff.mp h).1 offset

theorem publish_of_takes (h : takes batch = true) (broker : Broker) :
    ∃ block, broker.publish batch = .ok (broker.log.length,
      { broker with log := broker.log ++ [⟨broker.log.length, block, batch⟩] }) := by
  obtain ⟨block, hblock⟩ := exists_numbered_of_takes h broker.log.length
  have hcopy := (takes_iff.mp h).2
  exact ⟨block, publish_eq_ok_iff.mpr ⟨block, blockOf_eq_ok_iff.mpr hblock, hcopy, rfl, rfl⟩⟩

theorem publish_of_not_takes (h : takes batch = false) :
    ∃ fault, ∀ broker : Broker, broker.publish batch = .error fault := by
  cases hblock : hasBlock batch with
  | false =>
    obtain ⟨fault, hfault⟩ := exists_fault_of_not_hasBlock hblock
    refine ⟨fault, fun broker => ?_⟩
    rw [publish, hfault, Outcome.error_bind]
  | true =>
    -- the block is found at every offset, so it is the copy that is refused
    cases hcopy : copyOf batch with
    | ok copy => simp [takes, hblock, hcopy, Except.isOk, Except.toBool] at h
    | error fault =>
      refine ⟨fault, fun broker => ?_⟩
      obtain ⟨block, hnumbered⟩ := exists_numbered_of_hasBlock hblock broker.log.length
      rw [publish, blockOf_eq_ok_iff.mpr hnumbered, Outcome.ok_bind, hcopy, Outcome.error_bind]

theorem takes_of_publish {broker : Broker} {published : Nat × Broker}
    (h : broker.publish batch = .ok published) : takes batch = true := by
  cases htakes : takes batch with
  | true => rfl
  | false =>
    obtain ⟨fault, hfault⟩ := publish_of_not_takes htakes
    cases h.symm.trans (hfault broker)

end Broker

namespace Session

/-! ## What a run publishes -/

/-- The batches that a step publishes: those in front of the first that is not taken. -/
def Step.published : Step → List Json
  | .publish batch => [batch].takeWhile Broker.takes
  | .produce batches => batches.takeWhile Broker.takes
  | _ => []

/-- The batches that a run publishes, in order. -/
def published (steps : List Step) : List Json := steps.flatMap Step.published

theorem take_publish_of_takes {batch : Json} (h : Broker.takes batch = true) (session : Session) :
    ∃ block, session.take (.publish batch) = ({ session with
        broker := { session.broker with
          log := session.broker.log ++ [⟨session.broker.log.length, block, batch⟩] } },
      .number session.broker.log.length) := by
  obtain ⟨block, hpublish⟩ := Broker.publish_of_takes h session.broker
  exact ⟨block, by simp [take, hpublish]⟩

theorem take_publish_of_not_takes {batch : Json} (h : Broker.takes batch = false) :
    ∃ fault, ∀ session : Session, session.take (.publish batch) = (session, .refused fault) := by
  obtain ⟨fault, hfault⟩ := Broker.publish_of_not_takes h
  exact ⟨fault, fun session => by simp [take, hfault]⟩

/-- Batches that are taken are produced by publishing them one by one; what follows them is
produced afterwards. -/
theorem produce_append_of_takes {front : List Json}
    (h : ∀ batch ∈ front, Broker.takes batch = true) (session : Session) (count : Nat)
    (rest : List Json) :
    session.broker.produce count (front ++ rest)
      = (session.after (front.map .publish)).broker.produce (count + front.length) rest := by
  induction front generalizing session count with
  | nil => rfl
  | cons batch front ih =>
    obtain ⟨hbatch, hfront⟩ := List.forall_mem_cons.mp h
    -- One round of the production is the publication of the first batch, and counts it.
    obtain ⟨block, hpublish⟩ := Broker.publish_of_takes hbatch session.broker
    have hnext := ih hfront (session.take (.publish batch)).1 (count + 1)
    rw [List.cons_append, Broker.produce, hpublish, List.map_cons, after, List.length_cons,
      Nat.add_comm front.length 1, ← Nat.add_assoc, ← hnext]
    simp [take, hpublish]

theorem subscriptions_after_publish (session : Session) (batches : List Json) :
    (session.after (batches.map .publish)).subscriptions = session.subscriptions := by
  apply after_induction
    (motive := fun later => later.subscriptions = session.subscriptions) rfl
  intro earlier step hmem hearlier
  obtain ⟨batch, _, rfl⟩ := List.mem_map.mp hmem
  rw [subscriptions_take fun _ => id, hearlier]

/-- Batches all of which are taken are produced, and counted. -/
theorem take_produce_of_takes {batches : List Json}
    (h : ∀ batch ∈ batches, Broker.takes batch = true) (session : Session) :
    session.take (.produce batches)
      = (session.after (batches.map .publish), .number batches.length) := by
  have hproduce := produce_append_of_takes h session 0 []
  rw [List.append_nil, Nat.zero_add, Broker.produce] at hproduce
  simp only [take, hproduce]
  rw [← subscriptions_after_publish session batches]

/-- A batch that is not taken ends a production, as its own publication would be refused. -/
theorem take_produce_of_not_takes {front back : List Json} {batch : Json}
    (h : ∀ earlier ∈ front, Broker.takes earlier = true) (hbatch : Broker.takes batch = false)
    (session : Session) :
    session.take (.produce (front ++ batch :: back))
      = (session.after (front.map .publish), (session.take (.publish batch)).2) := by
  obtain ⟨fault, hfault⟩ := Broker.publish_of_not_takes hbatch
  have hproduce := produce_append_of_takes h session 0 (batch :: back)
  rw [Broker.produce, hfault] at hproduce
  simp only [take, hproduce, hfault]
  rw [← subscriptions_after_publish session front]

/-- Batches are all taken, or there is a first one that is not. -/
theorem takes_all_or_first_not (batches : List Json) :
    (∀ batch ∈ batches, Broker.takes batch = true) ∨
      ∃ front batch back, batches = front ++ batch :: back ∧
        (∀ earlier ∈ front, Broker.takes earlier = true) ∧ Broker.takes batch = false := by
  induction batches with
  | nil => exact .inl (by simp)
  | cons batch rest ih =>
    cases hbatch : Broker.takes batch with
    | false => exact .inr ⟨[], batch, rest, rfl, by simp, hbatch⟩
    | true =>
      rcases ih with hall | ⟨front, last, back, rfl, hfront, hlast⟩
      · exact .inl (List.forall_mem_cons.mpr ⟨hbatch, hall⟩)
      · exact .inr ⟨batch :: front, last, back, rfl,
          List.forall_mem_cons.mpr ⟨hbatch, hfront⟩, hlast⟩

/-- Batches that are taken come to stand at the end of the log. -/
theorem batches_after_publish {batches : List Json}
    (h : ∀ batch ∈ batches, Broker.takes batch = true) (session : Session) :
    (session.after (batches.map .publish)).broker.log.map Message.batch
      = session.broker.log.map Message.batch ++ batches := by
  induction batches generalizing session with
  | nil => simp [after]
  | cons batch rest ih =>
    obtain ⟨hbatch, hrest⟩ := List.forall_mem_cons.mp h
    obtain ⟨block, htake⟩ := take_publish_of_takes hbatch session
    rw [List.map_cons, after, ih hrest, htake]
    simp

/-- A step adds to the log what it publishes. -/
theorem batches_take (session : Session) (step : Step) :
    (session.take step).1.broker.log.map Message.batch
      = session.broker.log.map Message.batch ++ step.published := by
  cases step with
  | publish batch =>
    cases htakes : Broker.takes batch with
    | true =>
      obtain ⟨block, htake⟩ := take_publish_of_takes htakes session
      simp [htake, Step.published, htakes]
    | false =>
      obtain ⟨fault, htake⟩ := take_publish_of_not_takes htakes
      simp [htake, Step.published, htakes]
  | produce batches =>
    -- The batches in front of the first that is not taken are published as by single steps.
    rcases takes_all_or_first_not batches with hall | ⟨front, batch, back, rfl, hfront, hbatch⟩
    · rw [take_produce_of_takes hall, batches_after_publish hall, Step.published,
        List.takeWhile_eq_self_iff.mpr hall]
    · rw [take_produce_of_not_takes hfront hbatch, batches_after_publish hfront, Step.published,
        List.takeWhile_append_of_pos hfront]
      simp [hbatch]
  | acknowledged indexer =>
    cases hblock : session.broker.acknowledged indexer <;> simp [take, hblock, Step.published]
  | consume indexer settings limit refuses =>
    simp [(Consumption.account_ofBroker ..).log_eq, Step.published]
  | _ => simp [take, Step.published]

/-- A run adds to the log what it publishes. -/
theorem batches_after (session : Session) (steps : List Step) :
    (session.after steps).broker.log.map Message.batch
      = session.broker.log.map Message.batch ++ published steps := by
  induction steps generalizing session with
  | nil => simp [after, published]
  | cons step rest ih => simp [after, ih, batches_take, published]

/-- A run that publishes nothing leaves the log as it is. -/
theorem log_after_of_quiet {session : Session} {steps : List Step} (h : published steps = []) :
    (session.after steps).broker.log = session.broker.log := by
  have hlength := congrArg List.length (batches_after session steps)
  rw [h, List.append_nil, List.length_map, List.length_map] at hlength
  exact ((log_prefix_after session steps).eq_of_length hlength.symm).symm

/-- The log holds what was published. -/
theorem batches_after_start (steps : List Step) :
    (start.after steps).broker.log.map Message.batch = published steps :=
  batches_after start steps

theorem length_log_after (steps : List Step) :
    (start.after steps).broker.log.length = (published steps).length := by
  rw [← batches_after_start, List.length_map]

/-- A position of the log holds the batch published there, under the number of its block. -/
theorem published_of_getElem?_log {steps : List Step} {n : Nat} {message : Message}
    (h : (start.after steps).broker.log[n]? = some message) :
    message.offset = n ∧ (published steps)[n]? = some message.batch ∧
      Block.Numbered n message.batch message.block := by
  have hoffset : message.offset = n := dense_after steps Broker.dense_empty n message h
  have hblock := checked_after steps message (List.mem_of_getElem? h)
  rw [hoffset] at hblock
  refine ⟨hoffset, ?_, Broker.blockOf_eq_ok_iff.mp hblock⟩
  rw [← batches_after_start, List.getElem?_map, h, Option.map_some]

/-- A batch published stands at its offset, under the number of its block. -/
theorem exists_message_of_published {steps : List Step} {offset : Nat} {batch : Json}
    (h : (published steps)[offset]? = some batch) :
    ∃ block, Block.Numbered offset batch block ∧
      (start.after steps).broker.log[offset]? = some ⟨offset, block, batch⟩ := by
  rw [← batches_after_start, List.getElem?_map] at h
  obtain ⟨message, hmessage, rfl⟩ := Option.map_eq_some_iff.mp h
  obtain ⟨hoffset, _, hblock⟩ := published_of_getElem?_log hmessage
  refine ⟨message.block, hblock, ?_⟩
  rw [hmessage, ← hoffset]

/-! ## What a run commits -/

/-- The offsets that a step commits for an indexer.  A consumption commits that of each batch whose
outputs the sink kept. -/
def committedBy (session : Session) (name : String) : Step → List Int
  | .commit indexer offset => if indexer = name then [offset] else []
  | .consume indexer settings limit refuses =>
    if indexer.name = name then
      let consumption := Consumption.ofBroker session.broker indexer settings limit refuses
      ((session.broker.pending name).take consumption.kept.length).map fun message =>
        (message.offset : Int)
    else []
  | _ => []

/-- The offsets that a run commits for an indexer, in order. -/
def committed (session : Session) (name : String) : List Step → List Int
  | [] => []
  | step :: rest => session.committedBy name step ++ (session.take step).1.committed name rest

theorem cursor_commitAll (broker : Broker) (indexer : String) (messages : List Message) :
    (Consumption.commitAll broker indexer messages).cursor indexer
      = (messages.map fun message => (message.offset : Int)).foldl max
          (broker.cursor indexer) := by
  induction messages generalizing broker with
  | nil => rfl
  | cons message rest ih => simp [ih]

/-- A step moves the cursor of an indexer to the farthest offset that it commits, if that lies
ahead. -/
theorem cursor_take_eq (session : Session) (name : String) (step : Step) :
    (session.take step).1.broker.cursor name
      = (session.committedBy name step).foldl max (session.broker.cursor name) := by
  by_cases hacknowledges : step.Acknowledges name
  · cases step with
    | commit indexer offset =>
      obtain rfl : indexer = name := hacknowledges
      simp [take, committedBy]
    | consume indexer settings limit refuses =>
      obtain rfl : indexer.name = name := hacknowledges
      rw [take_consume, (Consumption.account_ofBroker ..).broker, cursor_commitAll]
      simp [committedBy]
    | _ => exact hacknowledges.elim
  · rw [cursor_take hacknowledges]
    have hnone : session.committedBy name step = [] := by
      cases step with
      | commit indexer offset => exact if_neg hacknowledges
      | consume indexer settings limit refuses => exact if_neg hacknowledges
      | _ => rfl
    rw [hnone, List.foldl_nil]

theorem cursor_after_eq (session : Session) (name : String) (steps : List Step) :
    (session.after steps).broker.cursor name
      = (session.committed name steps).foldl max (session.broker.cursor name) := by
  induction steps generalizing session with
  | nil => rfl
  | cons step rest ih =>
    rw [after, ih, cursor_take_eq, committed, List.foldl_append]

/-! ## The log and the cursors after a run -/

/-- After any run the log holds the batches published, each at the offset it was answered with and
under the number of its block, and holds them there ever after.  A batch that is refused changes
nothing; a list is published up to the first batch that is refused; and the cursor of an indexer is
the farthest offset committed for it, or -1. -/
theorem append_only (steps : List Step) :
    let session := start.after steps
    let count := (published steps).length
    session.broker.log.length = count ∧
    (∀ offset batch, (published steps)[offset]? = some batch →
      ∃ block, Block.Numbered offset batch block ∧
        ∀ later, (session.after later).broker.log[offset]? = some ⟨offset, block, batch⟩) ∧
    (∀ batch, Broker.takes batch = true →
      (session.take (.publish batch)).2 = .number count ∧
        published (steps ++ [.publish batch]) = published steps ++ [batch]) ∧
    (∀ batch, Broker.takes batch = false →
      (∃ fault, session.take (.publish batch) = (session, .refused fault)) ∧
        published (steps ++ [.publish batch]) = published steps) ∧
    (∀ batches, (∀ batch ∈ batches, Broker.takes batch = true) →
      session.take (.produce batches)
        = (session.after (batches.map .publish), .number batches.length)) ∧
    (∀ front batch back, (∀ earlier ∈ front, Broker.takes earlier = true) →
      Broker.takes batch = false →
      session.take (.produce (front ++ batch :: back))
        = (session.after (front.map .publish), (session.take (.publish batch)).2)) ∧
    ∀ indexer, (session.take (.offset indexer)).2
        = .number ((start.committed indexer steps).foldl max (-1)) ∧
      ∀ later, session.broker.cursor indexer ≤ (session.after later).broker.cursor indexer := by
  intro session count
  have hlength : session.broker.log.length = count := length_log_after steps
  have hpublished : ∀ batch, published (steps ++ [.publish batch])
      = published steps ++ [batch].takeWhile Broker.takes := by
    intro batch
    simp [published, Step.published]
  refine ⟨hlength, ?_, ?_, ?_, ?_, ?_, ?_⟩
  · intro offset batch hbatch
    obtain ⟨block, hblock, hmessage⟩ := exists_message_of_published hbatch
    exact ⟨block, hblock, getElem?_log_after hmessage⟩
  · intro batch htakes
    obtain ⟨block, htake⟩ := take_publish_of_takes htakes session
    rw [htake, hlength, hpublished]
    simp [htakes]
  · intro batch htakes
    obtain ⟨fault, htake⟩ := take_publish_of_not_takes htakes
    refine ⟨⟨fault, htake session⟩, ?_⟩
    rw [hpublished]
    simp [htakes]
  · intro batches htakes
    exact take_produce_of_takes htakes session
  · intro front batch back hfront hbatch
    exact take_produce_of_not_takes hfront hbatch session
  · intro indexer
    refine ⟨?_, fun later => cursor_le_after session later indexer⟩
    exact congrArg Answer.number (cursor_after_eq start indexer steps)

/-- A batch with a header, one with an empty header, and one whose header numbers no block. -/
private def producedBatches : List Json :=
  [bareBatch 7, .object [("header", .object [])],
    .object [("header", .object [("blockNumber", .bool true)])]]

/-- The batches produced, the last of which is refused, and two offsets committed, of which the
second is no batch's. -/
private def productionRun : List Step :=
  [.produce producedBatches, .commit "spot" 5, .commit "spot" (-3)]

/-- A list is published up to the batch that is refused, and what was published stays as it is
whatever follows.  The batch with an empty header gets its offset for its block. -/
theorem append_only_production :
    published productionRun = producedBatches.take 2 ∧
    (start.after productionRun).broker.log.length = 2 ∧
    (∀ later, ((start.after productionRun).after later).broker.log[1]?
      = some ⟨1, 1, .object [("header", .object [])]⟩) ∧
    ((start.after productionRun).take (.offset "spot")).2 = .number 5 := by
  obtain ⟨hlength, hbatches, _, _, _, _, hcursor⟩ := append_only productionRun
  have hpublished : published productionRun = producedBatches.take 2 := rfl
  refine ⟨hpublished, ?_, ?_, (hcursor "spot").1⟩
  · rw [hlength, hpublished]
    rfl
  · have hsecond : (published productionRun)[1]? = some (.object [("header", .object [])]) := by
      rw [hpublished]
      rfl
    obtain ⟨block, hblock, hmessage⟩ := hbatches 1 _ hsecond
    cases hblock with
    | read given => cases given
    | headless => exact hmessage

end Session

end OracleIndexer
