import OracleIndexer.Proofs.Broker.Following
set_option autoImplicit false

/-!
# Cursors that run past the log

An offset can be committed that no batch has yet.  The cursor then stands past the log: the block
last acknowledged cannot be named, and the batches that are published up to the cursor later are
passed over by every subscription that is opened then.  This happens in no other way, so a run that
commits only offsets of batches already published keeps each cursor on the log, and loses none of
the batches that are published afterwards.
-/

namespace OracleIndexer

/-- A cursor past the log names no batch. -/
theorem Broker.acknowledged_of_length_le {broker : Broker} {indexer : String}
    (h : (broker.log.length : Int) ≤ broker.cursor indexer) :
    broker.acknowledged indexer = .error .noSuchOffset := by
  obtain ⟨n, hn⟩ := Int.eq_ofNat_of_zero_le (by omega : 0 ≤ broker.cursor indexer)
  have hcursor : broker.cursor indexer = Int.ofNat n := hn
  have hnone : broker.log[n]? = none := List.getElem?_eq_none (by omega)
  simp [acknowledged, hcursor, hnone]

namespace Session

/-- An answer that names the block of a batch in a log, or no block. -/
def Answer.NamesBlock (log : List Message) : Answer → Prop
  | .block none => True
  | .block (some named) => ∃ message ∈ log, message.block = named
  | _ => False

/-- The block that an indexer acknowledged last can be named exactly if the cursor does not stand
past the log. -/
theorem namesBlock_acknowledged_iff {session : Session} {indexer : String} :
    (session.take (.acknowledged indexer)).2.NamesBlock session.broker.log ↔
      session.broker.cursor indexer < session.broker.log.length := by
  constructor
  · intro hnames
    by_contra hpast
    have hrefused := Broker.acknowledged_of_length_le (Int.not_lt.mp hpast)
    simp [take, hrefused, Answer.NamesBlock] at hnames
  · intro hcursor
    rcases Int.lt_or_le (session.broker.cursor indexer) 0 with hneg | hnonneg
    · simp [take, Broker.acknowledged_of_neg hneg, Answer.NamesBlock]
    · obtain ⟨n, hn⟩ := Int.eq_ofNat_of_zero_le hnonneg
      have hlt : n < session.broker.log.length := by omega
      have hblock := Broker.acknowledged_of_getElem? hn (List.getElem?_eq_getElem hlt)
      simp only [take, hblock, Answer.NamesBlock]
      exact ⟨_, List.getElem_mem hlt, rfl⟩

/-! ## Commits in the log -/

/-- A step that commits for an indexer no offset past the log. -/
def CommitsBatch (session : Session) (name : String) : Step → Prop
  | .commit indexer offset => indexer = name → offset < session.broker.log.length
  | _ => True

/-- A run that commits for an indexer no offset past the log as it is by then. -/
def CommitsInLog (session : Session) (name : String) : List Step → Prop
  | [] => True
  | step :: rest =>
    session.CommitsBatch name step ∧ (session.take step).1.CommitsInLog name rest

theorem commitsInLog_append {session : Session} {name : String} {front back : List Step} :
    session.CommitsInLog name (front ++ back) ↔
      session.CommitsInLog name front ∧ (session.after front).CommitsInLog name back := by
  induction front generalizing session with
  | nil => simp [CommitsInLog, after]
  | cons step rest ih => simp [CommitsInLog, after, ih, and_assoc]

theorem committed_append (session : Session) (name : String) (front back : List Step) :
    session.committed name (front ++ back)
      = session.committed name front ++ (session.after front).committed name back := by
  induction front generalizing session with
  | nil => rfl
  | cons step rest ih => simp [committed, after, ih]

theorem length_log_le_after (session : Session) (steps : List Step) :
    session.broker.log.length ≤ (session.after steps).broker.log.length :=
  (log_prefix_after session steps).length_le

/-- A step commits offsets of the log, unless it names another one itself. -/
theorem lt_length_of_committedBy {session : Session} (hdense : session.broker.Dense)
    {name : String} {step : Step} (hstep : session.CommitsBatch name step) {offset : Int}
    (h : offset ∈ session.committedBy name step) : offset < session.broker.log.length := by
  cases step with
  | commit indexer reached =>
    simp only [committedBy] at h
    split at h
    · rename_i hname
      rw [List.mem_singleton.mp h]
      exact hstep hname
    · contradiction
  | consume indexer settings limit refuses =>
    simp only [committedBy] at h
    split at h
    · obtain ⟨message, hmessage, rfl⟩ := List.mem_map.mp h
      have hlog : message ∈ session.broker.log :=
        List.mem_of_mem_drop (List.mem_of_mem_take hmessage)
      obtain ⟨hlt, _⟩ := List.getElem?_eq_some_iff.mp (hdense.getElem?_offset hlog)
      omega
    · contradiction
  | _ => contradiction

theorem lt_length_of_committed {session : Session} (hdense : session.broker.Dense)
    {name : String} {steps : List Step} (hsteps : session.CommitsInLog name steps) {offset : Int}
    (h : offset ∈ session.committed name steps) :
    offset < (session.after steps).broker.log.length := by
  induction steps generalizing session with
  | nil => contradiction
  | cons step rest ih =>
    obtain ⟨hstep, hrest⟩ := hsteps
    rcases List.mem_append.mp h with hfirst | hlater
    · have hlt := lt_length_of_committedBy hdense hstep hfirst
      have hle := length_log_le_after session (step :: rest)
      omega
    · exact ih (dense_take step hdense) hrest hlater

theorem foldl_max_lt_iff {offsets : List Int} {first bound : Int} :
    offsets.foldl max first < bound ↔ first < bound ∧ ∀ offset ∈ offsets, offset < bound := by
  induction offsets generalizing first with
  | nil => simp
  | cons offset rest ih =>
    rw [List.foldl_cons, ih, Int.max_lt, List.forall_mem_cons, and_assoc]

/-- A cursor stays in front of a bound exactly if all that is committed does. -/
theorem cursor_after_lt_iff {session : Session} {name : String} {steps : List Step} {bound : Int} :
    (session.after steps).broker.cursor name < bound ↔
      session.broker.cursor name < bound ∧
        ∀ offset ∈ session.committed name steps, offset < bound := by
  rw [cursor_after_eq, foldl_max_lt_iff]

/-- In every state that a run passes through, the cursor of an indexer stands on the log, exactly if
the run commits only offsets of the log for it. -/
theorem cursor_lt_length_iff {session : Session} (hdense : session.broker.Dense) {name : String}
    (hcursor : session.broker.cursor name < session.broker.log.length) {steps : List Step} :
    (∀ front back, steps = front ++ back →
      (session.after front).broker.cursor name < (session.after front).broker.log.length) ↔
      session.CommitsInLog name steps := by
  constructor
  · intro h
    induction steps generalizing session with
    | nil => trivial
    | cons step rest ih =>
      have hnext := h [step] rest rfl
      refine ⟨?_, ih (dense_take step hdense) hnext fun front back hrest => ?_⟩
      · cases step with
        | commit indexer offset =>
          -- A commit past the log shows in the state right behind it.
          rintro rfl
          simp only [after, take, Broker.cursor_commit_self, Broker.log_commit] at hnext
          omega
        | _ => trivial
      · exact h (step :: front) back (by rw [hrest, List.cons_append])
  · rintro h front back rfl
    obtain ⟨hfront, _⟩ := commitsInLog_append.mp h
    refine cursor_after_lt_iff.mpr ⟨?_, fun offset => lt_length_of_committed hdense hfront⟩
    have hle := length_log_le_after session front
    omega

/-! ## Batches that a subscription comes to -/

/-- How often a run asks the subscription with a name. -/
def requests (name : String) (steps : List Step) : Nat := steps.countP fun step => step.Asks name

theorem requests_cons_of_asks {name : String} {step : Step} (h : step.Asks name)
    (rest : List Step) : requests name (step :: rest) = requests name rest + 1 := by
  simp [requests, h]

theorem requests_cons_of_not_asks {name : String} {step : Step} (h : ¬ step.Asks name)
    (rest : List Step) : requests name (step :: rest) = requests name rest := by
  simp [requests, h]

/-- A request delivers a batch, unless the subscription stands behind the log. -/
theorem length_receivedBy_next (session : Session) (name indexer : String) :
    (session.receivedBy name (.next name indexer)).length = 1 ∨
      session.broker.log.length ≤ (session.subscription name indexer).next := by
  rw [← List.getElem?_eq_none_iff]
  cases hmessage : session.broker.log[(session.subscription name indexer).next]? with
  | none => exact .inr rfl
  | some message =>
    simp only [receivedBy, take]
    rw [ask_of_some hmessage]
    simp

theorem length_receivedBy_le_one (session : Session) (name : String) (step : Step) :
    (session.receivedBy name step).length ≤ 1 := by
  unfold receivedBy
  split
  · split <;> simp
  · simp

/-- A subscription delivers at most one batch for each request. -/
theorem length_received_le (session : Session) (name : String) (steps : List Step) :
    (session.received name steps).length ≤ requests name steps := by
  induction steps generalizing session with
  | nil => simp [received]
  | cons step rest ih =>
    have hrest := ih (session.take step).1
    rw [received, List.length_append]
    by_cases hasks : step.Asks name
    · have hfirst := session.length_receivedBy_le_one name step
      rw [requests_cons_of_asks hasks]
      omega
    · rw [receivedBy_of_not_asks hasks, requests_cons_of_not_asks hasks]
      simpa using hrest

/-- A subscription gets past a batch of the log once it has been asked often enough. -/
theorem Followed.lt_length {session : Session} {name : String} {opened : Subscription}
    {received : List Message} (h : Followed session name opened received) {steps : List Step}
    {n : Nat} (hlog : n < session.broker.log.length)
    (hn : n < opened.next + received.length + requests name steps) :
    n < opened.next + (received ++ session.received name steps).length := by
  induction steps generalizing session received with
  | nil => simpa [requests, Session.received] using hn
  | cons step rest ih =>
    have hgrown : n < (session.take step).1.broker.log.length :=
      Nat.lt_of_lt_of_le hlog (length_log_le_after session [step])
    have hrest := ih (h.take step) hgrown
    rw [List.append_assoc] at hrest
    apply hrest
    rw [List.length_append]
    by_cases hasks : step.Asks name
    · rw [requests_cons_of_asks hasks] at hn
      -- A request that delivers nothing finds the subscription behind the log, and so behind `n`.
      have hprogress : (session.receivedBy name step).length = 1 ∨
          session.broker.log.length ≤ opened.next + received.length := by
        cases step with
        | next asked indexer =>
          obtain rfl : asked = name := hasks
          have hstep := length_receivedBy_next session asked indexer
          rw [h.subscription_eq] at hstep
          exact hstep
        | _ => exact hasks.elim
      omega
    · rw [requests_cons_of_not_asks hasks] at hn
      omega

theorem received_append (session : Session) (name : String) (steps more : List Step) :
    session.received name (steps ++ more)
      = session.received name steps ++ (session.after steps).received name more := by
  induction steps generalizing session with
  | nil => rfl
  | cons step rest ih => simp [received, after, ih]

/-- A subscription delivers batches from its position on, one behind the other. -/
theorem position_of_received {session : Session} (hdense : session.broker.Dense)
    {name indexer : String} {later : List Step} {message : Message}
    (h : message ∈ session.received name (.next name indexer :: later)) :
    (session.subscription name indexer).next ≤ message.offset ∧
      message.offset < (session.subscription name indexer).next
        + (session.received name (.next name indexer :: later)).length := by
  obtain ⟨k, hk⟩ := List.mem_iff_getElem?.mp h
  have hmessage := (followed_run session name indexer later).delivered hk
  have hoffset := dense_after _ hdense _ message hmessage
  obtain ⟨hlt, _⟩ := List.getElem?_eq_some_iff.mp hk
  omega

/-- A subscription delivers a batch of the log exactly if it was opened in front of it and is asked
often enough from then on. -/
theorem mem_received_iff {session : Session} (hdense : session.broker.Dense)
    {name indexer : String} {meanwhile later : List Step} {n : Nat} {message : Message}
    (hmessage : (session.after (.next name indexer :: meanwhile)).broker.log[n]? = some message) :
    message ∈ session.received name (.next name indexer :: meanwhile ++ later) ↔
      (session.subscription name indexer).next ≤ n ∧
        n < (session.subscription name indexer).next
          + (session.received name (.next name indexer :: meanwhile)).length
          + requests name later := by
  have happend := received_append session name (.next name indexer :: meanwhile) later
  rw [List.cons_append] at happend ⊢
  constructor
  · intro hreceived
    obtain ⟨hlow, hhigh⟩ := position_of_received hdense hreceived
    rw [dense_after _ hdense n message hmessage] at hlow hhigh
    rw [happend, List.length_append] at hhigh
    have hle := length_received_le (session.after (.next name indexer :: meanwhile)) name later
    exact ⟨hlow, by omega⟩
  · rintro ⟨hlow, hhigh⟩
    obtain ⟨hlog, _⟩ := List.getElem?_eq_some_iff.mp hmessage
    have hpassed := (followed_run session name indexer meanwhile).lt_length hlog hhigh
    rw [← happend] at hpassed
    obtain ⟨k, rfl⟩ := Nat.exists_eq_add_of_le hlow
    have hk := List.getElem?_eq_getElem (Nat.add_lt_add_iff_left.mp hpassed)
    have hdelivered := (followed_run session name indexer (meanwhile ++ later)).delivered hk
    have hkept := getElem?_log_after hmessage later
    rw [← after_append, List.cons_append, hdelivered] at hkept
    rw [← Option.some.inj hkept]
    exact List.getElem_mem _

/-! ## Acknowledged and not lost -/

/-- In all states of a run the block that an indexer acknowledged last can be named exactly if the
run commits for it no offset past the log.  A subscription that is opened after the run, and asked
often enough, delivers a batch, which may be published before or meanwhile, exactly if each offset
committed for its indexer by then is less than that of the batch.  If no commit in front of some
point is past the log, this depends for the batches published behind it on the commits behind it
alone. -/
theorem acknowledged_and_delivered_iff (steps : List Step) (indexer : String) :
    ((∀ front back, steps = front ++ back →
        ((start.after front).take (.acknowledged indexer)).2.NamesBlock
          (start.after front).broker.log) ↔
      start.CommitsInLog indexer steps) ∧
    (∀ name, (∀ step ∈ steps, ¬ step.Asks name) → ∀ meanwhile later (n : Nat) batch,
      (published (steps ++ .next name indexer :: meanwhile))[n]? = some batch →
      ∃ block, Block.Numbered n batch block ∧
        (⟨n, block, batch⟩ ∈ (start.after steps).received name
            (.next name indexer :: meanwhile ++ later) ↔
          (∀ offset ∈ start.committed indexer steps, offset < n) ∧
            n ≤ (start.after steps).broker.cursor indexer
              + ((start.after steps).received name (.next name indexer :: meanwhile)).length
              + requests name later)) ∧
    ∀ front back (n : Nat), steps = front ++ back → start.CommitsInLog indexer front →
      (published front).length ≤ n →
      ((∀ offset ∈ start.committed indexer steps, offset < n) ↔
        ∀ offset ∈ (start.after front).committed indexer back, offset < n) := by
  have hstart : start.broker.cursor indexer = -1 := rfl
  have hempty : start.broker.log.length = 0 := rfl
  refine ⟨?_, ?_, ?_⟩
  · rw [← cursor_lt_length_iff Broker.dense_empty (by omega)]
    simp only [namesBlock_acknowledged_iff]
  · intro name hfresh meanwhile later n batch hbatch
    have hdense : (start.after steps).broker.Dense := dense_after steps Broker.dense_empty
    have hposition : (((start.after steps).subscription name indexer).next : Int)
        = (start.after steps).broker.cursor indexer + 1 := by
      rw [subscription_of_fresh hfresh]
      exact Broker.resumption_eq (neg_one_le_cursor_after steps indexer)
    have hcursor : (start.after steps).broker.cursor indexer < n ↔
        ∀ offset ∈ start.committed indexer steps, offset < n := by
      rw [cursor_after_lt_iff, hstart]
      exact and_iff_right (by omega)
    obtain ⟨block, hblock, hmessage⟩ := exists_message_of_published hbatch
    rw [after_append] at hmessage
    refine ⟨block, hblock, ?_⟩
    rw [mem_received_iff hdense hmessage, ← hcursor]
    omega
  · rintro front back n rfl hfront hn
    rw [committed_append, List.forall_mem_append]
    apply and_iff_right
    intro offset hoffset
    have hlt := lt_length_of_committed Broker.dense_empty hfront hoffset
    rw [length_log_after] at hlt
    omega

/-- Two batches, of which the first is acknowledged before the second is published. -/
private def acknowledgedInTime : List Step :=
  [.publish (bareBatch 7), .commit "spot" 0, .publish (bareBatch 8), .commit "spot" (-2)]

/-- What is acknowledged in time can be named, and the next batch is delivered. -/
theorem acknowledged_and_delivered_in_time :
    start.CommitsInLog "spot" acknowledgedInTime ∧
    ((start.after acknowledgedInTime).take (.acknowledged "spot")).2.NamesBlock
      (start.after acknowledgedInTime).broker.log ∧
    (∀ step ∈ acknowledgedInTime, ¬ step.Asks "own") ∧
    ∃ block, ⟨1, block, bareBatch 8⟩ ∈
      (start.after acknowledgedInTime).received "own" [.next "own" "spot"] := by
  have hcommits : start.CommitsInLog "spot" acknowledgedInTime :=
    ⟨trivial, fun _ => by decide, trivial, fun _ => by decide, trivial⟩
  have hfresh : ∀ step ∈ acknowledgedInTime, ¬ step.Asks "own" := by decide
  obtain ⟨hnamed, hdelivered, _⟩ := acknowledged_and_delivered_iff acknowledgedInTime "spot"
  obtain ⟨block, _, hreceived⟩ := hdelivered "own" hfresh [] [] 1 (bareBatch 8) rfl
  refine ⟨hcommits, hnamed.mpr hcommits acknowledgedInTime [] rfl, hfresh, block,
    hreceived.mpr ⟨?_, ?_⟩⟩
  · have hcommitted : start.committed "spot" acknowledgedInTime = [0, -2] := rfl
    rw [hcommitted]
    decide
  · have hcursor : (start.after acknowledgedInTime).broker.cursor "spot" = 0 := rfl
    have hlength : ((start.after acknowledgedInTime).received "own"
        [.next "own" "spot"]).length = 1 := rfl
    rw [hcursor, hlength]
    decide

/-- A batch is published at an offset that was committed before. -/
private def acknowledgedAhead : List Step := [.commit "spot" 0, .publish (bareBatch 7)]

/-- After an offset was committed ahead of the log the block acknowledged cannot be named, and no
subscription ever delivers the batch that is published at this offset. -/
theorem acknowledged_ahead_lost :
    ((start.after [.commit "spot" 0]).take (.acknowledged "spot")).2 = .refused .noSuchOffset ∧
    ((start.after [.commit "spot" 0]).take (.publish (bareBatch 7))).2 = .number 0 ∧
    ∀ later block, ⟨0, block, bareBatch 7⟩ ∉
      (start.after acknowledgedAhead).received "own" (.next "own" "spot" :: later) := by
  refine ⟨rfl, rfl, ?_⟩
  intro later block hreceived
  have hdense : (start.after acknowledgedAhead).broker.Dense :=
    dense_after acknowledgedAhead Broker.dense_empty
  obtain ⟨hlow, _⟩ := position_of_received hdense hreceived
  have hposition : ((start.after acknowledgedAhead).subscription "own" "spot").next = 1 := rfl
  rw [hposition] at hlow
  exact Nat.not_succ_le_zero 0 hlow

end Session

end OracleIndexer
