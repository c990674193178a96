import OracleIndexer.Proofs.Broker.History
set_option autoImplicit false

/-!
# Subscriptions follow the log

A subscription is opened right behind the cursor of its indexer, and from then on it goes its own
way: it delivers the log from there, batch by batch, whatever is committed and whatever other
subscriptions do meanwhile.  Only a request of its own moves it, and only past a batch that it
delivers.
-/

namespace OracleIndexer.Session

/-! ## Requests -/

@[simp] theorem lookup_keep_self (session : Session) (name : String) (kept : Subscription) :
    (session.keep name kept).subscriptions.lookup name = some kept := by
  simp [keep]

theorem lookup_keep_of_ne (session : Session) {name other : String} (kept : Subscription)
    (h : other ≠ name) :
    (session.keep name kept).subscriptions.lookup other
      = session.subscriptions.lookup other := by
  simp [keep, List.lookup_cons, beq_eq_false_iff_ne.mpr h]

/-- Only a request of its own moves a subscription. -/
theorem lookup_take {session : Session} {name : String} {step : Step} (h : ¬ step.Asks name) :
    (session.take step).1.subscriptions.lookup name = session.subscriptions.lookup name := by
  cases step with
  | next asked indexer =>
    have hne : name ≠ asked := fun heq => h heq.symm
    simp only [take]
    cases hmessage : session.broker.log[(session.subscription asked indexer).next]? with
    | none => rw [ask_of_none hmessage, lookup_keep_of_ne session _ hne]
    | some message => rw [ask_of_some hmessage, lookup_keep_of_ne session _ hne]
  | _ => rw [subscriptions_take fun _ => id]

theorem lookup_after {session : Session} {name : String} {steps : List Step}
    (h : ∀ step ∈ steps, ¬ step.Asks name) :
    (session.after steps).subscriptions.lookup name = session.subscriptions.lookup name := by
  apply after_induction
    (motive := fun later =>
      later.subscriptions.lookup name = session.subscriptions.lookup name) rfl
  intro earlier step hmem hearlier
  rw [lookup_take (h step hmem), hearlier]

/-- A subscription that was never asked is opened behind the cursor of the indexer. -/
theorem subscription_of_fresh {before : List Step} {name : String}
    (h : ∀ step ∈ before, ¬ step.Asks name) (indexer : String) :
    (start.after before).subscription name indexer
      = .ofBroker (start.after before).broker indexer := by
  have hnone : (start.after before).subscriptions.lookup name = none := lookup_after h
  rw [subscription, hnone, Option.getD_none]

/-- A request is answered with the batch at the position of the subscription. -/
theorem answer_next (session : Session) (name indexer : String) :
    (session.take (.next name indexer)).2
      = (session.broker.log[(session.subscription name indexer).next]?).elim .idle .message := by
  simp only [take]
  cases hmessage : session.broker.log[(session.subscription name indexer).next]? with
  | none => rw [ask_of_none hmessage, Option.elim_none]
  | some message => rw [ask_of_some hmessage, Option.elim_some]

theorem answer_next_eq_message_iff {session : Session} {name indexer : String}
    {message : Message} :
    (session.take (.next name indexer)).2 = .message message ↔
      session.broker.log[(session.subscription name indexer).next]? = some message := by
  rw [answer_next]
  cases session.broker.log[(session.subscription name indexer).next]? <;> simp

/-- A request waits exactly if the position of the subscription is behind the last batch. -/
theorem answer_next_eq_idle_iff {session : Session} {name indexer : String} :
    (session.take (.next name indexer)).2 = .idle ↔
      session.broker.log.length ≤ (session.subscription name indexer).next := by
  rw [answer_next, ← List.getElem?_eq_none_iff]
  cases session.broker.log[(session.subscription name indexer).next]? <;> simp

/-- A subscription that waits stays where it is. -/
theorem subscription_of_idle {session : Session} {name indexer : String}
    (h : (session.take (.next name indexer)).2 = .idle) :
    (session.take (.next name indexer)).1.subscription name indexer
      = session.subscription name indexer := by
  have hnone := List.getElem?_eq_none (answer_next_eq_idle_iff.mp h)
  simp only [take]
  rw [ask_of_none hnone, subscription, lookup_keep_self, Option.getD_some]

/-! ## What a subscription delivers -/

/-- The batch that the subscription with a name delivers at a step. -/
def receivedBy (session : Session) (name : String) (step : Step) : List Message :=
  match step, (session.take step).2 with
  | .next asked _, .message message => if asked = name then [message] else []
  | _, _ => []

/-- The batches that the subscription with a name delivers in a run, in order. -/
def received (session : Session) (name : String) : List Step → List Message
  | [] => []
  | step :: rest => session.receivedBy name step ++ (session.take step).1.received name rest

theorem receivedBy_of_not_asks {session : Session} {name : String} {step : Step}
    (h : ¬ step.Asks name) : session.receivedBy name step = [] := by
  cases step with
  | next asked indexer =>
    have hne : asked ≠ name := h
    unfold receivedBy
    split <;> simp_all
  | _ => rfl

/-- A subscription that has delivered some batches since it was opened: they are those of the log
from there on, and it has moved past them. -/
structure Followed (session : Session) (name : String) (opened : Subscription)
    (received : List Message) : Prop where
  kept : session.subscriptions.lookup name
    = some { opened with next := opened.next + received.length }
  delivered : ∀ {k message}, received[k]? = some message →
    session.broker.log[opened.next + k]? = some message

/-- A request delivers one batch or none. -/
theorem followed_next (session : Session) (name indexer : String) :
    Followed (session.take (.next name indexer)).1 name (session.subscription name indexer)
      (session.receivedBy name (.next name indexer)) := by
  simp only [receivedBy, take]
  cases hmessage : session.broker.log[(session.subscription name indexer).next]? with
  | none =>
    rw [ask_of_none hmessage]
    exact ⟨lookup_keep_self .., by simp⟩
  | some message =>
    rw [ask_of_some hmessage]
    refine ⟨by simp, ?_⟩
    intro k received hreceived
    obtain ⟨hk, rfl⟩ : k = 0 ∧ message = received := by
      simpa [List.getElem?_singleton] using hreceived
    rw [hk]
    exact hmessage

/-- What is delivered from where earlier deliveries have led follows these. -/
theorem Followed.append {session next : Session} {name : String} {opened : Subscription}
    {received more : List Message} (h : Followed session name opened received)
    (hlog : session.broker.log <+: next.broker.log)
    (hmore : Followed next name { opened with next := opened.next + received.length } more) :
    Followed next name opened (received ++ more) where
  kept := by
    rw [hmore.kept, List.length_append, Nat.add_assoc]
  delivered := by
    intro k message hk
    rcases Nat.lt_or_ge k received.length with hbefore | hbehind
    · rw [List.getElem?_append_left hbefore] at hk
      obtain ⟨hlt, heq⟩ := List.getElem?_eq_some_iff.mp (h.delivered hk)
      rw [← heq]
      exact List.prefix_iff_getElem?.mp hlog _ hlt
    · rw [List.getElem?_append_right hbehind] at hk
      -- The later deliveries count from where the earlier ones have led.
      have hmessage := hmore.delivered hk
      rw [Nat.add_assoc, Nat.add_sub_cancel' hbehind] at hmessage
      exact hmessage

/-- An open subscription is the one that a request finds, whatever indexer it names. -/
theorem Followed.subscription_eq {session : Session} {name : String} {opened : Subscription}
    {received : List Message} (h : Followed session name opened received) (indexer : String) :
    session.subscription name indexer
      = { opened with next := opened.next + received.length } := by
  rw [subscription, h.kept, Option.getD_some]

/-- The step lemma. -/
theorem Followed.take {session : Session} {name : String} {opened : Subscription}
    {received : List Message} (h : Followed session name opened received) (step : Step) :
    Followed (session.take step).1 name opened (received ++ session.receivedBy name step) := by
  by_cases hasks : step.Asks name
  · cases step with
    | next asked indexer =>
      obtain rfl : asked = name := hasks
      have hnext := followed_next session asked indexer
      rw [h.subscription_eq] at hnext
      exact h.append (log_prefix_take session _) hnext
    | _ => exact hasks.elim
  · rw [receivedBy_of_not_asks hasks, List.append_nil]
    refine ⟨(lookup_take hasks).trans h.kept, fun hk => ?_⟩
    exact getElem?_log_after (h.delivered hk) [step]

/-- The run lemma. -/
theorem Followed.after {session : Session} {name : String} {opened : Subscription}
    {received : List Message} (h : Followed session name opened received) (steps : List Step) :
    Followed (session.after steps) name opened (received ++ session.received name steps) := by
  induction steps generalizing session received with
  | nil => simpa [Session.received, Session.after] using h
  | cons step rest ih =>
    have hrest := ih (h.take step)
    rw [List.append_assoc] at hrest
    exact hrest

/-- A run that begins with a request opens the subscription, and goes on with it. -/
theorem followed_run (session : Session) (name indexer : String) (later : List Step) :
    Followed (session.after (.next name indexer :: later)) name
      (session.subscription name indexer)
      (session.received name (.next name indexer :: later)) :=
  (followed_next session name indexer).after later

/-- A request of a run finds the subscription where the deliveries before have led. -/
theorem next_of_split (session : Session) {name indexer other : String}
    {later front back : List Step}
    (h : Step.next name indexer :: later = front ++ .next name other :: back) :
    ((session.after front).subscription name other).next
      = (session.subscription name indexer).next + (session.received name front).length := by
  -- The first request finds the subscription as it is opened, every later one finds it open.
  cases front with
  | nil =>
    obtain ⟨hfirst, _⟩ := List.cons.inj h
    cases hfirst
    rfl
  | cons first rest =>
    obtain ⟨rfl, _⟩ := List.cons.inj h
    rw [(followed_run session name indexer rest).subscription_eq other]

/-- After a request nothing but the next one moves the subscription, and the answer to that is
settled, unless it would wait and a batch is published meanwhile. -/
theorem answer_after_next (session : Session) (name other : String) {between : List Step}
    (h : ∀ step ∈ between, ¬ step.Asks name) :
    let asked := (session.take (.next name other)).1
    (asked.after between).subscription name other = asked.subscription name other ∧
    ((asked.take (.next name other)).2 ≠ .idle ∨ published between = [] →
      ((asked.after between).take (.next name other)).2 = (asked.take (.next name other)).2) := by
  intro asked
  have hopen := followed_next session name other
  have hsame : (asked.after between).subscription name other = asked.subscription name other := by
    rw [hopen.subscription_eq, subscription, lookup_after h, hopen.kept, Option.getD_some]
  refine ⟨hsame, ?_⟩
  rw [answer_next, answer_next, hsame]
  rintro (hanswer | hquiet)
  · cases hmessage : asked.broker.log[(asked.subscription name other).next]? with
    | none => exact absurd (by rw [hmessage, Option.elim_none]) hanswer
    | some message => rw [getElem?_log_after hmessage between]
  · rw [log_after_of_quiet hquiet]

/-- A subscription that is opened in a run delivers, one by one, the batches published behind the
cursor that its indexer has then, each with its offset and the number of its block.  A request is
answered with the batch at the position reached, and waits exactly if that is not published; then
the subscription stays where it is.  What others do, and what is committed, never changes what it
delivers next. -/
theorem subscription_follows_log {before : List Step} {name : String}
    (hfresh : ∀ step ∈ before, ¬ step.Asks name) (indexer : String) (later : List Step) :
    let opened := start.after before
    let first := opened.broker.cursor indexer + 1
    let run := Step.next name indexer :: later
    0 ≤ first ∧
    (∀ (k : Nat) (message : Message), (opened.received name run)[k]? = some message →
      (message.offset : Int) = first + k ∧
        (published (before ++ run))[message.offset]? = some message.batch ∧
        Block.Numbered message.offset message.batch message.block) ∧
    ∀ front other back, run = front ++ .next name other :: back →
      let session := opened.after front
      let position := first + (opened.received name front).length
      let next := session.take (.next name other)
      ((session.subscription name other).next : Int) = position ∧
      (next.2 = .idle ↔ (published (before ++ front)).length ≤ position) ∧
      (∀ message, next.2 = .message message ↔
        session.broker.log[position.toNat]? = some message) ∧
      (next.2 = .idle → next.1.subscription name other = session.subscription name other) ∧
      ∀ between, (∀ step ∈ between, ¬ step.Asks name) →
        (next.1.after between).subscription name other = next.1.subscription name other ∧
        ((next.1.take (.next name other)).2 ≠ .idle ∨ published between = [] →
          ((next.1.after between).take (.next name other)).2
            = (next.1.take (.next name other)).2) := by
  intro opened first run
  have hopened : ((opened.subscription name indexer).next : Int) = first := by
    rw [subscription_of_fresh hfresh]
    exact Broker.resumption_eq (neg_one_le_cursor_after before indexer)
  refine ⟨by omega, ?_, ?_⟩
  · intro k message hk
    have hmessage := (followed_run opened name indexer later).delivered hk
    rw [← after_append] at hmessage
    obtain ⟨hoffset, hbatch, hblock⟩ := published_of_getElem?_log hmessage
    rw [← hoffset] at hbatch hblock
    exact ⟨by omega, hbatch, hblock⟩
  · intro front other back hsplit session position next
    have hnext : (session.subscription name other).next
        = (opened.subscription name indexer).next + (opened.received name front).length :=
      next_of_split opened hsplit
    have hposition : ((session.subscription name other).next : Int) = position := by
      omega
    have hlength : session.broker.log.length = (published (before ++ front)).length := by
      rw [← length_log_after, after_append]
    refine ⟨hposition, ?_, ?_, ?_, ?_⟩
    · rw [answer_next_eq_idle_iff, hlength]
      omega
    · intro message
      rw [answer_next_eq_message_iff, ← hposition, Int.toNat_natCast]
    · intro hidle
      exact subscription_of_idle hidle
    · intro between hbetween
      exact answer_after_next session name other hbetween

/-- One batch, and acknowledgements of no batch and of this one. -/
private def acknowledgedRun : List Step :=
  [.publish (bareBatch 7), .commit "spot" (-4), .commit "spot" 0]

/-- An acknowledgement far past the log, another batch, and requests to two subscriptions, of
which one is open already. -/
private def resumedRun : List Step :=
  [.commit "spot" 9, .publish (bareBatch 8), .next "other" "spot", .next "own" "vrf-requests"]

/-- A subscription waits behind the batch acknowledged, and then delivers the next one although its
indexer has acknowledged far more meanwhile. -/
theorem subscription_follows_log_resumed :
    (∀ step ∈ acknowledgedRun, ¬ step.Asks "own") ∧
    (start.after acknowledgedRun).broker.cursor "spot" = 0 ∧
    ((start.after acknowledgedRun).take (.next "own" "spot")).2 = .idle ∧
    ∃ message, (start.after acknowledgedRun).received "own" (.next "own" "spot" :: resumedRun)
        = [message] ∧
      (message.offset : Int) = 1 ∧ Block.Numbered message.offset message.batch message.block := by
  have hfresh : ∀ step ∈ acknowledgedRun, ¬ step.Asks "own" := by decide
  have hcursor : (start.after acknowledgedRun).broker.cursor "spot" = 0 := rfl
  obtain ⟨_, hreceived, hrequests⟩ := subscription_follows_log hfresh "spot" resumedRun
  obtain ⟨_, hidle, _⟩ := hrequests [] "spot" resumedRun rfl
  refine ⟨hfresh, hcursor, hidle.mpr ?_, ⟨1, 8, bareBatch 8⟩, rfl, ?_⟩
  · rw [hcursor]
    decide
  · obtain ⟨hoffset, _, hblock⟩ := hreceived 0 ⟨1, 8, bareBatch 8⟩ rfl
    exact ⟨hoffset, hblock⟩

end OracleIndexer.Session
