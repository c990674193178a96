import OracleIndexer.Proofs.Broker.Account
set_option autoImplicit false

/-!
# Steps and runs

What a step of a session can do to the broker: it publishes batches and it moves cursors, and no
other way leads from one broker to the next.  A property that both keep therefore holds after every
step, and after every run.
-/

namespace OracleIndexer.Session

/-- Whether a step acknowledges batches for an indexer. -/
def Step.Acknowledges (name : String) : Step → Prop
  | .commit indexer _ => indexer = name
  | .consume indexer .. => indexer.name = name
  | _ => False

instance (name : String) (step : Step) : Decidable (step.Acknowledges name) :=
  match step with
  | .commit indexer _ => inferInstanceAs (Decidable (indexer = name))
  | .consume indexer .. => inferInstanceAs (Decidable (indexer.name = name))
  | .publish _ | .produce _ | .offset _ | .acknowledged _ | .next .. =>
    inferInstanceAs (Decidable False)

/-- Whether a step asks the subscription with a name. -/
def Step.Asks (name : String) : Step → Prop
  | .next asked _ => asked = name
  | _ => False

instance (name : String) (step : Step) : Decidable (step.Asks name) :=
  match step with
  | .next asked _ => inferInstanceAs (Decidable (asked = name))
  | .publish _ | .produce _ | .commit .. | .offset _ | .acknowledged _ | .consume .. =>
    inferInstanceAs (Decidable False)

/-- A subscription delivers the batch that it stands before, and moves past it. -/
theorem ask_of_some {session : Session} {name indexer : String} {message : Message}
    (h : session.broker.log[(session.subscription name indexer).next]? = some message) :
    session.ask name indexer =
      (session.keep name
        { session.subscription name indexer with
          next := (session.subscription name indexer).next + 1 },
        .message message) := by
  simp [ask, Subscription.deliver, h]

/-- A subscription that stands behind the last batch waits there. -/
theorem ask_of_none {session : Session} {name indexer : String}
    (h : session.broker.log[(session.subscription name indexer).next]? = none) :
    session.ask name indexer
      = (session.keep name (session.subscription name indexer), .idle) := by
  simp [ask, Subscription.deliver, h]

@[simp] theorem broker_ask (session : Session) (name indexer : String) :
    (session.ask name indexer).1.broker = session.broker := by
  cases h : session.broker.log[(session.subscription name indexer).next]? with
  | none => rw [ask_of_none h]; rfl
  | some message => rw [ask_of_some h]; rfl

@[simp] theorem take_consume (session : Session) (indexer : Indexer) (settings : Settings)
    (limit : Option Int) (refuses : Consumption.Refusals) :
    session.take (.consume indexer settings limit refuses) =
      ({ session with
          broker :=
            (Consumption.ofBroker session.broker indexer settings limit refuses).broker },
        .consumption (Consumption.ofBroker session.broker indexer settings limit refuses)) := rfl

/-! ## One step -/

/-- What publications and the acknowledgements of a step keep holds after the step. -/
theorem broker_take_induction {motive : Broker → Prop} {session : Session} {step : Step}
    (start : motive session.broker)
    (publish : ∀ {earlier later : Broker} {batch : Json} {offset : Nat},
      motive earlier → earlier.publish batch = .ok (offset, later) → motive later)
    (commit : ∀ {broker : Broker} {name : String} {offset : Int},
      step.Acknowledges name → motive broker → motive (broker.commit name offset)) :
    motive (session.take step).1.broker := by
  cases step with
  | publish batch =>
    cases hpublish : session.broker.publish batch with
    | error fault => simpa [take, hpublish] using start
    | ok published => simpa [take, hpublish] using publish start hpublish
  | produce batches =>
    have hproduced : motive (session.broker.produce 0 batches).1 :=
      Broker.produce_induction start publish
    cases hcount : (session.broker.produce 0 batches).2 with
    | error fault => simpa [take, hcount] using hproduced
    | ok count => simpa [take, hcount] using hproduced
  | commit name offset => exact commit rfl start
  | offset name => exact start
  | acknowledged name =>
    cases hblock : session.broker.acknowledged name with
    | error fault => simpa [take, hblock] using start
    | ok block => simpa [take, hblock] using start
  | next name indexer => simpa [take] using start
  | consume indexer settings limit refuses =>
    have hall : ∀ (broker : Broker) (messages : List Message), motive broker →
        motive (Consumption.commitAll broker indexer.name messages) := by
      intro broker messages
      induction messages generalizing broker with
      | nil => exact id
      | cons message rest ih => exact fun hbroker => ih _ (commit rfl hbroker)
    rw [take_consume, (Consumption.account_ofBroker ..).broker]
    exact hall session.broker _ start

/-- A step that asks no subscription leaves all of them alone. -/
theorem subscriptions_take {session : Session} {step : Step} (h : ∀ name, ¬ step.Asks name) :
    (session.take step).1.subscriptions = session.subscriptions := by
  cases step with
  | publish batch => cases hpublish : session.broker.publish batch <;> simp [take, hpublish]
  | produce batches =>
    cases hcount : (session.broker.produce 0 batches).2 <;> simp [take, hcount]
  | acknowledged indexer =>
    cases hblock : session.broker.acknowledged indexer <;> simp [take, hblock]
  | next name indexer => exact absurd rfl (h name)
  | _ => rfl

/-- The log only grows. -/
theorem log_prefix_take (session : Session) (step : Step) :
    session.broker.log <+: (session.take step).1.broker.log := by
  apply broker_take_induction (motive := fun broker => session.broker.log <+: broker.log)
  · exact List.prefix_refl _
  · intro earlier later batch offset hprefix hpublish
    obtain ⟨block, _, _, _, rfl⟩ := Broker.publish_eq_ok_iff.mp hpublish
    exact hprefix.trans (List.prefix_append _ _)
  · intro broker name offset _ hprefix
    exact hprefix

theorem dense_take {session : Session} (step : Step) (hdense : session.broker.Dense) :
    (session.take step).1.broker.Dense := by
  apply broker_take_induction (motive := Broker.Dense) hdense
  · intro earlier later batch offset hearlier hpublish
    exact hearlier.publish hpublish
  · intro broker name offset _ hbroker
    exact hbroker

/-- A step that does not acknowledge batches for an indexer leaves its cursor alone. -/
theorem cursor_take {session : Session} {step : Step} {name : String}
    (h : ¬ step.Acknowledges name) :
    (session.take step).1.broker.cursor name = session.broker.cursor name := by
  apply broker_take_induction
    (motive := fun broker => broker.cursor name = session.broker.cursor name)
  · rfl
  · intro earlier later batch offset hearlier hpublish
    obtain ⟨block, _, _, _, rfl⟩ := Broker.publish_eq_ok_iff.mp hpublish
    exact hearlier
  · intro broker other offset hother hbroker
    have hne : name ≠ other := fun heq => h (heq ▸ hother)
    rw [Broker.cursor_commit_of_ne broker offset hne, hbroker]

/-- A cursor never falls back. -/
theorem cursor_le_take (session : Session) (step : Step) (name : String) :
    session.broker.cursor name ≤ (session.take step).1.broker.cursor name := by
  apply broker_take_induction
    (motive := fun broker => session.broker.cursor name ≤ broker.cursor name)
  · exact Int.le_refl _
  · intro earlier later batch offset hearlier hpublish
    obtain ⟨block, _, _, _, rfl⟩ := Broker.publish_eq_ok_iff.mp hpublish
    exact hearlier
  · intro broker other offset _ hbroker
    exact Int.le_trans hbroker (Broker.cursor_le_commit broker other offset name)

/-! ## Runs -/

/-- What each step of a run keeps holds after the run. -/
theorem after_induction {motive : Session → Prop} {session : Session} {steps : List Step}
    (start : motive session)
    (take : ∀ {earlier : Session} {step : Step}, step ∈ steps → motive earlier →
      motive (earlier.take step).1) :
    motive (session.after steps) := by
  induction steps generalizing session with
  | nil => exact start
  | cons step rest ih =>
    exact ih (take List.mem_cons_self start) fun hmem => take (List.mem_cons_of_mem step hmem)

theorem after_append (session : Session) (steps more : List Step) :
    session.after (steps ++ more) = (session.after steps).after more := by
  induction steps generalizing session with
  | nil => rfl
  | cons step rest ih => exact ih _

theorem log_prefix_after (session : Session) (steps : List Step) :
    session.broker.log <+: (session.after steps).broker.log := by
  apply after_induction (motive := fun later => session.broker.log <+: later.broker.log)
  · exact List.prefix_refl _
  · intro earlier step _ hprefix
    exact hprefix.trans (log_prefix_take earlier step)

/-- A batch in the log stays where it is. -/
theorem getElem?_log_after {session : Session} {n : Nat} {message : Message}
    (h : session.broker.log[n]? = some message) (steps : List Step) :
    (session.after steps).broker.log[n]? = some message := by
  obtain ⟨hn, rfl⟩ := List.getElem?_eq_some_iff.mp h
  exact List.prefix_iff_getElem?.mp (log_prefix_after session steps) n hn

theorem dense_after {session : Session} (steps : List Step) (hdense : session.broker.Dense) :
    (session.after steps).broker.Dense := by
  apply after_induction (motive := fun later => later.broker.Dense) hdense
  intro earlier step _ hearlier
  exact dense_take step hearlier

theorem checked_after (steps : List Step) : (start.after steps).broker.Checked := by
  apply after_induction (motive := fun session => session.broker.Checked)
  · intro message hmessage
    exact absurd hmessage List.not_mem_nil
  · intro earlier step _ hearlier
    apply broker_take_induction (motive := Broker.Checked) hearlier
    · intro before later batch offset hbefore hpublish
      exact hbefore.publish hpublish
    · intro broker name offset _ hbroker
      exact hbroker

theorem cursor_after {session : Session} {steps : List Step} {name : String}
    (h : ∀ step ∈ steps, ¬ step.Acknowledges name) :
    (session.after steps).broker.cursor name = session.broker.cursor name := by
  apply after_induction
    (motive := fun later => later.broker.cursor name = session.broker.cursor name) rfl
  intro earlier step hmem hearlier
  rw [cursor_take (h step hmem), hearlier]

theorem cursor_le_after (session : Session) (steps : List Step) (name : String) :
    session.broker.cursor name ≤ (session.after steps).broker.cursor name := by
  apply after_induction
    (motive := fun later => session.broker.cursor name ≤ later.broker.cursor name)
  · exact Int.le_refl _
  · intro earlier step _ hearlier
    exact Int.le_trans hearlier (cursor_le_take earlier step name)

theorem neg_one_le_cursor_after (steps : List Step) (name : String) :
    -1 ≤ (start.after steps).broker.cursor name :=
  cursor_le_after start steps name

/-- After a run the cursor of an indexer has reached every offset committed for it. -/
theorem offset_le_cursor_after {session : Session} {steps : List Step} {name : String}
    {offset : Int} (h : Step.commit name offset ∈ steps) :
    offset ≤ (session.after steps).broker.cursor name := by
  induction steps generalizing session with
  | nil => simp at h
  | cons step rest ih =>
    rcases List.mem_cons.mp h with rfl | hrest
    · have hcommit : offset ≤ (session.take (.commit name offset)).1.broker.cursor name := by
        simp only [take, Broker.cursor_commit_self]
        omega
      exact Int.le_trans hcommit (cursor_le_after _ rest name)
    · exact ih hrest

end OracleIndexer.Session
