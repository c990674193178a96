import OracleIndexer.Proofs.Broker.Steps
set_option autoImplicit false

/-!
# No batch is missed

Several subscriptions may work for one indexer, each opened at a time of its own.  As long as every
acknowledgement names a batch that one of them has delivered, no batch is passed over: up to the
cursor each has been delivered.  A subscription starts where the cursor stands, and what lies before
has been delivered by others.
-/

namespace OracleIndexer.Session

/-! ## Deliveries -/

/-- The batch that a step delivers, with the indexer whose subscription delivers it. -/
def deliveredBy (session : Session) (step : Step) : List (String × Message) :=
  match step, (session.take step).2 with
  | .next name indexer, .message message =>
    [((session.subscription name indexer).indexer, message)]
  | _, _ => []

/-- The batches that subscriptions deliver in a run, in order, each with its indexer. -/
def delivered (session : Session) : List Step → List (String × Message)
  | [] => []
  | step :: rest => session.deliveredBy step ++ (session.take step).1.delivered rest

/-- A step that acknowledges nothing but what was delivered to the indexer before. -/
def Step.Follows (seen : List (String × Message)) : Step → Prop
  | .commit indexer reached =>
    ∃ message, (indexer, message) ∈ seen ∧ reached = message.offset
  | .consume .. => False
  | _ => True

/-- A run each of whose acknowledgements names a batch delivered before, in the run itself or
earlier. -/
def CommitsDelivered (session : Session) (seen : List (String × Message)) : List Step → Prop
  | [] => True
  | step :: rest =>
    step.Follows seen ∧
      (session.take step).1.CommitsDelivered (seen ++ session.deliveredBy step) rest

/-! ## The invariant -/

/-- All batches before a position have been delivered to an indexer. -/
def Covered (log : List Message) (seen : List (String × Message)) (indexer : String) (n : Nat) :
    Prop :=
  n ≤ log.length ∧ ∀ message ∈ log.take n, (indexer, message) ∈ seen

theorem Covered.mono {log log' : List Message} {seen seen' : List (String × Message)}
    {indexer : String} {n : Nat} (h : Covered log seen indexer n) (hlog : log <+: log')
    (hseen : seen ⊆ seen') : Covered log' seen' indexer n := by
  obtain ⟨hn, hall⟩ := h
  obtain ⟨added, rfl⟩ := hlog
  refine ⟨by rw [List.length_append]; omega, ?_⟩
  rw [List.take_append_of_le_length hn]
  intro message hmem
  exact hseen (hall message hmem)

theorem covered_zero (log : List Message) (seen : List (String × Message)) (indexer : String) :
    Covered log seen indexer 0 := by
  simp [Covered]

/-- The delivery of the batch at a position covers one batch more. -/
theorem Covered.succ {log : List Message} {seen : List (String × Message)} {indexer : String}
    {n : Nat} {message : Message} (h : Covered log seen indexer n)
    (hmessage : log[n]? = some message) :
    Covered log (seen ++ [(indexer, message)]) indexer (n + 1) := by
  obtain ⟨hn, heq⟩ := List.getElem?_eq_some_iff.mp hmessage
  refine ⟨hn, ?_⟩
  rw [List.take_add_one, hmessage]
  intro other hother
  rcases List.mem_append.mp hother with hbefore | hlast
  · exact List.mem_append_left _ (h.2 other hbefore)
  · have hsame : other = message := by simpa using hlast
    simp [hsame]

/-- Nothing is missed: before a delivered batch, before each cursor and before each subscription
all batches have been delivered. -/
structure NoGap (session : Session) (seen : List (String × Message)) : Prop where
  dense : session.broker.Dense
  behind : ∀ indexer message, (indexer, message) ∈ seen →
    Covered session.broker.log seen indexer (message.offset + 1)
  lower : ∀ indexer, -1 ≤ session.broker.cursor indexer
  cursor : ∀ indexer, Covered session.broker.log seen indexer (session.broker.resumption indexer)
  subscription : ∀ name subscription, session.subscriptions.lookup name = some subscription →
    Covered session.broker.log seen subscription.indexer subscription.next

theorem noGap_start : NoGap start [] where
  dense := Broker.dense_empty
  behind := by simp
  lower := by simp [start, Broker.empty]
  cursor := by
    intro indexer
    exact covered_zero _ _ _
  subscription := by simp [start]

/-- What a subscription starts before is covered, whether it is open already or is opened now. -/
theorem NoGap.subscription_covered {session : Session} {seen : List (String × Message)}
    (h : NoGap session seen) (name indexer : String) :
    Covered session.broker.log seen (session.subscription name indexer).indexer
      (session.subscription name indexer).next := by
  unfold Session.subscription
  cases hopen : session.subscriptions.lookup name with
  | some subscription => exact h.subscription name subscription hopen
  | none => exact h.cursor indexer

/-- A step that only publishes or reads keeps the invariant. -/
theorem NoGap.of_frame {session next : Session} {seen : List (String × Message)}
    (h : NoGap session seen) (hdense : next.broker.Dense)
    (hlog : session.broker.log <+: next.broker.log)
    (hcursor : ∀ indexer, next.broker.cursor indexer = session.broker.cursor indexer)
    (hopen : next.subscriptions = session.subscriptions) : NoGap next seen where
  dense := hdense
  behind := fun indexer message hmem =>
    (h.behind indexer message hmem).mono hlog (List.Subset.refl seen)
  lower := by
    intro indexer
    rw [hcursor]
    exact h.lower indexer
  cursor := by
    intro indexer
    rw [Broker.resumption_of_cursor_eq (hcursor indexer)]
    exact (h.cursor indexer).mono hlog (List.Subset.refl seen)
  subscription := by
    intro name subscription hlookup
    rw [hopen] at hlookup
    exact (h.subscription name subscription hlookup).mono hlog (List.Subset.refl seen)

/-- An acknowledgement of a delivered batch covers nothing but what was delivered. -/
theorem NoGap.commit {session : Session} {seen : List (String × Message)}
    (h : NoGap session seen) {indexer : String} {message : Message}
    (hmem : (indexer, message) ∈ seen) :
    NoGap { session with broker := session.broker.commit indexer message.offset } seen where
  dense := h.dense
  behind := h.behind
  lower := fun other => Int.le_trans (h.lower other) (Broker.cursor_le_commit _ _ _ other)
  cursor := by
    intro other
    by_cases heq : other = indexer
    · subst heq
      rw [Broker.resumption_commit_self]
      rcases Nat.le_total (session.broker.resumption other) (message.offset + 1) with hle | hle
      · rw [Nat.max_eq_right hle]
        exact h.behind other message hmem
      · rw [Nat.max_eq_left hle]
        exact h.cursor other
    · rw [Broker.resumption_commit_of_ne _ _ heq]
      exact h.cursor other
  subscription := h.subscription

/-- Whatever is delivered, a subscription kept under a name is covered. -/
theorem NoGap.keep {session : Session} {seen seen' : List (String × Message)}
    (h : NoGap session seen) (hseen : seen ⊆ seen') {name : String} {kept : Subscription}
    (hbehind : ∀ indexer message, (indexer, message) ∈ seen' →
      Covered session.broker.log seen' indexer (message.offset + 1))
    (hkept : Covered session.broker.log seen' kept.indexer kept.next) :
    NoGap (session.keep name kept) seen' where
  dense := h.dense
  behind := hbehind
  lower := h.lower
  cursor := fun indexer => (h.cursor indexer).mono (List.prefix_refl _) hseen
  subscription := by
    intro other subscription hlookup
    simp only [Session.keep, List.lookup_cons] at hlookup
    split at hlookup
    · obtain rfl := Option.some.inj hlookup
      exact hkept
    · exact (h.subscription other subscription hlookup).mono (List.prefix_refl _) hseen

/-- A delivery extends what is covered for the indexer of its subscription. -/
theorem NoGap.next {session : Session} {seen : List (String × Message)}
    (h : NoGap session seen) (name indexer : String) :
    NoGap (session.take (.next name indexer)).1
      (seen ++ session.deliveredBy (.next name indexer)) := by
  have hcovered := h.subscription_covered name indexer
  cases hmessage : session.broker.log[(session.subscription name indexer).next]? with
  | none =>
    have hask := ask_of_none hmessage
    have hnone : session.deliveredBy (.next name indexer) = [] := by
      simp [deliveredBy, Session.take, hask]
    rw [hnone, List.append_nil]
    show NoGap (session.ask name indexer).1 seen
    rw [hask]
    exact h.keep (List.Subset.refl seen) h.behind hcovered
  | some message =>
    have hask := ask_of_some hmessage
    have hone : session.deliveredBy (.next name indexer)
        = [((session.subscription name indexer).indexer, message)] := by
      simp [deliveredBy, Session.take, hask]
    rw [hone]
    show NoGap (session.ask name indexer).1 _
    rw [hask]
    have hsucc := hcovered.succ hmessage
    refine h.keep (List.subset_append_left _ _) ?_ hsucc
    intro other earlier hmem
    rcases List.mem_append.mp hmem with hold | hnew
    · exact (h.behind other earlier hold).mono (List.prefix_refl _)
        (List.subset_append_left _ _)
    · obtain ⟨rfl, rfl⟩ : other = (session.subscription name indexer).indexer ∧
          earlier = message := by simpa using hnew
      rw [h.dense _ _ hmessage]
      exact hsucc

/-- The step lemma. -/
theorem NoGap.take {session : Session} {seen : List (String × Message)}
    (h : NoGap session seen) {step : Step} (hstep : step.Follows seen) :
    NoGap (session.take step).1 (seen ++ session.deliveredBy step) := by
  have hframe : (∀ name, ¬ step.Acknowledges name) → (∀ name, ¬ step.Asks name) →
      session.deliveredBy step = [] →
      NoGap (session.take step).1 (seen ++ session.deliveredBy step) := by
    intro hquiet hsilent hnone
    rw [hnone, List.append_nil]
    exact h.of_frame (dense_take step h.dense) (log_prefix_take session step)
      (fun name => cursor_take (hquiet name)) (subscriptions_take hsilent)
  cases step with
  | publish batch => exact hframe (fun _ => id) (fun _ => id) rfl
  | produce batches => exact hframe (fun _ => id) (fun _ => id) rfl
  | commit indexer reached =>
    obtain ⟨message, hmem, rfl⟩ := hstep
    show NoGap _ (seen ++ [])
    rw [List.append_nil]
    exact h.commit hmem
  | offset indexer => exact hframe (fun _ => id) (fun _ => id) rfl
  | acknowledged indexer => exact hframe (fun _ => id) (fun _ => id) rfl
  | next name indexer => exact h.next name indexer
  | consume indexer settings limit refuses => exact hstep.elim

/-- The run lemma. -/
theorem NoGap.after {session : Session} {seen : List (String × Message)} {steps : List Step}
    (h : NoGap session seen) (hsteps : session.CommitsDelivered seen steps) :
    NoGap (session.after steps) (seen ++ session.delivered steps) := by
  induction steps generalizing session seen with
  | nil => simpa [delivered, Session.after] using h
  | cons step rest ih =>
    obtain ⟨hstep, hrest⟩ := hsteps
    have hafter := ih (h.take hstep) hrest
    rw [List.append_assoc] at hafter
    exact hafter

/-! ## Acknowledged and delivered -/

/-- The acknowledgement of a delivered batch names a position of the log. -/
theorem commit_nonneg {session : Session} {seen : List (String × Message)} {steps : List Step}
    (hsteps : session.CommitsDelivered seen steps) {indexer : String} {reached : Int}
    (hmem : Step.commit indexer reached ∈ steps) : 0 ≤ reached := by
  induction steps generalizing session seen with
  | nil => simp at hmem
  | cons step rest ih =>
    obtain ⟨hstep, hrest⟩ := hsteps
    rcases List.mem_cons.mp hmem with rfl | hlater
    · obtain ⟨message, _, rfl⟩ := hstep
      exact Int.natCast_nonneg _
    · exact ih hrest hlater

/-- In a run without acknowledgements for an indexer no step moves its cursor. -/
theorem not_acknowledges_of_commitsDelivered {session : Session}
    {seen : List (String × Message)} {steps : List Step} {indexer : String}
    (hsteps : session.CommitsDelivered seen steps)
    (hnone : ∀ reached, Step.commit indexer reached ∉ steps) :
    ∀ step ∈ steps, ¬ step.Acknowledges indexer := by
  induction steps generalizing session seen with
  | nil => simp
  | cons step rest ih =>
    obtain ⟨hstep, hrest⟩ := hsteps
    intro later hlater
    rcases List.mem_cons.mp hlater with rfl | hbehind
    · intro hacknowledges
      cases later with
      | commit other reached =>
        obtain rfl : other = indexer := hacknowledges
        exact hnone reached List.mem_cons_self
      | consume other settings limit refuses => exact hstep
      | _ => exact hacknowledges
    · exact ih hrest (fun reached hmem => hnone reached (List.mem_cons_of_mem step hmem)) later
        hbehind

/-- After any run whose acknowledgements name delivered batches, every batch up to the cursor of an
indexer has been delivered by one of its subscriptions.  The block that the indexer acknowledged
last is none exactly if nothing was acknowledged for it, and otherwise that of the batch at its
cursor. -/
theorem delivered_up_to_cursor (steps : List Step) (hsteps : start.CommitsDelivered [] steps)
    (indexer : String) :
    let broker := (start.after steps).broker
    broker.Dense ∧
    (∀ message ∈ broker.log, (message.offset : Int) ≤ broker.cursor indexer →
      (indexer, message) ∈ start.delivered steps) ∧
    ((∀ reached, Step.commit indexer reached ∉ steps) →
      broker.cursor indexer = -1 ∧ broker.acknowledged indexer = .ok none) ∧
    ((∃ reached, Step.commit indexer reached ∈ steps) →
      ∃ message ∈ broker.log, (message.offset : Int) = broker.cursor indexer ∧
        broker.acknowledged indexer = .ok (some message.block)) := by
  intro broker
  have hrun : NoGap (start.after steps) (start.delivered steps) := by
    simpa using noGap_start.after hsteps
  have hcursor : Covered broker.log (start.delivered steps) indexer (broker.resumption indexer) :=
    hrun.cursor indexer
  refine ⟨hrun.dense, ?_, ?_, ?_⟩
  · intro message hmem hle
    apply hcursor.2
    have hposition := Broker.Dense.getElem?_offset hrun.dense hmem
    rw [List.mem_take_iff_getElem]
    obtain ⟨hlt, hget⟩ := List.getElem?_eq_some_iff.mp hposition
    refine ⟨message.offset, ?_, hget⟩
    have hbefore : message.offset < broker.resumption indexer := by
      simp only [Broker.resumption]
      omega
    exact Nat.lt_min.mpr ⟨hbefore, hlt⟩
  · intro hnone
    have hkept : broker.cursor indexer = -1 :=
      cursor_after (not_acknowledges_of_commitsDelivered hsteps hnone)
    exact ⟨hkept, Broker.acknowledged_of_neg (by omega)⟩
  · rintro ⟨reached, hmem⟩
    have hnonneg : 0 ≤ broker.cursor indexer :=
      Int.le_trans (commit_nonneg hsteps hmem) (offset_le_cursor_after hmem)
    obtain ⟨n, hn⟩ := Int.eq_ofNat_of_zero_le hnonneg
    have hlt : n < broker.log.length := by
      have hle := hcursor.1
      simp only [Broker.resumption, hn] at hle
      omega
    have hget : broker.log[n]? = some broker.log[n] := List.getElem?_eq_getElem hlt
    refine ⟨broker.log[n], List.getElem_mem hlt, ?_, ?_⟩
    · rw [hn, hrun.dense n _ hget]
    · exact Broker.acknowledged_of_getElem? hn hget

/-- Two subscriptions of one indexer; the later batch is acknowledged before the earlier one. -/
private def competingRun : List Step :=
  [.publish (bareBatch 7), .next "first" "spot", .publish (bareBatch 8), .next "first" "spot",
    .next "second" "spot", .commit "spot" 1, .commit "spot" 0]

/-- The competing subscriptions deliver all that their indexer acknowledged. -/
theorem delivered_up_to_cursor_competing :
    start.CommitsDelivered [] competingRun ∧
    (start.after competingRun).broker.cursor "spot" = 1 ∧
    (∀ message ∈ (start.after competingRun).broker.log, (message.offset : Int) ≤ 1 →
      ("spot", message) ∈ start.delivered competingRun) ∧
    ∃ message ∈ (start.after competingRun).broker.log, (message.offset : Int) = 1 ∧
      (start.after competingRun).broker.acknowledged "spot" = .ok (some message.block) := by
  have hsteps : start.CommitsDelivered [] competingRun :=
    ⟨trivial, trivial, trivial, trivial, trivial,
      ⟨⟨1, 8, bareBatch 8⟩, .tail _ (.head _), rfl⟩,
      ⟨⟨0, 7, bareBatch 7⟩, .head _, rfl⟩, trivial⟩
  obtain ⟨_, hdelivered, _, hcommitted⟩ := delivered_up_to_cursor competingRun hsteps "spot"
  refine ⟨hsteps, rfl, hdelivered, hcommitted ⟨1, ?_⟩⟩
  simp [competingRun]

end OracleIndexer.Session
