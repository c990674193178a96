import Mathlib.Data.List.Forall2
import OracleIndexer.Proofs.Broker.Steps
set_option autoImplicit false

/-!
# Indexers do not disturb each other

Several indexers share the log, and nothing else.  What a run tells one of them is the same when the
steps of all others are left out: an indexer sees the log, its own cursor and its own subscriptions,
and no step of another indexer changes any of these.
-/

namespace OracleIndexer

/-! ## Brokers that look the same to an indexer -/

/-- Brokers with the same batches and the same cursor of an indexer. -/
structure Broker.SameFor (indexer : String) (a b : Broker) : Prop where
  log : b.log = a.log
  cursor : b.cursor indexer = a.cursor indexer

namespace Broker.SameFor

variable {indexer : String} {a b : Broker}

theorem commit (h : SameFor indexer a b) (name : String) (offset : Int) :
    SameFor indexer (a.commit name offset) (b.commit name offset) where
  log := h.log
  cursor := by
    by_cases heq : indexer = name
    · subst heq
      rw [cursor_commit_self, cursor_commit_self, h.cursor]
    · rw [cursor_commit_of_ne b offset heq, cursor_commit_of_ne a offset heq, h.cursor]

/-- An acknowledgement of another indexer is not seen. -/
theorem commit_left (h : SameFor indexer a b) {name : String} (offset : Int)
    (hne : name ≠ indexer) : SameFor indexer (a.commit name offset) b where
  log := h.log
  cursor := by rw [cursor_commit_of_ne a offset hne.symm, h.cursor]

/-- A publication is refused by both or gets the same offset in both. -/
theorem publish (h : SameFor indexer a b) (batch : Json) :
    (∃ fault, a.publish batch = .error fault ∧ b.publish batch = .error fault) ∨
      ∃ offset a' b', a.publish batch = .ok (offset, a') ∧ b.publish batch = .ok (offset, b') ∧
        SameFor indexer a' b' := by
  cases hpublish : a.publish batch with
  | error fault =>
    refine .inl ⟨fault, rfl, ?_⟩
    rw [Broker.publish] at hpublish ⊢
    rw [h.log]
    cases hblock : blockOf a.log.length batch with
    | error reason => simpa [hblock] using hpublish
    | ok block =>
      cases hcopy : copyOf batch with
      | error reason => simpa [hblock, hcopy] using hpublish
      | ok copy => simp [hblock, hcopy] at hpublish
  | ok published =>
    obtain ⟨offset, a'⟩ := published
    obtain ⟨block, hblock, hcopy, rfl, rfl⟩ := publish_eq_ok_iff.mp hpublish
    rw [← h.log] at hblock
    refine .inr ⟨_, _, _, rfl,
      publish_eq_ok_iff.mpr ⟨block, hblock, hcopy, by rw [h.log], rfl⟩, ?_⟩
    exact ⟨by simp [h.log], h.cursor⟩

theorem produce (h : SameFor indexer a b) (count : Nat) (batches : List Json) :
    (b.produce count batches).2 = (a.produce count batches).2 ∧
      SameFor indexer (a.produce count batches).1 (b.produce count batches).1 := by
  induction batches generalizing a b count with
  | nil => exact ⟨rfl, h⟩
  | cons batch rest ih =>
    rw [Broker.produce, Broker.produce]
    rcases h.publish batch with ⟨fault, ha, hb⟩ | ⟨offset, a', b', ha, hb, hnext⟩
    · rw [ha, hb]
      exact ⟨rfl, h⟩
    · rw [ha, hb]
      exact ih hnext (count + 1)

theorem resumption (h : SameFor indexer a b) : b.resumption indexer = a.resumption indexer :=
  resumption_of_cursor_eq h.cursor

theorem acknowledged (h : SameFor indexer a b) :
    b.acknowledged indexer = a.acknowledged indexer := by
  rw [Broker.acknowledged, Broker.acknowledged, h.cursor, h.log]

end Broker.SameFor

/-! ## Consumptions that look the same -/

namespace Consumption

/-- Consumptions that differ at most in what the brokers after them hold for other indexers. -/
structure SameFor (indexer : String) (c d : Consumption) : Prop where
  broker : c.broker.SameFor indexer d.broker
  kept : d.kept = c.kept
  refused : d.refused = c.refused
  notes : d.notes = c.notes
  processed : d.processed = c.processed
  ending : d.ending = c.ending

/-- A consumption looks at the broker only to acknowledge what it has worked off. -/
theorem sameFor_ofMessages {name : String} {a b : Broker} (h : a.SameFor name b)
    (indexer : Indexer) (settings : Settings) (limit : Option Int) (refuses : Refusals)
    (before : Nat) (messages : List Message) :
    SameFor name (ofMessages indexer settings limit refuses a before messages)
      (ofMessages indexer settings limit refuses b before messages) := by
  induction messages generalizing a b before with
  | nil => exact ⟨h, rfl, rfl, rfl, rfl, rfl⟩
  | cons message rest ih =>
    cases hresult : (indexer.runBatch message.batch settings).result with
    | error fault =>
      rw [ofMessages_cons_of_error hresult, ofMessages_cons_of_error hresult]
      exact ⟨h, rfl, rfl, rfl, rfl, rfl⟩
    | ok outputs =>
      have htransforms : indexer.Transforms settings message outputs := hresult
      cases hsink : refuses (before + 1) outputs with
      | some fault =>
        rw [ofMessages_cons_of_refused htransforms hsink,
          ofMessages_cons_of_refused htransforms hsink]
        exact ⟨h, rfl, rfl, rfl, rfl, rfl⟩
      | none =>
        have hcommit := h.commit indexer.name message.offset
        by_cases hlimit : Reached limit (before + 1)
        · rw [ofMessages_cons_of_enough htransforms hsink hlimit,
            ofMessages_cons_of_enough htransforms hsink hlimit]
          exact ⟨hcommit, rfl, rfl, rfl, rfl, rfl⟩
        · rw [ofMessages_cons_of_more htransforms hsink hlimit,
            ofMessages_cons_of_more htransforms hsink hlimit]
          obtain ⟨hbroker, hkept, hrefused, hnotes, hprocessed, hending⟩ := ih hcommit (before + 1)
          exact ⟨hbroker, congrArg (outputs :: ·) hkept, hrefused,
            congrArg (notesOf indexer settings message outputs.length ++ ·) hnotes, hprocessed,
            hending⟩

theorem sameFor_ofBroker {indexer : Indexer} {a b : Broker} (h : a.SameFor indexer.name b)
    (settings : Settings) (limit : Option Int) (refuses : Refusals) :
    SameFor indexer.name (ofBroker a indexer settings limit refuses)
      (ofBroker b indexer settings limit refuses) := by
  have hstart := sameFor_ofMessages h indexer settings limit refuses 0
  rw [ofBroker, ofBroker, h.log, h.resumption]
  exact hstart _

end Consumption

namespace Session

/-! ## The steps of an indexer -/

/-- The indexer that a step is taken for, if it is taken for one.  A request to a subscription is
taken for the indexer that the subscription was opened for. -/
def ownerOf (session : Session) : Step → Option String
  | .publish _ | .produce _ => none
  | .commit indexer _ | .offset indexer | .acknowledged indexer => some indexer
  | .next name indexer => some (session.subscription name indexer).indexer
  | .consume indexer .. => some indexer.name

/-- A step that is not taken for another indexer. -/
def Concerns (session : Session) (indexer : String) (step : Step) : Prop :=
  session.ownerOf step = none ∨ session.ownerOf step = some indexer

instance (session : Session) (indexer : String) (step : Step) :
    Decidable (session.Concerns indexer step) := inferInstanceAs (Decidable (_ ∨ _))

/-- A step that reads a cursor and does nothing else. -/
def Step.OnlyReads : Step → Prop
  | .offset _ | .acknowledged _ => True
  | _ => False

instance (step : Step) : Decidable step.OnlyReads :=
  match step with
  | .offset _ | .acknowledged _ => inferInstanceAs (Decidable True)
  | .publish _ | .produce _ | .commit .. | .next .. | .consume .. =>
    inferInstanceAs (Decidable False)

/-- A run without the acknowledgements, the consumptions and the requests to subscriptions that are
taken for other indexers. -/
def withoutOthers (session : Session) (indexer : String) : List Step → List Step
  | [] => []
  | step :: rest =>
    if session.Concerns indexer step ∨ step.OnlyReads then
      step :: (session.take step).1.withoutOthers indexer rest
    else (session.take step).1.withoutOthers indexer rest

/-- What a run tells an indexer: the steps that are not taken for another one, with their
answers. -/
def told (session : Session) (indexer : String) : List Step → List (Step × Answer)
  | [] => []
  | step :: rest =>
    if session.Concerns indexer step then
      (step, (session.take step).2) :: (session.take step).1.told indexer rest
    else (session.take step).1.told indexer rest

/-- Answers that tell an indexer the same. -/
inductive Answer.SameFor (indexer : String) : Answer → Answer → Prop
  | same (answer : Answer) : SameFor indexer answer answer
  | consumption {c d : Consumption} (same : c.SameFor indexer d) :
    SameFor indexer (.consumption c) (.consumption d)

/-! ## Sessions that look the same to an indexer -/

/-- A session, and one in which only the subscriptions of an indexer are open. -/
structure SameFor (indexer : String) (full own : Session) : Prop where
  broker : full.broker.SameFor indexer own.broker
  subscriptions : ∀ name, own.subscriptions.lookup name
    = (full.subscriptions.lookup name).filter fun s => s.indexer == indexer

namespace SameFor

variable {indexer : String} {full own : Session}

/-- A request of the indexer finds the same subscription. -/
theorem subscription_eq (h : SameFor indexer full own) {name other : String}
    (howner : (full.subscription name other).indexer = indexer) :
    own.subscription name other = full.subscription name other := by
  have hlookup := h.subscriptions name
  unfold Session.subscription at howner ⊢
  cases hopen : full.subscriptions.lookup name with
  | some subscription =>
    rw [hopen, Option.getD_some] at howner
    rw [hlookup, hopen, Option.filter_some_pos (by simpa using howner), Option.getD_some,
      Option.getD_some]
  | none =>
    rw [hopen, Option.getD_none] at howner
    obtain rfl : other = indexer := howner
    rw [hlookup, hopen, Option.filter_none, Option.getD_none, Option.getD_none,
      Subscription.ofBroker, Subscription.ofBroker, h.broker.resumption]

/-- A subscription of the indexer kept in both. -/
theorem keep (h : SameFor indexer full own) (name : String) {kept : Subscription}
    (hkept : kept.indexer = indexer) :
    SameFor indexer (full.keep name kept) (own.keep name kept) where
  broker := h.broker
  subscriptions := by
    intro other
    simp only [Session.keep, List.lookup_cons]
    cases other == name with
    | true => exact (Option.filter_some_pos (by simpa using hkept)).symm
    | false => exact h.subscriptions other

/-- A subscription of another indexer is not seen, under whatever name it is kept, if the one that
had the name before was not seen either. -/
theorem keep_left (h : SameFor indexer full own) {name : String} {kept : Subscription}
    (hkept : kept.indexer ≠ indexer) (hown : own.subscriptions.lookup name = none) :
    SameFor indexer (full.keep name kept) own where
  broker := h.broker
  subscriptions := by
    intro other
    simp only [Session.keep, List.lookup_cons]
    cases hname : other == name with
    | true =>
      obtain rfl : other = name := eq_of_beq hname
      exact hown.trans (Option.filter_some_neg (by simpa using hkept)).symm
    | false => exact h.subscriptions other

/-- A request taken for another indexer is not seen. -/
theorem ask_left (h : SameFor indexer full own) {name other : String}
    (howner : (full.subscription name other).indexer ≠ indexer) :
    SameFor indexer (full.ask name other).1 own := by
  have hown : own.subscriptions.lookup name = none := by
    rw [h.subscriptions name]
    cases hopen : full.subscriptions.lookup name with
    | none => rfl
    | some subscription =>
      rw [Session.subscription, hopen, Option.getD_some] at howner
      exact Option.filter_some_neg (by simpa using howner)
  cases hmessage : full.broker.log[(full.subscription name other).next]? with
  | none =>
    rw [ask_of_none hmessage]
    exact h.keep_left howner hown
  | some message =>
    rw [ask_of_some hmessage]
    exact h.keep_left howner hown

/-- A request taken for the indexer is answered alike. -/
theorem ask (h : SameFor indexer full own) {name other : String}
    (howner : (full.subscription name other).indexer = indexer) :
    SameFor indexer (full.ask name other).1 (own.ask name other).1 ∧
      (own.ask name other).2 = (full.ask name other).2 := by
  have hsame := h.subscription_eq howner
  cases hmessage : full.broker.log[(full.subscription name other).next]? with
  | none =>
    have hown : own.broker.log[(own.subscription name other).next]? = none := by
      rw [hsame, h.broker.log, hmessage]
    rw [ask_of_none hmessage, ask_of_none hown, hsame]
    exact ⟨h.keep name howner, rfl⟩
  | some message =>
    have hown : own.broker.log[(own.subscription name other).next]? = some message := by
      rw [hsame, h.broker.log, hmessage]
    rw [ask_of_some hmessage, ask_of_some hown, hsame]
    exact ⟨h.keep name howner, rfl⟩

/-- A step taken for another indexer is not seen. -/
theorem take_left (h : SameFor indexer full own) {step : Step}
    (hstep : ¬ full.Concerns indexer step) : SameFor indexer (full.take step).1 own := by
  obtain ⟨_, hother⟩ := not_or.mp hstep
  cases step with
  | publish batch => exact absurd (.inl rfl) hstep
  | produce batches => exact absurd (.inl rfl) hstep
  | commit name offset =>
    have hne : name ≠ indexer := fun heq => hother (congrArg some heq)
    exact ⟨h.broker.commit_left offset hne, h.subscriptions⟩
  | offset name => exact h
  | acknowledged name =>
    cases hblock : full.broker.acknowledged name <;> simpa [Session.take, hblock] using h
  | next name other => exact h.ask_left fun heq => hother (congrArg some heq)
  | consume other settings limit refuses =>
    have hne : ¬ (Step.consume other settings limit refuses).Acknowledges indexer :=
      fun heq => hother (congrArg some heq)
    have hcursor : (full.take _).1.broker.cursor indexer = full.broker.cursor indexer :=
      cursor_take hne
    have haccount := Consumption.account_ofBroker full.broker other settings limit refuses
    rw [take_consume] at hcursor ⊢
    exact ⟨⟨h.broker.log.trans haccount.log_eq.symm, h.broker.cursor.trans hcursor.symm⟩,
      h.subscriptions⟩

/-- A step taken for the indexer or for none leads to sessions that look the same, with answers that
tell the same. -/
theorem take (h : SameFor indexer full own) {step : Step} (hstep : full.Concerns indexer step) :
    SameFor indexer (full.take step).1 (own.take step).1 ∧
      Answer.SameFor indexer (full.take step).2 (own.take step).2 := by
  have hown : ∀ {name : String}, full.ownerOf step = some name → name = indexer := by
    intro name howner
    rcases hstep with hnone | hsome
    · rw [howner] at hnone
      contradiction
    · exact Option.some.inj (howner.symm.trans hsome)
  cases step with
  | publish batch =>
    rcases h.broker.publish batch with ⟨fault, ha, hb⟩ | ⟨offset, a, b, ha, hb, hbroker⟩
    · simp only [Session.take, ha, hb]
      exact ⟨h, .same _⟩
    · simp only [Session.take, ha, hb]
      exact ⟨⟨hbroker, h.subscriptions⟩, .same _⟩
  | produce batches =>
    obtain ⟨hcount, hbroker⟩ := h.broker.produce 0 batches
    simp only [Session.take, hcount]
    cases (full.broker.produce 0 batches).2 with
    | ok count => exact ⟨⟨hbroker, h.subscriptions⟩, .same _⟩
    | error fault => exact ⟨⟨hbroker, h.subscriptions⟩, .same _⟩
  | commit name offset => exact ⟨⟨h.broker.commit name offset, h.subscriptions⟩, .same _⟩
  | offset name =>
    obtain rfl := hown rfl
    simp only [Session.take, h.broker.cursor]
    exact ⟨h, .same _⟩
  | acknowledged name =>
    obtain rfl := hown rfl
    simp only [Session.take, h.broker.acknowledged]
    cases full.broker.acknowledged name with
    | ok block => exact ⟨h, .same _⟩
    | error fault => exact ⟨h, .same _⟩
  | next name other =>
    obtain ⟨hsession, hanswer⟩ := h.ask (hown rfl)
    refine ⟨hsession, ?_⟩
    show Answer.SameFor indexer (full.ask name other).2 (own.ask name other).2
    rw [hanswer]
    exact .same _
  | consume other settings limit refuses =>
    obtain rfl := hown rfl
    have hconsumption := Consumption.sameFor_ofBroker h.broker settings limit refuses
    exact ⟨⟨hconsumption.broker, h.subscriptions⟩, .consumption hconsumption⟩

/-- The steps of the indexer are its own in both sessions. -/
theorem concerns_iff (h : SameFor indexer full own) {step : Step}
    (hstep : full.Concerns indexer step) : own.Concerns indexer step := by
  cases step with
  | next name other =>
    rcases hstep with hnone | hsome
    · contradiction
    · have howner : (full.subscription name other).indexer = indexer := Option.some.inj hsome
      refine .inr ?_
      rw [ownerOf, h.subscription_eq howner, howner]
  | _ => exact hstep

end SameFor

/-! ## Runs -/

theorem take_onlyReads {step : Step} (hstep : step.OnlyReads) (session : Session) :
    (session.take step).1 = session := by
  cases step with
  | offset name => rfl
  | acknowledged name =>
    simp only [take]
    cases session.broker.acknowledged name <;> rfl
  | _ => exact hstep.elim

/-- For whom a step that only reads is taken can be told without the session. -/
theorem concerns_onlyReads_iff {step : Step} (hstep : step.OnlyReads) (a b : Session)
    (indexer : String) : a.Concerns indexer step ↔ b.Concerns indexer step := by
  cases step with
  | offset name => exact Iff.rfl
  | acknowledged name => exact Iff.rfl
  | _ => exact hstep.elim

/-- What two runs tell an indexer is the same: the same steps, with answers that tell the same. -/
def ToldAlike (indexer : String) (a b : List (Step × Answer)) : Prop :=
  List.Forall₂ (fun p q => p.1 = q.1 ∧ Answer.SameFor indexer p.2 q.2) a b

/-- Sessions that look the same to an indexer still do after a run, if in one of them the steps of
all others are left out, and both runs tell the indexer the same. -/
theorem SameFor.run {indexer : String} {full own : Session} (h : SameFor indexer full own)
    (steps : List Step) :
    SameFor indexer (full.after steps) (own.after (full.withoutOthers indexer steps)) ∧
      ToldAlike indexer (full.told indexer steps)
        (own.told indexer (full.withoutOthers indexer steps)) := by
  induction steps generalizing full own with
  | nil => exact ⟨h, .nil⟩
  | cons step rest ih =>
    by_cases hconcerns : full.Concerns indexer step
    · -- a step of the indexer, or of none
      obtain ⟨hnext, hanswer⟩ := h.take hconcerns
      obtain ⟨hafter, htold⟩ := ih hnext
      rw [withoutOthers, if_pos (.inl hconcerns), told, if_pos hconcerns, told,
        if_pos (h.concerns_iff hconcerns)]
      exact ⟨hafter, .cons ⟨rfl, hanswer⟩ htold⟩
    · by_cases hreads : step.OnlyReads
      · -- another indexer is told something, in both runs
        have hown : ¬ own.Concerns indexer step := fun hself =>
          hconcerns ((concerns_onlyReads_iff hreads own full indexer).mp hself)
        rw [withoutOthers, if_pos (.inr hreads), told, if_neg hconcerns, told, if_neg hown,
          after, after, take_onlyReads hreads, take_onlyReads hreads]
        exact ih h
      · -- a step that is left out
        have hout : ¬ (full.Concerns indexer step ∨ step.OnlyReads) :=
          not_or.mpr ⟨hconcerns, hreads⟩
        rw [withoutOthers, if_neg hout, told, if_neg hconcerns]
        exact ih (h.take_left hconcerns)

theorem sameFor_start (indexer : String) : SameFor indexer start start where
  broker := ⟨rfl, rfl⟩
  subscriptions := fun _ => rfl

/-- Whatever other indexers do, an indexer is told the same as when it were alone: a run and the run
without the acknowledgements, consumptions and requests of the others answer each of its steps
alike, and leave it with the same log, the same cursor and the same subscriptions. -/
theorem told_withoutOthers (indexer : String) (steps : List Step) :
    SameFor indexer (start.after steps) (start.after (start.withoutOthers indexer steps)) ∧
      ToldAlike indexer (start.told indexer steps)
        (start.told indexer (start.withoutOthers indexer steps)) :=
  (sameFor_start indexer).run steps

/-- The subscription `s` is the other indexer's, since it was opened for it. -/
example : start.withoutOthers "a" [.publish (.object []), .next "s" "b", .commit "b" 0,
    .next "s" "a", .offset "b", .next "t" "a"]
    = [.publish (.object []), .offset "b", .next "t" "a"] := by
  rfl

end Session

end OracleIndexer
