import OracleIndexer.Proofs.Broker.Steps
import OracleIndexer.Proofs.Record.Columns
set_option autoImplicit false

/-!
# The limit of a consumption

A consumption looks at its limit behind each batch.  So it works off exactly as many batches as it
is asked for, if these are published and can be transformed and the sink takes what it is given.
But it never stops before the first batch: a limit of zero counts as one.
-/

namespace OracleIndexer

namespace Consumption

/-- A consumption that ended with its limit: it handed over the outputs that were to be told, call
by call, and moved the cursor by their number. -/
structure WorkedOff (name : String) (broker : Broker) (limit : Nat) (outputs : List (List Output))
    (consumption : Consumption) : Prop where
  ending : consumption.ending = .enough
  processed : consumption.processed = limit
  kept : consumption.kept = outputs
  cursor : consumption.broker.cursor name = broker.cursor name + limit
  log : consumption.broker.log = broker.log

/-- What is noted of messages that are worked off, one after the other. -/
def notesOfAll (indexer : Indexer) (settings : Settings) (messages : List Message)
    (outputs : List (List Output)) : List Note :=
  (List.zipWith (fun message told => notesOf indexer settings message told.length)
    messages outputs).flatten

section

variable {indexer : Indexer} {settings : Settings} {refuses : Refusals}

/-! ## Limits below one -/

/-- Behind the first message a limit below one is reached just as a limit of one is. -/
theorem reached_max_one_iff {limit : Int} {before : Nat} :
    Reached (some (max limit 1)) (before + 1) ↔ Reached (some limit) (before + 1) := by
  simp only [Reached, Option.some.injEq, exists_eq_left']
  omega

/-- A limit below one counts as one. -/
theorem ofMessages_max_one (limit : Int) (broker : Broker) (before : Nat)
    (messages : List Message) :
    ofMessages indexer settings (some (max limit 1)) refuses broker before messages
      = ofMessages indexer settings (some limit) refuses broker before messages := by
  induction messages generalizing broker before with
  | nil => simp only [ofMessages]
  | cons message rest ih =>
    cases hresult : (indexer.runBatch message.batch settings).result with
    | error fault => rw [ofMessages_cons_of_error hresult, ofMessages_cons_of_error hresult]
    | ok outputs =>
      have htransforms : indexer.Transforms settings message outputs := hresult
      cases hsink : refuses (before + 1) outputs with
      | some fault =>
        rw [ofMessages_cons_of_refused htransforms hsink,
          ofMessages_cons_of_refused htransforms hsink]
      | none =>
        by_cases hlimit : Reached (some limit) (before + 1)
        · rw [ofMessages_cons_of_enough htransforms hsink hlimit,
            ofMessages_cons_of_enough htransforms hsink (reached_max_one_iff.mpr hlimit)]
        · rw [ofMessages_cons_of_more htransforms hsink hlimit,
            ofMessages_cons_of_more htransforms hsink (mt reached_max_one_iff.mp hlimit), ih]

theorem ofBroker_zero (broker : Broker) :
    ofBroker broker indexer settings (some 0) refuses
      = ofBroker broker indexer settings (some 1) refuses :=
  (ofMessages_max_one 0 broker 0 _).symm

/-! ## Limits that are reached -/

/-- The run lemma: messages that are transformed and taken by the sink, as many as the limit leaves
to be worked off, are worked off, and nothing behind them is looked at. -/
theorem ofMessages_of_transforms {front : List Message} {outputs : List (List Output)}
    (htransforms : List.Forall₂ (indexer.Transforms settings) front outputs) (hne : front ≠ [])
    (hsink : ∀ call outputs, refuses call outputs = none) (broker : Broker) (before : Nat)
    (rest : List Message) :
    ofMessages indexer settings (some ((before + front.length : Nat) : Int)) refuses broker before
        (front ++ rest)
      = ⟨commitAll broker indexer.name front, outputs, none,
          notesOfAll indexer settings front outputs, before + front.length, .enough⟩ := by
  induction htransforms generalizing broker before with
  | nil => exact absurd rfl hne
  | @cons message told front outputs hfirst hmore ih =>
    cases hmore with
    | nil =>
      have hlimit : Reached (some ((before + [message].length : Nat) : Int)) (before + 1) :=
        ⟨_, rfl, by simp⟩
      rw [List.singleton_append, ofMessages_cons_of_enough hfirst (hsink _ _) hlimit]
      simp [notesOfAll]
    | @cons next more others laters =>
      have hshort : ¬ Reached (some ((before + (message :: next :: others).length : Nat) : Int))
          (before + 1) := by
        simp only [Reached, Option.some.injEq, exists_eq_left', List.length_cons]
        omega
      have hlength : before + (message :: next :: others).length
          = before + 1 + (next :: others).length := by
        simp only [List.length_cons]
        omega
      rw [List.cons_append, ofMessages_cons_of_more hfirst (hsink _ _) hshort, hlength,
        ih (List.cons_ne_nil _ _)]
      simp [notesOfAll]

end

end Consumption

namespace Broker

/-- An indexer with a pending batch has its cursor in the log. -/
theorem inLog_of_pending {broker : Broker} {name : String} (hlow : -1 ≤ broker.cursor name)
    (hpending : broker.pending name ≠ []) : broker.InLog name := by
  refine ⟨hlow, ?_⟩
  rw [pending, ne_eq, List.drop_eq_nil_iff, resumption] at hpending
  omega

/-- The first pending batches follow the cursor without a gap, wherever they are cut off. -/
theorem Dense.offset_take_pending {broker : Broker} (hdense : broker.Dense) {name : String}
    (hlow : -1 ≤ broker.cursor name) {limit k : Nat} {message : Message}
    (h : ((broker.pending name).take limit)[k]? = some message) :
    (message.offset : Int) = broker.cursor name + 1 + k := by
  have hpending : (broker.pending name)[k]? = some message := by
    rw [List.getElem?_take] at h
    split at h
    · exact h
    · contradiction
  have hne : broker.pending name ≠ [] := by
    intro hnil
    simp [hnil] at hpending
  exact hdense.offset_pending (inLog_of_pending hlow hne) hpending

end Broker

namespace Session

/-- After any run, an indexer is asked for a number of batches that are pending and that it can
transform, and the sink takes whatever it is given.  It works off exactly these batches if at least
one is asked for; asked for none it does what it does when asked for one. -/
theorem works_off_limit_iff (steps : List Step) (indexer : Indexer) (settings : Settings)
    {limit : Nat} {outputs : List (List Output)}
    (hpublished : limit ≤ ((start.after steps).broker.pending indexer.name).length)
    (htransforms : List.Forall₂ (indexer.Transforms settings)
      (((start.after steps).broker.pending indexer.name).take limit) outputs) :
    let broker := (start.after steps).broker
    let consumption := fun limit : Nat =>
      Consumption.ofBroker broker indexer settings (some (limit : Int)) fun _ _ => none
    (Consumption.WorkedOff indexer.name broker limit outputs (consumption limit) ↔ limit ≠ 0) ∧
      consumption 0 = consumption 1 := by
  intro broker consumption
  have hzero : consumption 0 = consumption 1 := Consumption.ofBroker_zero broker
  refine ⟨⟨?_, ?_⟩, hzero⟩
  · rintro hworked rfl
    -- a consumption that ends with its limit has worked off a batch, also when none was asked for
    have haccount := Consumption.account_ofBroker broker indexer settings (some 1) fun _ _ => none
    have hending := haccount.ending
    rw [hzero] at hworked
    rw [show (Consumption.ofBroker broker indexer settings (some 1) fun _ _ => none).ending
      = .enough from hworked.ending] at hending
    obtain ⟨most, hmost, hreached⟩ := hending
    obtain rfl := Option.some.inj hmost
    have hnone : (consumption 1).processed = 0 := hworked.processed
    have hone : (1 : Int) ≤ (consumption 1).processed := hreached
    omega
  · intro hpositive
    have hlength : ((broker.pending indexer.name).take limit).length = limit := by
      rw [List.length_take, Nat.min_eq_left hpublished]
    have hne : (broker.pending indexer.name).take limit ≠ [] := by
      rw [← List.length_pos_iff, hlength]
      omega
    have hrun := Consumption.ofMessages_of_transforms htransforms hne (fun _ _ => rfl) broker 0
      ((broker.pending indexer.name).drop limit)
    rw [List.take_append_drop, Nat.zero_add, hlength] at hrun
    have hconsumption : consumption limit = _ := hrun
    have hcursor : (Consumption.commitAll broker indexer.name
        ((broker.pending indexer.name).take limit)).cursor indexer.name
          = broker.cursor indexer.name + limit := by
      rw [Consumption.cursor_commitAll_of_consecutive, hlength]
      intro k message hmessage
      exact (dense_after steps Broker.dense_empty).offset_take_pending
        (neg_one_le_cursor_after steps indexer.name) hmessage
    rw [hconsumption]
    exact ⟨rfl, rfl, rfl, hcursor, Consumption.log_commitAll ..⟩

/-- Four disputes are published, and the first is acknowledged. -/
private def limitedRun : List Step :=
  [.produce [Record.disputeBatch 7 "0xa", Record.disputeBatch 8 "0xb",
      Record.disputeBatch 9 "0xc", Record.disputeBatch 10 "0xd"],
    .commit "oo-requests" 0]

/-- Of three pending batches two are asked for and worked off. -/
theorem works_off_two_of_three :
    2 ≤ ((start.after limitedRun).broker.pending "oo-requests").length ∧
    List.Forall₂ (Indexer.assertionRequests.Transforms plainSettings)
      (((start.after limitedRun).broker.pending "oo-requests").take 2)
      [[Record.disputeOutput "0xb"], [Record.disputeOutput "0xc"]] ∧
    Consumption.WorkedOff "oo-requests" (start.after limitedRun).broker 2
      [[Record.disputeOutput "0xb"], [Record.disputeOutput "0xc"]]
      (Consumption.ofBroker (start.after limitedRun).broker .assertionRequests plainSettings
        (some 2) fun _ _ => none) := by
  have hpublished : 2 ≤ ((start.after limitedRun).broker.pending "oo-requests").length := by
    decide
  have htransforms : List.Forall₂ (Indexer.assertionRequests.Transforms plainSettings)
      (((start.after limitedRun).broker.pending "oo-requests").take 2)
      [[Record.disputeOutput "0xb"], [Record.disputeOutput "0xc"]] := .cons rfl (.cons rfl .nil)
  have hworks := works_off_limit_iff limitedRun .assertionRequests plainSettings hpublished
    htransforms
  exact ⟨hpublished, htransforms, hworks.1.mpr (by decide)⟩

/-- Asked for no batch, an indexer works off the first pending one. -/
theorem works_off_one_of_none :
    let broker := (start.after limitedRun).broker
    let consumption := Consumption.ofBroker broker .assertionRequests plainSettings (some 0)
      fun _ _ => none
    consumption.processed = 1 ∧ consumption.kept = [[Record.disputeOutput "0xb"]] ∧
      consumption.broker.cursor "oo-requests" = broker.cursor "oo-requests" + 1 ∧
      ¬ Consumption.WorkedOff "oo-requests" broker 0 [] consumption := by
  intro broker consumption
  have hprocessed : consumption.processed = 1 := rfl
  refine ⟨hprocessed, rfl, rfl, ?_⟩
  intro hworked
  have hnone := hworked.processed
  omega

end Session

end OracleIndexer
