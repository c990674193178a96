import Mathlib.Data.List.Basic
import OracleIndexer.Broker.Session
import OracleIndexer.Proofs.Outcome
set_option autoImplicit false

/-!
# The log of a broker

What steps do to the log: it only grows, and a batch stands at the position that is its offset.  The
cursor of an indexer splits the log into the batches that are done and those that are pending.
-/

namespace OracleIndexer

namespace Broker

/-- Each batch stands at the position that is its offset. -/
def Dense (broker : Broker) : Prop :=
  ∀ (n : Nat) (message : Message), broker.log[n]? = some message → message.offset = n

/-- The batches up to the cursor of an indexer. -/
def done (broker : Broker) (indexer : String) : List Message :=
  broker.log.take (broker.resumption indexer)

/-- The batches after the cursor of an indexer. -/
def pending (broker : Broker) (indexer : String) : List Message :=
  broker.log.drop (broker.resumption indexer)

theorem dense_empty : Dense empty := by
  intro n message h
  simp [empty] at h

/-- A log is dense exactly if its offsets count up from zero. -/
theorem dense_iff_map_offset {broker : Broker} :
    broker.Dense ↔ broker.log.map Message.offset = List.range broker.log.length := by
  constructor
  · intro hdense
    apply List.ext_getElem
    · simp
    · intro n hn _
      have hlog : n < broker.log.length := by simpa using hn
      simpa using hdense n broker.log[n] (List.getElem?_eq_getElem hlog)
  · intro hmap n message hmessage
    obtain ⟨hn, _⟩ := List.getElem?_eq_some_iff.mp hmessage
    have hget : (broker.log.map Message.offset)[n]? = (List.range broker.log.length)[n]? := by
      rw [hmap]
    rw [List.getElem?_map, hmessage, List.getElem?_range hn] at hget
    exact Option.some.inj hget

/-- In a dense log a batch is found at its offset. -/
theorem Dense.getElem?_offset {broker : Broker} (hdense : broker.Dense) {message : Message}
    (hmem : message ∈ broker.log) : broker.log[message.offset]? = some message := by
  obtain ⟨n, hn⟩ := List.mem_iff_getElem?.mp hmem
  rw [hdense n message hn]
  exact hn

/-! ## Cursors -/

/-- A cursor stands before the first batch or on a batch of the log. -/
def InLog (broker : Broker) (indexer : String) : Prop :=
  -1 ≤ broker.cursor indexer ∧ broker.cursor indexer < broker.log.length

/-- No cursor stands before -1, so an indexer resumes right behind its cursor. -/
theorem resumption_eq {broker : Broker} {indexer : String} (h : -1 ≤ broker.cursor indexer) :
    (broker.resumption indexer : Int) = broker.cursor indexer + 1 := by
  simp only [resumption]
  omega

theorem InLog.resumption_eq {broker : Broker} {indexer : String} (h : broker.InLog indexer) :
    (broker.resumption indexer : Int) = broker.cursor indexer + 1 :=
  Broker.resumption_eq h.1

theorem InLog.resumption_le {broker : Broker} {indexer : String} (h : broker.InLog indexer) :
    broker.resumption indexer ≤ broker.log.length := by
  have heq := h.resumption_eq
  obtain ⟨_, hhigh⟩ := h
  omega

/-- An indexer resumes by its cursor alone. -/
theorem resumption_of_cursor_eq {broker next : Broker} {indexer : String}
    (h : next.cursor indexer = broker.cursor indexer) :
    next.resumption indexer = broker.resumption indexer := by
  rw [resumption, h, resumption]

theorem cursor_le_commit (broker : Broker) (indexer : String) (offset : Int) (name : String) :
    broker.cursor name ≤ (broker.commit indexer offset).cursor name := by
  simp only [commit]
  split <;> omega

/-- An acknowledgement moves the place of resumption behind its offset, unless it is there. -/
theorem resumption_commit_self (broker : Broker) (indexer : String) (offset : Nat) :
    (broker.commit indexer offset).resumption indexer
      = max (broker.resumption indexer) (offset + 1) := by
  simp only [resumption, cursor_commit_self]
  omega

theorem resumption_commit_of_ne (broker : Broker) {indexer other : String} (offset : Int)
    (h : other ≠ indexer) :
    (broker.commit indexer offset).resumption other = broker.resumption other :=
  resumption_of_cursor_eq (cursor_commit_of_ne broker offset h)

/-- No block is acknowledged while the cursor stands before the first batch. -/
theorem acknowledged_of_neg {broker : Broker} {indexer : String}
    (h : broker.cursor indexer < 0) : broker.acknowledged indexer = .ok none := by
  obtain ⟨n, hn⟩ := Int.eq_negSucc_of_lt_zero h
  simp [acknowledged, hn]

/-- A cursor on a batch names the block of that batch. -/
theorem acknowledged_of_getElem? {broker : Broker} {indexer : String} {n : Nat}
    {message : Message} (hcursor : broker.cursor indexer = n)
    (hmessage : broker.log[n]? = some message) :
    broker.acknowledged indexer = .ok (some message.block) := by
  have hnat : broker.cursor indexer = Int.ofNat n := hcursor
  simp [acknowledged, hnat, hmessage]

/-- The pending batches follow the cursor without a gap. -/
theorem Dense.offset_pending {broker : Broker} (hdense : broker.Dense) {indexer : String}
    (hcursor : broker.InLog indexer) {k : Nat} {message : Message}
    (h : (broker.pending indexer)[k]? = some message) :
    (message.offset : Int) = broker.cursor indexer + 1 + k := by
  rw [pending, List.getElem?_drop] at h
  have hoffset := hdense _ message h
  have heq := hcursor.resumption_eq
  omega

/-! ## Publishing -/

/-- A batch that can be copied is kept as it is. -/
theorem eq_of_copyOf {batch copy : Json} (h : copyOf batch = .ok copy) : copy = batch := by
  unfold copyOf at h
  split at h
  · contradiction
  · exact (Except.ok.inj h).symm

/-- A publication adds one batch at the end of the log, and leaves the cursors alone. -/
theorem publish_eq_ok_iff {broker next : Broker} {batch : Json} {offset : Nat} :
    broker.publish batch = .ok (offset, next) ↔
      ∃ block, blockOf broker.log.length batch = .ok block ∧ copyOf batch = .ok batch ∧
        offset = broker.log.length ∧
        next = { broker with log := broker.log ++ [⟨broker.log.length, block, batch⟩] } := by
  unfold publish
  simp only [Outcome.bind_eq_ok_iff, Outcome.pure_eq_ok, Except.ok.injEq, Prod.mk.injEq]
  constructor
  · rintro ⟨block, hblock, copy, hcopy, rfl, rfl⟩
    obtain rfl := eq_of_copyOf hcopy
    exact ⟨block, hblock, hcopy, rfl, rfl⟩
  · rintro ⟨block, hblock, hcopy, rfl, rfl⟩
    exact ⟨block, hblock, batch, hcopy, rfl, rfl⟩

theorem Dense.publish {broker next : Broker} {batch : Json} {offset : Nat}
    (hdense : broker.Dense) (h : broker.publish batch = .ok (offset, next)) : next.Dense := by
  obtain ⟨block, _, _, _, rfl⟩ := publish_eq_ok_iff.mp h
  rw [dense_iff_map_offset] at hdense ⊢
  simp [hdense, List.range_succ]

/-- The broker has read the block of each batch that it took. -/
def Checked (broker : Broker) : Prop :=
  ∀ message ∈ broker.log, blockOf message.offset message.batch = .ok message.block

theorem Checked.publish {broker next : Broker} {batch : Json} {offset : Nat}
    (h : broker.Checked) (hpublish : broker.publish batch = .ok (offset, next)) :
    next.Checked := by
  obtain ⟨block, hblock, _, _, rfl⟩ := publish_eq_ok_iff.mp hpublish
  intro message hmessage
  rcases List.mem_append.mp hmessage with hold | hnew
  · exact h message hold
  · rw [List.mem_singleton.mp hnew]
    exact hblock

/-- What holds of a broker and is kept by each publication holds after a list of them. -/
theorem produce_induction {motive : Broker → Prop} {broker : Broker} {count : Nat}
    {batches : List Json} (start : motive broker)
    (publish : ∀ {earlier later : Broker} {batch : Json} {offset : Nat},
      motive earlier → earlier.publish batch = .ok (offset, later) → motive later) :
    motive (broker.produce count batches).1 := by
  induction batches generalizing broker count with
  | nil => exact start
  | cons batch rest ih =>
    unfold produce
    cases hpublish : broker.publish batch with
    | error fault => exact start
    | ok published => exact ih (publish start hpublish)

end Broker

/-! ## Examples -/

/-- A batch of a block without events. -/
def bareBatch (block : Int) : Json :=
  .object [("header", .object [("blockNumber", .int block)])]

/-- Settings for one network with the same contract in every role. -/
def plainSettings : Settings where
  network := "net"
  skipFailed := false
  sizeTable := .assetClassGated
  countRadix := .decimal
  deployments := [("net", ⟨fun _ => some "0xC0"⟩)]

end OracleIndexer
