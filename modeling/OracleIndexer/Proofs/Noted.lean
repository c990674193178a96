import OracleIndexer.Journal
import OracleIndexer.Proofs.Outcome
set_option autoImplicit false

/-!
# Noted results in steps

The result of work in steps is that of its steps, whatever they note; the skips noted on the way to
a result are those of all steps.  How the steps are grouped does not matter.
-/

namespace OracleIndexer.Noted

variable {α β : Type}

/-! ## How steps are grouped -/

theorem andThen_pure (first : Noted α) : first.andThen pure = first := by
  obtain ⟨notes, result⟩ := first
  cases result with
  | error fault => rfl
  | ok a => simp [andThen]

theorem pure_andThen (a : α) (next : α → Noted β) : (pure a : Noted α).andThen next = next a :=
  rfl

theorem andThen_assoc {γ : Type} (first : Noted α) (next : α → Noted β) (last : β → Noted γ) :
    (first.andThen next).andThen last = first.andThen fun a => (next a).andThen last := by
  obtain ⟨notes, result⟩ := first
  cases result with
  | error fault => rfl
  | ok a =>
    cases h : (next a).result with
    | error fault => simp [andThen, h]
    | ok b => simp [andThen, h]

instance : LawfulMonad Noted := LawfulMonad.mk' Noted andThen_pure pure_andThen andThen_assoc

/-! ## Results and skips of steps -/

theorem result_bind (first : Noted α) (next : α → Noted β) :
    (first >>= next).result = first.result >>= fun a => (next a).result := by
  cases h : first.result with
  | ok a =>
    rw [bind_of_ok h]
    rfl
  | error fault =>
    rw [bind_of_error h]
    rfl

theorem skips_bind_of_ok {first : Noted α} {next : α → Noted β} {a : α}
    (h : first.result = .ok a) : (first >>= next).skips = first.skips ++ (next a).skips := by
  rw [bind_of_ok h]
  exact List.filter_append ..

/-- Work that gives a result has done so at each step, and kept the skips of both. -/
theorem bind_eq_ok {first : Noted α} {next : α → Noted β} {b : β}
    (h : (first >>= next).result = .ok b) :
    ∃ a, first.result = .ok a ∧ (next a).result = .ok b ∧
      (first >>= next).skips = first.skips ++ (next a).skips := by
  rw [result_bind] at h
  obtain ⟨a, hfirst, hnext⟩ := Outcome.bind_eq_ok_iff.mp h
  exact ⟨a, hfirst, hnext, skips_bind_of_ok hfirst⟩

end OracleIndexer.Noted
