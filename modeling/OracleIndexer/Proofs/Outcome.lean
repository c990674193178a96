import OracleIndexer.Conversion
set_option autoImplicit false

/-!
# Outcomes in steps

How the result of an operation made of steps depends on those of its steps.  A chain of steps gives
a value exactly if each step does, and otherwise the fault of the first step that is refused.
-/

namespace OracleIndexer

namespace Outcome

variable {ε ε' α β : Type}

@[simp] theorem ok_bind (a : α) (f : α → Except ε β) : (Except.ok a >>= f) = f a := rfl

@[simp] theorem error_bind (e : ε) (f : α → Except ε β) :
    (Except.error e >>= f) = .error e := rfl

@[simp] theorem bind_ok (a : α) (f : α → Except ε β) : (Except.ok a).bind f = f a := rfl

@[simp] theorem bind_error (e : ε) (f : α → Except ε β) :
    (Except.error e).bind f = .error e := rfl

@[simp] theorem pure_eq_ok (a : α) : (pure a : Except ε α) = .ok a := rfl

theorem bind_eq_ok_iff {x : Except ε α} {f : α → Except ε β} {b : β} :
    (x >>= f) = .ok b ↔ ∃ a, x = .ok a ∧ f a = .ok b := by
  cases x <;> simp

theorem bind_eq_error_iff {x : Except ε α} {f : α → Except ε β} {e : ε} :
    (x >>= f) = .error e ↔ x = .error e ∨ ∃ a, x = .ok a ∧ f a = .error e := by
  cases x <;> simp

@[simp] theorem mapError_ok (f : ε → ε') (a : α) :
    (Except.ok a : Except ε α).mapError f = .ok a := rfl

@[simp] theorem mapError_error (f : ε → ε') (e : ε) :
    (Except.error e : Except ε α).mapError f = .error (f e) := rfl

@[simp] theorem map_ok (f : α → β) (a : α) : (Except.ok a : Except ε α).map f = .ok (f a) := rfl

@[simp] theorem map_error (f : α → β) (e : ε) :
    (Except.error e : Except ε α).map f = .error e := rfl

theorem mapError_eq_ok_iff {x : Except ε α} {f : ε → ε'} {a : α} :
    x.mapError f = .ok a ↔ x = .ok a := by
  cases x <;> simp

theorem mapError_eq_error_iff {x : Except ε α} {f : ε → ε'} {e' : ε'} :
    x.mapError f = .error e' ↔ ∃ e, x = .error e ∧ f e = e' := by
  cases x <;> simp

theorem map_eq_ok_iff {x : Except ε α} {f : α → β} {b : β} :
    x.map f = .ok b ↔ ∃ a, x = .ok a ∧ f a = b := by
  cases x <;> simp

theorem map_eq_error_iff {x : Except ε α} {f : α → β} {e : ε} :
    x.map f = .error e ↔ x = .error e := by
  cases x <;> simp

/-! ## Classes of faults -/

/-- Any fault of an outcome lies in a class. -/
def Within (P : Fault → Prop) (x : Outcome α) : Prop := ∀ fault, x = .error fault → P fault

namespace Within

variable {P : Fault → Prop}

theorem ok (a : α) : Within P (.ok a : Outcome α) := by
  intro fault h
  contradiction

theorem error {fault : Fault} (h : P fault) : Within P (.error fault : Outcome α) := by
  intro other hother
  obtain rfl := Except.error.inj hother
  exact h

theorem bind {x : Outcome α} {f : α → Outcome β} (hx : Within P x) (hf : ∀ a, Within P (f a)) :
    Within P (x >>= f) := by
  intro fault h
  rcases bind_eq_error_iff.mp h with h | ⟨a, _, h⟩
  · exact hx fault h
  · exact hf a fault h

theorem map {x : Outcome α} (hx : Within P x) (f : α → β) : Within P (x.map f) := by
  intro fault h
  exact hx fault (map_eq_error_iff.mp h)

theorem mapError {x : Except ε α} {f : ε → Fault} (hf : ∀ e, P (f e)) :
    Within P (x.mapError f) := by
  intro fault h
  obtain ⟨e, _, rfl⟩ := mapError_eq_error_iff.mp h
  exact hf e

theorem mono {Q : Fault → Prop} {x : Outcome α} (hx : Within P x) (h : ∀ fault, P fault → Q fault) :
    Within Q x := fun fault hfault => h fault (hx fault hfault)

end Within

/-- Any fault of an outcome concerns one event alone. -/
abbrev Skippable (x : Outcome α) : Prop := Within (fun fault => fault.isSkippable = true) x

/-- Behind a skippable step a document of an unusable kind is one met later. -/
theorem Skippable.bind_eq_wrongKind_iff {x : Outcome α} {f : α → Outcome β} (hx : Skippable x) :
    (x >>= f) = .error .wrongKind ↔ ∃ a, x = .ok a ∧ f a = .error .wrongKind := by
  rw [bind_eq_error_iff]
  constructor
  · rintro (h | h)
    · exact absurd (hx _ h) (by decide)
    · exact h
  · exact .inr

end Outcome

/-! ## Outcomes that agree -/

/-- Faults of one kind: the same fault, or what is raised for instants out of range, whatever felts
tell of them. -/
inductive Fault.SameKind : Fault → Fault → Prop
  | same (fault : Fault) : SameKind fault fault
  | timestampRange (a b : Json) :
    SameKind (raised (.value (.timestampRange a))) (raised (.value (.timestampRange b)))

theorem Fault.SameKind.isSkippable_eq {f g : Fault} (h : SameKind f g) :
    f.isSkippable = g.isSkippable := by
  cases h with
  | same => rfl
  | timestampRange a b => rw [isSkippable_raised rfl, isSkippable_raised rfl]

namespace Outcome

variable {α α' β β' : Type}

/-- Outcomes with related values, or with faults of one kind. -/
inductive Agrees (R : α → α' → Prop) : Outcome α → Outcome α' → Prop
  | ok {a : α} {b : α'} (related : R a b) : Agrees R (.ok a) (.ok b)
  | error {f g : Fault} (kind : f.SameKind g) : Agrees R (.error f) (.error g)

namespace Agrees

theorem refl {R : α → α → Prop} (h : ∀ a, R a a) (x : Outcome α) : Agrees R x x := by
  cases x with
  | ok a => exact .ok (h a)
  | error fault => exact .error (.same fault)

theorem of_eq {x y : Outcome α} (h : x = y) : Agrees Eq x y := by
  rw [h]
  exact refl (fun _ => rfl) y

theorem bind {R : α → α' → Prop} {S : β → β' → Prop} {x : Outcome α} {y : Outcome α'}
    {f : α → Outcome β} {g : α' → Outcome β'} (hx : Agrees R x y)
    (hf : ∀ a b, R a b → Agrees S (f a) (g b)) : Agrees S (x >>= f) (y >>= g) := by
  cases hx with
  | ok related => exact hf _ _ related
  | error kind => exact .error kind

/-- Behind steps that give the same value. -/
theorem bind_eq {S : β → β' → Prop} {x y : Outcome α} {f : α → Outcome β} {g : α → Outcome β'}
    (hx : Agrees Eq x y) (hf : ∀ a, Agrees S (f a) (g a)) : Agrees S (x >>= f) (y >>= g) := by
  refine bind hx ?_
  rintro a _ rfl
  exact hf a

theorem eq_of_ok {a : α} {x : Outcome α} (h : Agrees Eq (.ok a) x) : x = .ok a := by
  cases h with
  | ok related => rw [related]

end Agrees

end Outcome

end OracleIndexer
