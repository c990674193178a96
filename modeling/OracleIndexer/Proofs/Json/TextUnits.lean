import OracleIndexer.Json.Reader
set_option autoImplicit false

/-!
# The units of a text

A text is read unit by unit up to its closing quote.  A unit is spelled by a character that stands
for itself, by an escape of two characters, or by one of six; how it is spelled does not matter to
what follows, and what follows the quote does not matter to the units.
-/

namespace OracleIndexer.Json

/-- How a code unit stands in a text. -/
inductive SpellsUnit : List Char → Nat → Prop
  /-- a character for itself -/
  | plain {c : Char} (printed : 32 ≤ c.toNat) (notQuote : c ≠ '"') (notEscape : c ≠ '\\') :
    SpellsUnit [c] c.toNat
  /-- an escape by a letter or a mark -/
  | short {e : Char} {unit : Nat} (letter : unescape? e = some unit) : SpellsUnit ['\\', e] unit
  /-- an escape by four digits -/
  | long {a b c d : Char} {unit : Nat} (digits : Text.HexWord.value? [a, b, c, d] = some unit) :
    SpellsUnit ['\\', 'u', a, b, c, d] unit

/-- Units in front of those read. -/
def unitsBefore (units : List Nat) (read : List Nat × List Char) : List Nat × List Char :=
  (units ++ read.1, read.2)

theorem ne_u_of_unescape? {e : Char} {unit : Nat} (h : unescape? e = some unit) : e ≠ 'u' := by
  rintro rfl
  cases h

/-- A spelled unit is read in front of whatever follows. -/
theorem textUnits_append_spelled {text : List Char} {unit : Nat} (h : SpellsUnit text unit)
    (rest : List Char) :
    textUnits (text ++ rest) = (textUnits rest).map (unitsBefore [unit]) := by
  cases h with
  | @plain c printed notQuote notEscape =>
    have hprinted : ¬ (c.toNat < 32 ∨ c = '\\') := by
      rintro (hlow | hescape)
      · omega
      · exact notEscape hescape
    rw [List.singleton_append, textUnits.eq_def]
    split
    · rename_i heq
      cases heq
    · rename_i heq
      exact absurd (List.cons.inj heq).1 notQuote
    · rename_i heq
      exact absurd (List.cons.inj heq).1 notEscape
    · rename_i heq
      exact absurd (List.cons.inj heq).1 notEscape
    · rename_i heq
      obtain ⟨rfl, rfl⟩ := List.cons.inj heq
      rw [if_neg hprinted]
      cases textUnits rest <;> rfl
  | @short e unit letter =>
    have hletter := ne_u_of_unescape? letter
    rw [List.cons_append, List.singleton_append, textUnits]
    · rw [letter]
      cases textUnits rest <;> rfl
    · intro a b c d more he
      exact absurd he hletter
  | long digits =>
    simp only [List.cons_append, List.nil_append, textUnits, digits]
    cases textUnits rest <;> rfl

/-- What has been read up to a quote is nothing, or starts with a spelled unit. -/
theorem textUnits_eq_some {input after : List Char} {units : List Nat}
    (h : textUnits input = some (units, after)) :
    (input = '"' :: after ∧ units = []) ∨
      ∃ text unit rest more, SpellsUnit text unit ∧ input = text ++ rest ∧
        units = unit :: more ∧ textUnits rest = some (more, after) := by
  rw [textUnits.eq_def] at h
  split at h
  · cases h
  · obtain ⟨rfl, rfl⟩ := Prod.mk.inj (Option.some.inj h)
    exact .inl ⟨rfl, rfl⟩
  · rename_i a b c d rest
    refine .inr ?_
    split at h
    · cases h
    · rename_i unit hunit
      split at h
      · cases h
      · rename_i more found hrest
        obtain ⟨rfl, rfl⟩ := Prod.mk.inj (Option.some.inj h)
        exact ⟨_, unit, rest, more, .long hunit, rfl, rfl, hrest⟩
  · rename_i e rest _
    refine .inr ?_
    split at h
    · cases h
    · rename_i unit hunit
      split at h
      · cases h
      · rename_i more found hrest
        obtain ⟨rfl, rfl⟩ := Prod.mk.inj (Option.some.inj h)
        exact ⟨_, unit, rest, more, .short hunit, rfl, rfl, hrest⟩
  · rename_i c rest hquote _ _
    refine .inr ?_
    split at h
    · cases h
    · rename_i hprinted
      obtain ⟨hlow, hescape⟩ := not_or.mp hprinted
      split at h
      · cases h
      · rename_i more found hrest
        obtain ⟨rfl, rfl⟩ := Prod.mk.inj (Option.some.inj h)
        exact ⟨_, _, rest, more, .plain (Nat.le_of_not_lt hlow) hquote hescape, rfl, rfl, hrest⟩

/-- What stands behind the closing quote is not looked at. -/
theorem textUnits_append {input after : List Char} {units : List Nat}
    (h : textUnits input = some (units, after)) (more : List Char) :
    textUnits (input ++ more) = some (units, after ++ more) := by
  induction units generalizing input with
  | nil =>
    rcases textUnits_eq_some h with ⟨rfl, _⟩ | ⟨_, _, _, _, _, _, hunits, _⟩
    · rw [List.cons_append, textUnits]
    · cases hunits
  | cons unit others ih =>
    rcases textUnits_eq_some h with ⟨_, hunits⟩ | ⟨text, _, rest, _, hspelled, rfl, hunits, hrest⟩
    · cases hunits
    · obtain ⟨rfl, rfl⟩ := List.cons.inj hunits
      rw [List.append_assoc, textUnits_append_spelled hspelled, ih hrest]
      rfl

/-- At least the closing quote is taken. -/
theorem length_textUnits_lt {input after : List Char} {units : List Nat}
    (h : textUnits input = some (units, after)) : after.length < input.length := by
  induction units generalizing input with
  | nil =>
    rcases textUnits_eq_some h with ⟨rfl, _⟩ | ⟨_, _, _, _, _, _, hunits, _⟩
    · exact Nat.lt_succ_self after.length
    · cases hunits
  | cons unit others ih =>
    rcases textUnits_eq_some h with ⟨_, hunits⟩ | ⟨text, _, rest, _, hspelled, rfl, hunits, hrest⟩
    · cases hunits
    · obtain ⟨rfl, rfl⟩ := List.cons.inj hunits
      have hshorter := ih hrest
      rw [List.length_append]
      omega

end OracleIndexer.Json
