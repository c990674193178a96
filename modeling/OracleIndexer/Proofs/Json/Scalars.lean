import Mathlib.Data.List.TakeWhile
import OracleIndexer.Proofs.Json.TextUnits
import OracleIndexer.Proofs.Outcome
set_option autoImplicit false

/-!
# Reading scalars

Words, numbers and texts.  A reader that has found the end of one does not look further: more input
behind it changes neither the value nor where it ends.  A number has to be seen to end.  What is
read takes at least a character.  A scalar that is too long or holds half of a pair is refused for
that, whatever stands behind, unless it might be the front of another number.
-/

namespace OracleIndexer.Json

/-! ## Blanks -/

theorem skip_cons_of_not_space {c : Char} (h : isSpace c = false) (rest : List Char) :
    skip (c :: rest) = c :: rest := by
  rw [skip, List.dropWhile_cons_of_neg (by rw [h]; exact Bool.false_ne_true)]

/-- Behind something that is no blank, more input is not skipped. -/
theorem skip_append {text : List Char} (h : skip text ≠ []) (more : List Char) :
    skip (text ++ more) = skip text ++ more := by
  have hkept : ¬ (text.dropWhile isSpace).isEmpty = true := by
    rwa [← skip, List.isEmpty_iff]
  rw [skip, List.dropWhile_append, if_neg hkept, skip]

theorem skip_append_of_cons {text rest : List Char} {c : Char} (h : skip text = c :: rest)
    (more : List Char) : skip (text ++ more) = c :: (rest ++ more) := by
  rw [skip_append (by rw [h]; exact List.cons_ne_nil c rest), h, List.cons_append]

theorem skip_append_of_nil {text : List Char} (h : skip text = []) (more : List Char) :
    skip (text ++ more) = skip more := by
  have hnone : (text.dropWhile isSpace).isEmpty = true := by
    rw [← skip, h, List.isEmpty_nil]
  rw [skip, List.dropWhile_append, if_pos hnone, skip]

theorem length_skip_le (text : List Char) : (skip text).length ≤ text.length :=
  (List.dropWhile_sublist isSpace).length_le

/-- A character that ends a number, as it stands inside an array or an object. -/
def isStop (c : Char) : Bool := isSpace c || c == ',' || c == ']' || c == '}'

/-- Input that starts with the end of a value. -/
def Stops (input : List Char) : Prop := ∃ c rest, input = c :: rest ∧ isStop c = true

/-- Before the mark that ends an item there are at most blanks. -/
theorem stops_of_skip {input rest : List Char} {c : Char} (h : skip input = c :: rest)
    (hc : isStop c = true) : Stops input := by
  cases input with
  | nil => cases h
  | cons first more =>
    refine ⟨first, more, rfl, ?_⟩
    cases hfirst : isSpace first with
    | true => rw [isStop, hfirst]; rfl
    | false =>
      rw [skip_cons_of_not_space hfirst] at h
      rw [(List.cons.inj h).1]
      exact hc

/-! ## Words and numbers -/

theorem word?_append {word input rest : List Char} (h : word? word input = some rest)
    (more : List Char) : word? word (input ++ more) = some (rest ++ more) := by
  induction word generalizing input with
  | nil =>
    rw [← Option.some.inj h]
    rfl
  | cons e expected ih =>
    cases input with
    | nil => cases h
    | cons c rest' =>
      rw [word?] at h
      rw [List.cons_append, word?]
      split at h
      · rename_i hmatch
        rw [if_pos hmatch]
        exact ih h
      · cases h

theorem readWord_eq_ok_iff {word : String} {value found : Json} {input rest : List Char} :
    readWord word value input = .ok (found, rest) ↔
      word? word.toList input = some rest ∧ found = value := by
  unfold readWord
  cases word? word.toList input with
  | none => simp
  | some after => simp [eq_comm, and_comm]

theorem readWord_append {word : String} {value found : Json} {input rest : List Char}
    (h : readWord word value input = .ok (found, rest)) (more : List Char) :
    readWord word value (input ++ more) = .ok (found, rest ++ more) := by
  obtain ⟨hword, rfl⟩ := readWord_eq_ok_iff.mp h
  exact readWord_eq_ok_iff.mpr ⟨word?_append hword more, rfl⟩

/-- A run of digits whose end is seen does not grow. -/
theorem takeDigits_append {input digits rest : List Char} (h : takeDigits input = (digits, rest))
    (hne : rest ≠ []) (more : List Char) :
    takeDigits (input ++ more) = (digits, rest ++ more) := by
  obtain ⟨rfl, rfl⟩ := Prod.mk.inj h
  have hend : ¬ (input.dropWhile Text.isDecimalDigit).isEmpty = true := by
    rwa [List.isEmpty_iff]
  have hlength : ¬ (input.takeWhile Text.isDecimalDigit).length = input.length := by
    intro hall
    have hsplit := congrArg List.length (List.takeWhile_append_dropWhile (p := Text.isDecimalDigit)
      (l := input))
    rw [List.length_append, hall] at hsplit
    exact hne (List.length_eq_zero_iff.mp (by omega))
  rw [takeDigits, List.takeWhile_append, if_neg hlength, List.dropWhile_append, if_neg hend]

/-- Digits that do not start with a zero are taken as a whole part. -/
theorem wholePart_of_digits {input digits rest : List Char} (hzero : input.head? ≠ some '0')
    (h : takeDigits input = (digits, rest)) (hne : digits ≠ []) :
    wholePart input = some (digits, rest) := by
  rw [wholePart.eq_def]
  split
  · exact absurd rfl hzero
  · rw [h]
    split
    · rename_i heq
      exact absurd (Prod.mk.inj heq).1 hne
    · rename_i heq
      rw [← heq]

/-- A whole part is a zero or a run of digits that starts with none. -/
theorem wholePart_eq_some {input digits rest : List Char}
    (h : wholePart input = some (digits, rest)) :
    (input = '0' :: rest ∧ digits = ['0']) ∨
      (input.head? ≠ some '0' ∧ takeDigits input = (digits, rest) ∧ digits ≠ []) := by
  rw [wholePart.eq_def] at h
  split at h
  · obtain ⟨rfl, rfl⟩ := Prod.mk.inj (Option.some.inj h)
    exact .inl ⟨rfl, rfl⟩
  · rename_i hzero
    refine .inr ⟨?_, ?_⟩
    · intro hhead
      obtain ⟨tail, htail⟩ := List.head?_eq_some_iff.mp hhead
      exact hzero tail htail
    · split at h
      · cases h
      · rename_i hne hdigits
        obtain ⟨rfl, rfl⟩ := Prod.mk.inj (Option.some.inj h)
        exact ⟨hdigits, fun hnil => hne hnil⟩

theorem wholePart_append {input digits rest : List Char}
    (h : wholePart input = some (digits, rest)) (hne : rest ≠ []) (more : List Char) :
    wholePart (input ++ more) = some (digits, rest ++ more) := by
  rcases wholePart_eq_some h with ⟨rfl, rfl⟩ | ⟨hzero, hdigits, hsome⟩
  · rfl
  · refine wholePart_of_digits ?_ (takeDigits_append hdigits hne more) hsome
    cases input with
    | nil => exact absurd (Prod.mk.inj hdigits).1.symm hsome
    | cons c tail => exact hzero

/-- Input that starts with no point has no fraction. -/
theorem fractionPart_of_head {c : Char} (h : c ≠ '.') (rest : List Char) :
    fractionPart (c :: rest) = ([], c :: rest) := by
  rw [fractionPart.eq_def]
  split
  · rename_i heq
    exact absurd (List.cons.inj heq).1 h
  · rfl

/-- A point with digits behind it is a fraction. -/
theorem fractionPart_of_digits {input digits rest : List Char}
    (h : takeDigits input = (digits, rest)) (hne : digits ≠ []) :
    fractionPart ('.' :: input) = (digits, rest) := by
  rw [fractionPart, h]
  split
  · rename_i heq
    exact absurd (Prod.mk.inj heq).1 hne
  · rename_i heq
    exact heq.symm

/-- A fraction is a point with digits, or nothing. -/
theorem fractionPart_append {input digits rest : List Char} {c : Char}
    (h : fractionPart input = (digits, c :: rest)) (hpoint : c ≠ '.') (more : List Char) :
    fractionPart (input ++ more) = (digits, c :: rest ++ more) := by
  rw [fractionPart.eq_def] at h
  split at h
  · split at h
    · exact absurd (List.cons.inj (Prod.mk.inj h).2).1.symm hpoint
    · rename_i hne hdigits
      obtain ⟨rfl, rfl⟩ := Prod.mk.inj h
      exact fractionPart_of_digits
        (takeDigits_append hdigits (List.cons_ne_nil c rest) more) hne
  · obtain ⟨rfl, rfl⟩ := Prod.mk.inj h
    rw [List.cons_append]
    exact fractionPart_of_head hpoint (rest ++ more)

/-- What ends a value is no part of a number. -/
theorem not_mark_of_isStop {c : Char} (h : isStop c = true) : ¬ (c = 'e' ∨ c = 'E') ∧ c ≠ '.' := by
  refine ⟨?_, ?_⟩
  · rintro (rfl | rfl) <;> exact absurd h (by decide)
  · rintro rfl
    exact absurd h (by decide)

theorem exponentDigits_append {input digits rest : List Char} {negative : Bool}
    (h : exponentDigits input = (negative, digits, rest)) (hne : rest ≠ []) (more : List Char) :
    exponentDigits (input ++ more) = (negative, digits, rest ++ more) := by
  rw [exponentDigits.eq_def] at h
  split at h
  · obtain ⟨rfl, hdigits⟩ := Prod.mk.inj h
    rw [List.cons_append, exponentDigits, takeDigits_append hdigits hne]
  · obtain ⟨rfl, hdigits⟩ := Prod.mk.inj h
    rw [List.cons_append, exponentDigits, takeDigits_append hdigits hne]
  · rename_i hminus hplus
    obtain ⟨rfl, hdigits⟩ := Prod.mk.inj h
    cases input with
    | nil => exact absurd (Prod.mk.inj hdigits).2.symm hne
    | cons c tail =>
      rw [List.cons_append, exponentDigits, ← List.cons_append, takeDigits_append hdigits hne]
      · intro other heq
        exact hminus tail (by rw [(List.cons.inj heq).1])
      · intro other heq
        exact hplus tail (by rw [(List.cons.inj heq).1])

/-- Without an exponent nothing is taken; with one, the input starts with its mark. -/
theorem exponentPart_eq {input rest : List Char} {exponent : Option Int}
    (h : exponentPart input = (exponent, rest)) :
    (exponent = none ∧ rest = input) ∨
      ∃ mark behind negative digits, input = mark :: behind ∧ (mark = 'e' ∨ mark = 'E') ∧
        exponentDigits behind = (negative, digits, rest) ∧ digits ≠ [] ∧
        exponent = some (if negative then -(decimal digits : Int) else decimal digits) := by
  rw [exponentPart.eq_def] at h
  split at h
  · rename_i mark behind
    split at h
    · rename_i hmark
      split at h
      · obtain ⟨rfl, rfl⟩ := Prod.mk.inj h
        exact .inl ⟨rfl, rfl⟩
      · rename_i hne hdigits
        obtain ⟨rfl, rfl⟩ := Prod.mk.inj h
        exact .inr ⟨_, _, _, _, rfl, hmark, hdigits, hne, rfl⟩
    · obtain ⟨rfl, rfl⟩ := Prod.mk.inj h
      exact .inl ⟨rfl, rfl⟩
  · obtain ⟨rfl, rfl⟩ := Prod.mk.inj h
    exact .inl ⟨rfl, rfl⟩

/-- An exponent that is found is read in the same way in front of more input. -/
theorem exponentPart_of_digits {mark : Char} {behind digits rest : List Char} {negative : Bool}
    (hmark : mark = 'e' ∨ mark = 'E') (h : exponentDigits behind = (negative, digits, rest))
    (hne : digits ≠ []) :
    exponentPart (mark :: behind) =
      (some (if negative then -(decimal digits : Int) else decimal digits), rest) := by
  rw [exponentPart, if_pos hmark, h]
  split
  · rename_i heq
    exact absurd (Prod.mk.inj (Prod.mk.inj heq).2).1 hne
  · rename_i heq
    obtain ⟨rfl, hrest⟩ := Prod.mk.inj heq
    obtain ⟨rfl, rfl⟩ := Prod.mk.inj hrest
    rfl

theorem exponentPart_append {input rest : List Char} {exponent : Option Int}
    (h : exponentPart input = (exponent, rest)) (hstop : Stops rest) (more : List Char) :
    exponentPart (input ++ more) = (exponent, rest ++ more) := by
  obtain ⟨c, after, rfl, hc⟩ := hstop
  rcases exponentPart_eq h with ⟨rfl, rfl⟩ |
    ⟨mark, behind, negative, digits, rfl, hmark, hdigits, hne, rfl⟩
  · rw [List.cons_append, exponentPart, if_neg (not_mark_of_isStop hc).1]
  · exact exponentPart_of_digits hmark
      (exponentDigits_append hdigits (List.cons_ne_nil c after) more) hne

/-- Where a value ends, neither a point nor nothing comes before the exponent. -/
theorem head_of_exponentPart {input rest : List Char} {exponent : Option Int}
    (h : exponentPart input = (exponent, rest)) (hstop : Stops rest) :
    ∃ c behind, input = c :: behind ∧ c ≠ '.' := by
  rcases exponentPart_eq h with ⟨_, rfl⟩ | ⟨mark, behind, _, _, rfl, hmark, _⟩
  · obtain ⟨c, behind, rfl, hc⟩ := hstop
    exact ⟨c, behind, rfl, (not_mark_of_isStop hc).2⟩
  · refine ⟨mark, behind, rfl, ?_⟩
    rcases hmark with rfl | rfl <;> decide

/-- Without a fraction nothing is taken. -/
theorem rest_of_no_fraction {input rest : List Char} (h : fractionPart input = ([], rest)) :
    input = rest := by
  rw [fractionPart.eq_def] at h
  split at h
  · split at h
    · exact (Prod.mk.inj h).2
    · rename_i hne _
      exact absurd (Prod.mk.inj h).1 hne
  · exact (Prod.mk.inj h).2

theorem ne_nil_of_fractionPart {input digits rest : List Char} {c : Char}
    (h : fractionPart input = (digits, c :: rest)) : input ≠ [] := by
  rintro rfl
  cases h

/-- The number made of a sign, digits before and after the point, and an exponent. -/
def numberOf (negative : Bool) (whole fraction : List Char) (exponent : Option Int) : Json :=
  if fraction.isEmpty && exponent.isNone then
    .int (if negative then -(decimal whole : Int) else decimal whole)
  else
    .float (Binary64.ofDecimal negative (decimal (whole ++ fraction))
      (exponent.getD 0 - fraction.length))

/-- Whether digits with nothing behind them are too many for a whole number. -/
def isLongWhole (whole fraction : List Char) (exponent : Option Int) : Bool :=
  fraction.isEmpty && exponent.isNone && decide (Text.Numeral.digitLimit < whole.length)

/-- A number is read part by part. -/
theorem readNumber_of_parts (negative : Bool) {input rest₁ rest₂ rest whole fraction : List Char}
    {exponent : Option Int} (hwhole : wholePart input = some (whole, rest₁))
    (hfraction : fractionPart rest₁ = (fraction, rest₂))
    (hexponent : exponentPart rest₂ = (exponent, rest)) :
    readNumber negative input =
      if isLongWhole whole fraction exponent then .error (.value (.longNumeral whole.length))
      else .ok (numberOf negative whole fraction exponent, rest) := by
  simp only [readNumber, hwhole, hfraction, hexponent, numberOf, isLongWhole]
  by_cases hint : (fraction.isEmpty && exponent.isNone) = true
  · simp only [hint, Bool.true_and, decide_eq_true_eq, if_true]
  · simp only [(Bool.not_eq_true _).mp hint, Bool.false_and, Bool.false_eq_true, if_false]

/-- A number is read unless its input starts with no digits, or it is whole and too long. -/
theorem readNumber_cases (negative : Bool) (input : List Char) :
    readNumber negative input = .error .notJson ∨
      ∃ whole rest₁ fraction rest₂ exponent rest, wholePart input = some (whole, rest₁) ∧
        fractionPart rest₁ = (fraction, rest₂) ∧ exponentPart rest₂ = (exponent, rest) := by
  cases hwhole : wholePart input with
  | none => exact .inl (by rw [readNumber, hwhole])
  | some parts => exact .inr ⟨parts.1, parts.2, _, _, _, _, rfl, rfl, rfl⟩

theorem readNumber_eq_ok {negative : Bool} {input rest : List Char} {value : Json}
    (h : readNumber negative input = .ok (value, rest)) :
    ∃ whole rest₁ fraction rest₂ exponent, wholePart input = some (whole, rest₁) ∧
      fractionPart rest₁ = (fraction, rest₂) ∧ exponentPart rest₂ = (exponent, rest) ∧
      isLongWhole whole fraction exponent = false ∧
      value = numberOf negative whole fraction exponent := by
  rcases readNumber_cases negative input with hnone |
    ⟨whole, rest₁, fraction, rest₂, exponent, rest₃, hwhole, hfraction, hexponent⟩
  · rw [hnone] at h
    cases h
  · rw [readNumber_of_parts negative hwhole hfraction hexponent] at h
    split at h
    · cases h
    · rename_i hlong
      obtain ⟨rfl, rfl⟩ := Prod.mk.inj (Except.ok.inj h)
      exact ⟨whole, rest₁, fraction, rest₂, exponent, hwhole, hfraction, hexponent,
        (Bool.not_eq_true _).mp hlong, rfl⟩

/-- A number whose end is seen is read in the same way in front of more input. -/
theorem readNumber_append {negative : Bool} {input rest : List Char} {value : Json}
    (h : readNumber negative input = .ok (value, rest)) (hstop : Stops rest) (more : List Char) :
    readNumber negative (input ++ more) = .ok (value, rest ++ more) := by
  obtain ⟨whole, rest₁, fraction, rest₂, exponent, hwhole, hfraction, hexponent, hlong, rfl⟩ :=
    readNumber_eq_ok h
  obtain ⟨c, behind, rfl, hpoint⟩ := head_of_exponentPart hexponent hstop
  rw [readNumber_of_parts negative
    (wholePart_append hwhole (ne_nil_of_fractionPart hfraction) more)
    (fractionPart_append hfraction hpoint more) (exponentPart_append hexponent hstop more), hlong]
  rfl

/-! ## Numbers that are too long -/

/-- A character that may stand in a number. -/
def isNumberMark (c : Char) : Bool :=
  Text.isDecimalDigit c || ['.', 'e', 'E', '+', '-'].contains c

section Cut

variable {c : Char} (hc : isNumberMark c = false)

include hc

theorem not_numberMark : Text.isDecimalDigit c = false ∧ c ≠ '.' ∧ ¬ (c = 'e' ∨ c = 'E') ∧
    c ≠ '+' ∧ c ≠ '-' := by
  rw [isNumberMark, Bool.or_eq_false_iff] at hc
  have hmark : c ∉ ['.', 'e', 'E', '+', '-'] := by simpa using hc.2
  simp only [List.mem_cons, List.not_mem_nil, or_false, not_or] at hmark
  exact ⟨hc.1, hmark.1, not_or.mpr ⟨hmark.2.1, hmark.2.2.1⟩, hmark.2.2.2⟩

theorem takeDigits_append_cut (input more : List Char) :
    takeDigits (input ++ c :: more)
      = ((takeDigits input).1, (takeDigits input).2 ++ c :: more) := by
  have hstop : ¬ Text.isDecimalDigit c = true := by
    rw [(not_numberMark hc).1]
    exact Bool.false_ne_true
  induction input with
  | nil => rw [List.nil_append, takeDigits, List.takeWhile_cons_of_neg hstop,
      List.dropWhile_cons_of_neg hstop]; rfl
  | cons d rest ih =>
    simp only [takeDigits, Prod.mk.injEq] at ih
    rw [takeDigits, takeDigits, List.cons_append]
    cases hd : Text.isDecimalDigit d with
    | true =>
      rw [List.takeWhile_cons_of_pos hd, List.takeWhile_cons_of_pos hd,
        List.dropWhile_cons_of_pos hd, List.dropWhile_cons_of_pos hd, ih.1, ih.2]
    | false =>
      have hnot : ¬ Text.isDecimalDigit d = true := by
        rw [hd]
        exact Bool.false_ne_true
      rw [List.takeWhile_cons_of_neg hnot, List.takeWhile_cons_of_neg hnot,
        List.dropWhile_cons_of_neg hnot, List.dropWhile_cons_of_neg hnot]
      rfl

theorem wholePart_append_cut {input digits rest : List Char}
    (h : wholePart input = some (digits, rest)) (more : List Char) :
    wholePart (input ++ c :: more) = some (digits, rest ++ c :: more) := by
  rcases wholePart_eq_some h with ⟨rfl, rfl⟩ | ⟨hzero, hdigits, hsome⟩
  · rfl
  · refine wholePart_of_digits ?_ ?_ hsome
    · cases input with
      | nil => exact absurd (Prod.mk.inj hdigits).1.symm hsome
      | cons d tail => exact hzero
    · rw [takeDigits_append_cut hc, hdigits]

theorem fractionPart_append_cut {input : List Char} (h : (fractionPart input).1 = [])
    (more : List Char) : fractionPart (input ++ c :: more) = ([], input ++ c :: more) := by
  cases input with
  | nil => exact fractionPart_of_head (not_numberMark hc).2.1 more
  | cons d tail =>
    by_cases hpoint : d = '.'
    · subst hpoint
      have hdigits : (takeDigits tail).1 = [] := by
        by_contra hne
        rw [fractionPart_of_digits rfl hne] at h
        exact hne h
      have hlonger := takeDigits_append_cut hc tail more
      rw [hdigits] at hlonger
      rw [List.cons_append, fractionPart, hlonger]
    · exact fractionPart_of_head hpoint (tail ++ c :: more)

theorem exponentDigits_append_cut (input more : List Char) :
    (exponentDigits (input ++ c :: more)).2.1 = (exponentDigits input).2.1 := by
  obtain ⟨_, _, _, hplus, hminus⟩ := not_numberMark hc
  have hbehind : ∀ rest, (takeDigits (rest ++ c :: more)).1 = (takeDigits rest).1 := fun rest => by
    rw [takeDigits_append_cut hc]
  rw [exponentDigits.eq_def input]
  split
  · exact hbehind _
  · exact hbehind _
  · rename_i hnotMinus hnotPlus
    cases input with
    | nil =>
      rw [List.nil_append, exponentDigits]
      · exact hbehind []
      · exact fun _ heq => hminus (List.cons.inj heq).1
      · exact fun _ heq => hplus (List.cons.inj heq).1
    | cons d tail =>
      rw [List.cons_append, exponentDigits]
      · exact hbehind (d :: tail)
      · exact fun _ heq => hnotMinus tail (by rw [(List.cons.inj heq).1])
      · exact fun _ heq => hnotPlus tail (by rw [(List.cons.inj heq).1])

theorem exponentPart_append_cut {input : List Char} (h : (exponentPart input).1 = none)
    (more : List Char) : exponentPart (input ++ c :: more) = (none, input ++ c :: more) := by
  cases input with
  | nil => rw [List.nil_append, exponentPart, if_neg (not_numberMark hc).2.2.1]
  | cons mark behind =>
    by_cases hmark : mark = 'e' ∨ mark = 'E'
    · have hdigits : (exponentDigits behind).2.1 = [] := by
        by_contra hne
        rw [exponentPart_of_digits hmark rfl hne] at h
        cases h
      have hlonger := (exponentDigits_append_cut hc behind more).trans hdigits
      rcases hparts : exponentDigits (behind ++ c :: more) with ⟨negative, digits, rest⟩
      rw [hparts] at hlonger
      obtain rfl : digits = [] := hlonger
      rw [List.cons_append, exponentPart, if_pos hmark, hparts]
    · rw [List.cons_append, exponentPart, if_neg hmark]

/-- A number that is too long stays too long in front of anything that belongs to no number. -/
theorem readNumber_refused_append {negative : Bool} {input : List Char} {fault : Fault}
    (h : readNumber negative input = .error fault) (hfault : fault ≠ .notJson) (more : List Char) :
    readNumber negative (input ++ c :: more) = .error fault := by
  rcases readNumber_cases negative input with hnone |
    ⟨whole, rest₁, fraction, rest₂, exponent, rest, hwhole, hfraction, hexponent⟩
  · rw [hnone] at h
    exact absurd (Except.error.inj h).symm hfault
  · rw [readNumber_of_parts negative hwhole hfraction hexponent] at h
    split at h
    · rename_i hlong
      obtain rfl : Fault.value (.longNumeral whole.length) = fault := Except.error.inj h
      simp only [isLongWhole, Bool.and_eq_true, List.isEmpty_iff,
        Option.isNone_iff_eq_none] at hlong
      obtain ⟨⟨rfl, rfl⟩, _⟩ := id hlong
      obtain rfl : rest₂ = rest₁ := (rest_of_no_fraction hfraction).symm
      rw [readNumber_of_parts negative (wholePart_append_cut hc hwhole more)
        (fractionPart_append_cut hc (by rw [hfraction]) more)
        (exponentPart_append_cut hc (by rw [hexponent]) more), if_pos]
      simpa [isLongWhole] using hlong
    · cases h

end Cut

/-! ## Values -/

theorem readText_eq_ok_iff {input rest : List Char} {s : String} :
    readText input = .ok (s, rest) ↔
      ∃ units chars, textUnits input = some (units, rest) ∧ unitChars? units = some chars ∧
        s = String.ofList chars := by
  rw [readText]
  constructor
  · intro h
    split at h
    · cases h
    · rename_i units after hunits
      split at h
      · cases h
      · rename_i chars hchars
        obtain ⟨rfl, rfl⟩ := Prod.mk.inj (Except.ok.inj h)
        exact ⟨units, chars, hunits, hchars, rfl⟩
  · rintro ⟨units, chars, hunits, hchars, rfl⟩
    simp only [hunits, hchars]

theorem readText_append {input rest : List Char} {s : String}
    (h : readText input = .ok (s, rest)) (more : List Char) :
    readText (input ++ more) = .ok (s, rest ++ more) := by
  obtain ⟨units, chars, hunits, hchars, rfl⟩ := readText_eq_ok_iff.mp h
  exact readText_eq_ok_iff.mpr ⟨units, chars, textUnits_append hunits more, hchars, rfl⟩

/-- Half of a pair stands alone in a text whatever stands behind. -/
theorem readText_refused_append {input : List Char} {fault : Fault}
    (h : readText input = .error fault) (hfault : fault ≠ .notJson) (more : List Char) :
    readText (input ++ more) = .error fault := by
  rw [readText] at h
  split at h
  · exact absurd (Except.error.inj h).symm hfault
  · rename_i hunits
    split at h
    · rename_i hchars
      rw [readText, textUnits_append hunits more]
      simp only [hchars, h]
    · cases h

/-- The characters by which a value that is no number is told. -/
def opensNamed (c : Char) : Bool := ['n', 't', 'f', 'N', 'I', '-', '"'].contains c

/-- A value that opens with none of these is a number. -/
theorem readScalar_number {c : Char} (h : opensNamed c = false) (rest : List Char) :
    readScalar (c :: rest) = readNumber false (c :: rest) := by
  rw [readScalar.eq_def]
  split
  case h_9 => rfl
  all_goals
    rename_i heq
    obtain ⟨rfl, _⟩ := List.cons.inj heq
    exact absurd h (by decide)

/-- Input that opens with none of them, one after the other. -/
theorem opensNamed_of_head {c : Char} {tail : List Char}
    (hn : ∀ rest, c :: tail = 'n' :: rest → False) (ht : ∀ rest, c :: tail = 't' :: rest → False)
    (hf : ∀ rest, c :: tail = 'f' :: rest → False) (hN : ∀ rest, c :: tail = 'N' :: rest → False)
    (hI : ∀ rest, c :: tail = 'I' :: rest → False)
    (hminus : ∀ rest, c :: tail = '-' :: rest → False)
    (hquote : ∀ rest, c :: tail = '"' :: rest → False) : opensNamed c = false := by
  rw [Bool.eq_false_iff]
  intro hnamed
  simp only [opensNamed, List.contains_iff_mem, List.mem_cons, List.not_mem_nil, or_false] at hnamed
  rcases hnamed with rfl | rfl | rfl | rfl | rfl | rfl | rfl
  · exact hn tail rfl
  · exact ht tail rfl
  · exact hf tail rfl
  · exact hN tail rfl
  · exact hI tail rfl
  · exact hminus tail rfl
  · exact hquote tail rfl

theorem readScalar_minus {c : Char} (h : c ≠ 'I') (rest : List Char) :
    readScalar ('-' :: c :: rest) = readNumber true (c :: rest) := by
  rw [readScalar]
  rintro other heq
  exact h (List.cons.inj heq).1

theorem readScalar_append {input rest : List Char} {value : Json}
    (h : readScalar input = .ok (value, rest)) (hstop : Stops rest) (more : List Char) :
    readScalar (input ++ more) = .ok (value, rest ++ more) := by
  rw [readScalar.eq_def] at h
  split at h
  case h_7 digits hinfinite =>
    cases digits with
    | nil => cases h
    | cons c tail =>
      have hc : c ≠ 'I' := by
        rintro rfl
        exact hinfinite _ rfl
      rw [List.cons_append, List.cons_append, readScalar_minus hc]
      exact readNumber_append h hstop more
  case h_8 =>
    obtain ⟨⟨s, after⟩, htext, heq⟩ := Outcome.map_eq_ok_iff.mp h
    obtain ⟨rfl, rfl⟩ := Prod.mk.inj heq
    rw [List.cons_append, readScalar, readText_append htext]
    rfl
  case h_9 hn ht hf hN hI _ hminus hquote =>
    cases input with
    | nil => cases h
    | cons c tail =>
      rw [List.cons_append,
        readScalar_number (opensNamed_of_head hn ht hf hN hI hminus hquote)]
      exact readNumber_append h hstop more
  all_goals exact readWord_append h more

/-- A scalar that is refused for what it holds is refused in front of anything that belongs to no
number. -/
theorem readScalar_refused_append {input : List Char} {fault : Fault}
    (h : readScalar input = .error fault) (hfault : fault ≠ .notJson) {c : Char}
    (hc : isNumberMark c = false) (more : List Char) :
    readScalar (input ++ c :: more) = .error fault := by
  have hword : ∀ {word : String} {value : Json} {text : List Char},
      readWord word value text ≠ .error fault := by
    intro word value text hread
    rw [readWord] at hread
    split at hread
    · cases hread
    · exact hfault (Except.error.inj hread).symm
  rw [readScalar.eq_def] at h
  split at h
  case h_7 digits hinfinite =>
    cases digits with
    | nil => exact absurd (Except.error.inj h).symm hfault
    | cons d tail =>
      have hd : d ≠ 'I' := by
        rintro rfl
        exact hinfinite _ rfl
      rw [List.cons_append, List.cons_append, readScalar_minus hd]
      exact readNumber_refused_append hc h hfault more
  case h_8 =>
    rw [List.cons_append, readScalar,
      readText_refused_append (Outcome.map_eq_error_iff.mp h) hfault (c :: more)]
    rfl
  case h_9 hn ht hf hN hI _ hminus hquote =>
    cases input with
    | nil => exact absurd (Except.error.inj h).symm hfault
    | cons d tail =>
      rw [List.cons_append,
        readScalar_number (opensNamed_of_head hn ht hf hN hI hminus hquote)]
      exact readNumber_refused_append hc h hfault more
  all_goals exact absurd h hword

/-! ## How much is taken -/

theorem length_takeDigits {input digits rest : List Char}
    (h : takeDigits input = (digits, rest)) : rest.length + digits.length = input.length := by
  obtain ⟨rfl, rfl⟩ := Prod.mk.inj h
  rw [Nat.add_comm, ← List.length_append, List.takeWhile_append_dropWhile]

theorem length_wholePart_lt {input digits rest : List Char}
    (h : wholePart input = some (digits, rest)) : rest.length < input.length := by
  rcases wholePart_eq_some h with ⟨rfl, _⟩ | ⟨_, hdigits, hne⟩
  · exact Nat.lt_succ_self rest.length
  · have hlength := length_takeDigits hdigits
    have hpos := List.length_pos_iff.mpr hne
    omega

theorem length_fractionPart_le {input digits rest : List Char}
    (h : fractionPart input = (digits, rest)) : rest.length ≤ input.length := by
  rw [fractionPart.eq_def] at h
  split at h
  · split at h
    · rw [← (Prod.mk.inj h).2]
    · rename_i hdigits
      have hlength := length_takeDigits hdigits
      rw [(Prod.mk.inj h).2] at hlength
      rw [List.length_cons]
      omega
  · rw [← (Prod.mk.inj h).2]

theorem length_exponentDigits_le {input digits rest : List Char} {negative : Bool}
    (h : exponentDigits input = (negative, digits, rest)) : rest.length ≤ input.length := by
  rw [exponentDigits.eq_def] at h
  split at h
  all_goals have hlength := length_takeDigits (Prod.mk.inj h).2
  · rw [List.length_cons]
    omega
  · rw [List.length_cons]
    omega
  · omega

theorem length_exponentPart_le {input rest : List Char} {exponent : Option Int}
    (h : exponentPart input = (exponent, rest)) : rest.length ≤ input.length := by
  rcases exponentPart_eq h with ⟨_, rfl⟩ | ⟨mark, behind, _, _, rfl, _, hdigits, _⟩
  · exact Nat.le_refl _
  · exact Nat.le_succ_of_le (length_exponentDigits_le hdigits)

theorem length_readNumber_lt {negative : Bool} {input rest : List Char} {value : Json}
    (h : readNumber negative input = .ok (value, rest)) : rest.length < input.length := by
  obtain ⟨_, _, _, _, _, hwhole, hfraction, hexponent, _⟩ := readNumber_eq_ok h
  calc rest.length
    _ ≤ _ := length_exponentPart_le hexponent
    _ ≤ _ := length_fractionPart_le hfraction
    _ < input.length := length_wholePart_lt hwhole

theorem length_word? {word input rest : List Char} (h : word? word input = some rest) :
    rest.length + word.length = input.length := by
  induction word generalizing input with
  | nil => rw [Option.some.inj h]; rfl
  | cons e expected ih =>
    cases input with
    | nil => cases h
    | cons c tail =>
      rw [word?] at h
      split at h
      · rw [List.length_cons, List.length_cons, ← ih h]
        rfl
      · cases h

theorem length_readWord_lt {word : String} {value found : Json} {input rest : List Char}
    (h : readWord word value input = .ok (found, rest)) (hword : word.toList ≠ []) :
    rest.length < input.length := by
  have hlength := length_word? (readWord_eq_ok_iff.mp h).1
  have hpos := List.length_pos_iff.mpr hword
  omega

theorem length_readText_lt {input rest : List Char} {s : String}
    (h : readText input = .ok (s, rest)) : rest.length < input.length := by
  obtain ⟨_, _, hunits, _⟩ := readText_eq_ok_iff.mp h
  exact length_textUnits_lt hunits

theorem length_readScalar_lt {input rest : List Char} {value : Json}
    (h : readScalar input = .ok (value, rest)) : rest.length < input.length := by
  rw [readScalar.eq_def] at h
  split at h
  case h_7 => exact Nat.lt_succ_of_lt (length_readNumber_lt h)
  case h_8 =>
    obtain ⟨⟨s, after⟩, htext, heq⟩ := Outcome.map_eq_ok_iff.mp h
    obtain ⟨_, rfl⟩ := Prod.mk.inj heq
    exact Nat.lt_succ_of_lt (length_readText_lt htext)
  case h_9 => exact length_readNumber_lt h
  all_goals exact length_readWord_lt h (by decide)

end OracleIndexer.Json
