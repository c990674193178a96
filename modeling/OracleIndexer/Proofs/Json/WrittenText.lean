import Mathlib.Data.List.Basic
import OracleIndexer.Json.Writer
import OracleIndexer.Proofs.Json.Scalars
import OracleIndexer.Proofs.Text.HexWriting
set_option autoImplicit false

/-!
# Written texts

A written text holds printed ASCII characters alone.  Read again, it gives the units of its
characters, and these give the characters again: no character is half of a pair, so that two units
are joined only where they were written for one character.
-/

namespace OracleIndexer

namespace Text

theorem toNat_range (c : Char) : c.toNat < 0xD800 ∨ (0xDFFF < c.toNat ∧ c.toNat < 0x110000) :=
  c.valid

namespace Numeral

theorem length_paddedHex {width n : Nat} (hpos : 0 < width) (h : n < 16 ^ width) :
    (paddedHex width n).length = width := by
  have hlength : (hex n).length ≤ width := (Nat.length_toDigits_le_iff (by decide) hpos).mpr h
  rw [paddedHex, List.length_leftpad, Nat.max_eq_left hlength]

theorem value?_paddedHex (width n : Nat) : HexWord.value? (paddedHex width n) = some n := by
  rw [paddedHex, List.leftpad, HexWord.value?_replicate_append, hex, HexWord.value?_toDigits]

end Numeral

end Text

namespace Json

/-! ## Units of a character -/

/-- The units that a character takes. -/
def charUnits (c : Char) : List Nat :=
  if c.toNat < 0x10000 then [c.toNat]
  else [0xD800 + (c.toNat - 0x10000) / 0x400, 0xDC00 + (c.toNat - 0x10000) % 0x400]

theorem charUnits_of_lt {c : Char} (h : c.toNat < 0x10000) :
    charUnits c = [c.toNat] := by
  rw [charUnits, if_pos h]

theorem charUnits_of_le {c : Char} (h : ¬ c.toNat < 0x10000) :
    charUnits c = [0xD800 + (c.toNat - 0x10000) / 0x400, 0xDC00 + (c.toNat - 0x10000) % 0x400] := by
  rw [charUnits, if_neg h]

theorem spellsUnit_escapeUnit {unit : Nat} (h : unit < 0x10000) :
    SpellsUnit (escapeUnit unit) unit := by
  have hlength : (Text.Numeral.paddedHex 4 unit).length = 4 :=
    Text.Numeral.length_paddedHex (by decide) h
  have hvalue := Text.Numeral.value?_paddedHex 4 unit
  obtain ⟨a, b, c, d, hdigits⟩ := List.length_eq_four.mp hlength
  rw [hdigits] at hvalue
  rw [escapeUnit, hdigits]
  exact .long hvalue

/-- An escape by a letter stands for the character that it was written for. -/
theorem unescape?_of_shortEscape? {c e : Char} (h : shortEscape? c = some e) :
    unescape? e = some c.toNat ∧ c.toNat < 0x80 ∧ 32 ≤ e.toNat ∧ e.toNat < 127 := by
  rw [shortEscape?] at h
  split_ifs at h with h₁ h₂ h₃ h₄ h₅ h₆ h₇
  all_goals obtain rfl := Option.some.inj h
  · subst h₁
    decide
  · subst h₂
    decide
  · subst h₃
    decide
  · subst h₄
    decide
  · subst h₅
    decide
  · rw [h₆]
    decide
  · rw [h₇]
    decide

theorem writeChar_of_short {c e : Char} (h : shortEscape? c = some e) :
    writeChar c = ['\\', e] := by
  simp only [writeChar, h]

theorem writeChar_of_printed {c : Char} (h : shortEscape? c = none)
    (hprinted : 32 ≤ c.toNat ∧ c.toNat < 127) : writeChar c = [c] := by
  simp only [writeChar, h, if_pos hprinted]

theorem writeChar_of_lt {c : Char} (h : shortEscape? c = none)
    (hprinted : ¬ (32 ≤ c.toNat ∧ c.toNat < 127))
    (hsmall : c.toNat < 0x10000) : writeChar c = escapeUnit (c.toNat) := by
  simp only [writeChar, h, if_neg hprinted, if_pos hsmall]

theorem writeChar_of_le {c : Char} (h : shortEscape? c = none)
    (hprinted : ¬ (32 ≤ c.toNat ∧ c.toNat < 127))
    (hlarge : ¬ c.toNat < 0x10000) :
    writeChar c = escapeUnit (0xD800 + (c.toNat - 0x10000) / 0x400)
      ++ escapeUnit (0xDC00 + (c.toNat - 0x10000) % 0x400) := by
  simp only [writeChar, h, if_neg hprinted, if_neg hlarge]

/-- A character without an escape by a letter is neither a quote nor a backslash. -/
theorem ne_of_shortEscape? {c : Char} (h : shortEscape? c = none) : c ≠ '"' ∧ c ≠ '\\' := by
  refine ⟨?_, ?_⟩
  · rintro rfl
    cases h
  · rintro rfl
    cases h

/-- A written character stands for its units, whatever follows. -/
theorem textUnits_writeChar (c : Char) (rest : List Char) :
    textUnits (writeChar c ++ rest) = (textUnits rest).map (unitsBefore (charUnits c)) := by
  cases hshort : shortEscape? c with
  | some e =>
    obtain ⟨hletter, hascii, _⟩ := unescape?_of_shortEscape? hshort
    rw [writeChar_of_short hshort, charUnits_of_lt (by omega)]
    exact textUnits_append_spelled (.short hletter) rest
  | none =>
    by_cases hprinted : 32 ≤ c.toNat ∧ c.toNat < 127
    · obtain ⟨hquote, hescape⟩ := ne_of_shortEscape? hshort
      rw [writeChar_of_printed hshort hprinted, charUnits_of_lt (by omega)]
      exact textUnits_append_spelled (.plain (by omega) hquote hescape) rest
    · by_cases hsmall : c.toNat < 0x10000
      · rw [writeChar_of_lt hshort hprinted hsmall, charUnits_of_lt hsmall]
        exact textUnits_append_spelled (spellsUnit_escapeUnit hsmall) rest
      · have hrange := Text.toNat_range c
        rw [writeChar_of_le hshort hprinted hsmall, charUnits_of_le hsmall, List.append_assoc,
          textUnits_append_spelled (spellsUnit_escapeUnit (by omega)),
          textUnits_append_spelled (spellsUnit_escapeUnit (by omega)), Option.map_map]
        rfl

theorem textUnits_flatMap_writeChar (chars rest : List Char) :
    textUnits (chars.flatMap writeChar ++ '"' :: rest) = some (chars.flatMap charUnits, rest) := by
  induction chars with
  | nil => rw [List.flatMap_nil, List.nil_append, textUnits, List.flatMap_nil]
  | cons c others ih =>
    rw [List.flatMap_cons, List.append_assoc, textUnits_writeChar, ih, List.flatMap_cons]
    rfl

/-! ## Characters of units -/

theorem isHighUnit_iff {unit : Nat} : isHighUnit unit = true ↔ 0xD800 ≤ unit ∧ unit < 0xDC00 := by
  rw [isHighUnit, decide_eq_true_eq]

theorem isLowUnit_iff {unit : Nat} : isLowUnit unit = true ↔ 0xDC00 ≤ unit ∧ unit < 0xE000 := by
  rw [isLowUnit, decide_eq_true_eq]

/-- The code point of a character is a unit of its own, whatever follows. -/
theorem unitChars?_toNat (c : Char) (rest : List Nat) :
    unitChars? (c.toNat :: rest) = (unitChars? rest).map (c :: ·) := by
  cases rest with
  | nil =>
    have halone : unitChars? [c.toNat] = (Text.charOf? c.toNat).map ([·]) := rfl
    rw [halone, Text.charOf?_toNat]
    rfl
  | cons next more =>
    have hopens : isHighUnit c.toNat = false := by
      rw [← Bool.not_eq_true, isHighUnit_iff]
      have hrange := Text.toNat_range c
      omega
    rw [unitChars?, hopens, Bool.false_and, if_neg Bool.false_ne_true]
    simp only [Text.charOf?_toNat]

theorem unitChars?_of_pair {high low : Nat} (hhigh : isHighUnit high = true)
    (hlow : isLowUnit low = true) (rest : List Nat) :
    unitChars? (high :: low :: rest)
      = (unitChars? rest).map
          (Char.ofNat (0x10000 + (high - 0xD800) * 0x400 + (low - 0xDC00)) :: ·) := by
  rw [unitChars?, hhigh, hlow, Bool.and_self, if_pos rfl]

theorem unitChars?_charUnits (c : Char) (rest : List Nat) :
    unitChars? (charUnits c ++ rest) = (unitChars? rest).map (c :: ·) := by
  by_cases hsmall : c.toNat < 0x10000
  · rw [charUnits_of_lt hsmall, List.singleton_append, unitChars?_toNat]
  · have hrange := Text.toNat_range c
    have hwhole : 0x10000 + (0xD800 + (c.toNat - 0x10000) / 0x400 - 0xD800) * 0x400
        + (0xDC00 + (c.toNat - 0x10000) % 0x400 - 0xDC00) = c.toNat := by
      omega
    rw [charUnits_of_le hsmall, List.cons_append, List.singleton_append,
      unitChars?_of_pair (isHighUnit_iff.mpr (by omega)) (isLowUnit_iff.mpr (by omega)), hwhole,
      Char.ofNat_toNat]

/-- The units of characters give the characters again. -/
theorem unitChars?_flatMap_charUnits (chars : List Char) :
    unitChars? (chars.flatMap charUnits) = some chars := by
  induction chars with
  | nil => rfl
  | cons c rest ih =>
    rw [List.flatMap_cons, unitChars?_charUnits, ih]
    rfl

/-- A written text is read again, whatever follows. -/
theorem readText_writeText (s : String) (rest : List Char) :
    readText (s.toList.flatMap writeChar ++ '"' :: rest) = .ok (s, rest) :=
  readText_eq_ok_iff.mpr ⟨_, s.toList, textUnits_flatMap_writeChar s.toList rest,
    unitChars?_flatMap_charUnits s.toList, String.ofList_toList.symm⟩

/-! ## Printed characters -/

/-- Printed ASCII characters alone. -/
def Printed (text : List Char) : Prop := ∀ c ∈ text, 32 ≤ c.toNat ∧ c.toNat < 127

instance (text : List Char) : Decidable (Printed text) := List.decidableBAll _ text

theorem printed_nil : Printed [] := fun _ hmem => absurd hmem List.not_mem_nil

theorem printed_cons {c : Char} {rest : List Char} :
    Printed (c :: rest) ↔ (32 ≤ c.toNat ∧ c.toNat < 127) ∧ Printed rest :=
  List.forall_mem_cons

theorem printed_append {front back : List Char} :
    Printed (front ++ back) ↔ Printed front ∧ Printed back :=
  List.forall_mem_append

theorem printed_flatMap {α : Type} {f : α → List Char} {items : List α}
    (h : ∀ a ∈ items, Printed (f a)) : Printed (items.flatMap f) := by
  intro c hc
  obtain ⟨a, ha, hmem⟩ := List.mem_flatMap.mp hc
  exact h a ha c hmem

theorem printed_escapeUnit (unit : Nat) : Printed (escapeUnit unit) := by
  have hdigits : Printed (Text.Numeral.paddedHex 4 unit) := by
    have hhex := Text.HexWord.allHex_of_value? (Text.Numeral.value?_paddedHex 4 unit)
    intro c hc
    have hrange := Text.isHexDigit_iff_toNat.mp (hhex c hc)
    omega
  exact printed_cons.mpr ⟨by decide, printed_cons.mpr ⟨by decide, hdigits⟩⟩

theorem printed_writeChar (c : Char) : Printed (writeChar c) := by
  cases hshort : shortEscape? c with
  | some e =>
    obtain ⟨_, _, hletter⟩ := unescape?_of_shortEscape? hshort
    rw [writeChar_of_short hshort]
    exact printed_cons.mpr ⟨by decide, printed_cons.mpr ⟨hletter, printed_nil⟩⟩
  | none =>
    by_cases hprinted : 32 ≤ c.toNat ∧ c.toNat < 127
    · rw [writeChar_of_printed hshort hprinted]
      exact printed_cons.mpr ⟨by omega, printed_nil⟩
    · by_cases hsmall : c.toNat < 0x10000
      · rw [writeChar_of_lt hshort hprinted hsmall]
        exact printed_escapeUnit _
      · rw [writeChar_of_le hshort hprinted hsmall]
        exact printed_append.mpr ⟨printed_escapeUnit _, printed_escapeUnit _⟩

theorem printed_writeText (s : String) : Printed (writeText s) := by
  have hinner : Printed (s.toList.flatMap writeChar) :=
    printed_flatMap fun c _ => printed_writeChar c
  exact printed_append.mpr ⟨printed_cons.mpr ⟨by decide, hinner⟩,
    printed_cons.mpr ⟨by decide, printed_nil⟩⟩

end Json

end OracleIndexer
