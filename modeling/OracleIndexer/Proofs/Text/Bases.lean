import Mathlib.Data.List.Induction
import OracleIndexer.Proofs.Text.HexWriting
import OracleIndexer.Proofs.Text.Numerals
set_option autoImplicit false

/-!
# One text in two bases

A numeral reads alike whatever the case of its letters, and with or without the blanks around it,
unless one of these is an ASCII separator: trimming drops separators and the reader of numerals does
not.  A numeral of base ten is one of base sixteen too.  There it has the same sign and no smaller
magnitude, and the same one only below ten.
-/

namespace OracleIndexer.Text

/-! ## Trimming -/

/-- What is dropped around a text does not change what trimming leaves of it. -/
theorem trimBy_between {drop : Char → Bool} {front back : List Char} (text : List Char)
    (hfront : ∀ c ∈ front, drop c = true) (hback : ∀ c ∈ back, drop c = true) :
    trimBy drop (front ++ (text ++ back)) = trimBy drop text := by
  have hreversed : ∀ c ∈ back.reverse, drop c = true := fun c hc =>
    hback c (List.mem_reverse.mp hc)
  rw [trimBy, trimBy, List.dropWhile_append_of_pos hfront, List.dropWhile_append]
  split
  · rename_i hnone
    rw [List.dropWhile_eq_nil_iff.mpr hback, List.isEmpty_iff.mp hnone]
  · rw [List.reverse_append, List.dropWhile_append_of_pos hreversed]

/-- Trimming may be done before or behind a map that keeps the dropped characters apart. -/
theorem trimBy_map {drop : Char → Bool} {f : Char → Char} (h : ∀ c, drop (f c) = drop c)
    (text : List Char) : trimBy drop (text.map f) = (trimBy drop text).map f := by
  have hcomp : drop ∘ f = drop := funext h
  rw [trimBy, trimBy, List.dropWhile_map, hcomp, ← List.map_reverse, List.dropWhile_map, hcomp,
    List.map_reverse]

/-- The four ASCII separators of files, groups, records and units. -/
def isSeparator (c : Char) : Bool := decide (0x1C ≤ c.toNat ∧ c.toNat ≤ 0x1F)

theorem isSeparator_iff {c : Char} : isSeparator c = true ↔ 0x1C ≤ c.toNat ∧ c.toNat ≤ 0x1F := by
  simp [isSeparator]

/-- A separator is a blank. -/
theorem isBlank_of_isSeparator {c : Char} (h : isSeparator c = true) : isBlank c = true := by
  rw [isSeparator] at h
  simp [isBlank, h]

/-- But it is not one of the ASCII blanks around a number. -/
theorem isAsciiBlank_of_isSeparator {c : Char} (h : isSeparator c = true) :
    isAsciiBlank c = false := by
  rw [isSeparator_iff] at h
  simp only [isAsciiBlank, Bool.or_eq_false_iff, decide_eq_false_iff_not, beq_eq_false_iff_ne]
  omega

/-! ## Case -/

theorem isAsciiBlank_toLower (c : Char) : isAsciiBlank c.toLower = isAsciiBlank c := by
  simp only [isAsciiBlank, toNat_toLower]
  split
  · rw [Bool.eq_iff_iff]
    simp only [Bool.or_eq_true, decide_eq_true_eq, beq_iff_eq]
    omega
  · rfl

theorem digitValue?_toLower (base : Nat) (c : Char) :
    digitValue? base c.toLower = digitValue? base c := by
  rw [digitValue?, digitValue?, hexValue?_toLower]

/-- A character that is no letter is the small form of itself alone. -/
theorem toLower_eq_iff {c d : Char} (hd : ¬ (65 ≤ d.toNat ∧ d.toNat ≤ 90))
    (hsmall : ¬ (97 ≤ d.toNat ∧ d.toNat ≤ 122)) : c.toLower = d ↔ c = d := by
  rw [← Char.toNat_inj, ← Char.toNat_inj, toNat_toLower]
  split <;> omega

/-- A character without a small form of its own stays as it is. -/
theorem toLower_eq_self {c : Char} (h : ¬ (65 ≤ c.toNat ∧ c.toNat ≤ 90)) : c.toLower = c := by
  rw [← Char.toNat_inj, toNat_toLower, if_neg h]

/-- A letter is told from others by its small form. -/
theorem beq_toLower_or {small capital : Char} (hsmall : 97 ≤ small.toNat ∧ small.toNat ≤ 122)
    (hcapital : capital.toNat + 32 = small.toNat) (c : Char) :
    (c.toLower == small || c.toLower == capital) = (c == small || c == capital) := by
  rw [Bool.eq_iff_iff]
  simp only [Bool.or_eq_true, beq_iff_eq, ← Char.toNat_inj, toNat_toLower]
  split <;> omega

/-! ## Digits -/

theorem decimalValue?_lt {c : Char} {d : Nat} (h : decimalValue? c = some d) : d < 10 := by
  obtain ⟨first, hfirst, rfl⟩ := Option.map_eq_some_iff.mp h
  have hrange := List.find?_some hfirst
  simp only [decide_eq_true_eq] at hrange
  omega

/-- A digit of a base is worth as much in a larger one. -/
theorem digitValue?_of_le {small large d : Nat} {c : Char} (hle : small ≤ large)
    (h : digitValue? small c = some d) : digitValue? large c = some d := by
  obtain ⟨hvalue, hlt⟩ := Option.filter_eq_some_iff.mp h
  have hlt : d < small := by simpa using hlt
  exact Option.filter_eq_some_iff.mpr ⟨hvalue, by simpa using Nat.lt_of_lt_of_le hlt hle⟩

namespace Numeral

open HexWord (valueFrom valueFrom_cons)

theorem toLower_asciiDigit : ∀ d < 10, (asciiDigit d).toLower = asciiDigit d := by decide

theorem canonical_toLower (c : Char) : canonical c.toLower = (canonical c).toLower := by
  by_cases hascii : c.toNat < 127
  · have hlower : c.toLower.toNat < 127 := by
      rw [toNat_toLower]
      split <;> omega
    rw [canonical_of_ascii hascii, canonical_of_ascii hlower]
  · rw [toLower_eq_self (by omega), canonical, if_neg hascii]
    split
    · decide
    · split
      · rename_i d hd
        exact (toLower_asciiDigit d (decimalValue?_lt hd)).symm
      · rw [toLower_eq_self (by omega)]

theorem marksBase_toLower (base : Nat) (c : Char) :
    marksBase base c.toLower = marksBase base c := by
  unfold marksBase
  split
  · exact beq_toLower_or (by decide) (by decide) c
  · exact beq_toLower_or (by decide) (by decide) c
  · exact beq_toLower_or (by decide) (by decide) c
  · rfl

theorem moreDigits_map_toLower (base value : Nat) (text : List Char) :
    moreDigits base value (text.map Char.toLower) = moreDigits base value text := by
  fun_induction moreDigits base value text with
  | case1 => rfl
  | case2 value c rest d hd ih =>
    rw [List.map_cons, List.map_cons, show '_'.toLower = '_' from rfl, moreDigits_underscore,
      digitValue?_toLower, hd, Option.bind_some, ih]
  | case3 value c rest hd =>
    rw [List.map_cons, List.map_cons, show '_'.toLower = '_' from rfl, moreDigits_underscore,
      digitValue?_toLower, hd, Option.bind_none]
  | case4 value c rest _ d hd ih =>
    have hc : c.toLower ≠ '_' := by
      rw [ne_eq, toLower_eq_iff (by decide) (by decide)]
      rintro rfl
      contradiction
    rw [List.map_cons, moreDigits_cons base value hc, digitValue?_toLower, hd, Option.bind_some, ih]
  | case5 value c rest hc hd =>
    by_cases hunderscore : c = '_'
    · -- a single underscore at the end
      subst hunderscore
      cases rest with
      | nil => rfl
      | cons d more => exact (hc d more rfl rfl).elim
    · have hlower : c.toLower ≠ '_' := by
        rwa [ne_eq, toLower_eq_iff (by decide) (by decide)]
      rw [List.map_cons, moreDigits_cons base value hlower, digitValue?_toLower, hd,
        Option.bind_none]

theorem digits_map_toLower (base : Nat) (text : List Char) :
    digits base (text.map Char.toLower) = digits base text := by
  cases text with
  | nil => rfl
  | cons c rest =>
    simp only [List.map_cons, digits, digitValue?_toLower, moreDigits_map_toLower]

/-- Behind a mark of the base an underscore may stand. -/
theorem magnitude_apart {base : Nat} {c : Char} (hmarks : marksBase base c = true)
    (body : List Char) : magnitude base ('0' :: c :: '_' :: body) = digits base body := by
  rw [magnitude, if_pos hmarks]

theorem magnitude_map_toLower (base : Nat) (text : List Char) :
    magnitude base (text.map Char.toLower) = magnitude base text := by
  by_cases hmarked : ∃ c rest, text = '0' :: c :: rest ∧ marksBase base c = true
  · obtain ⟨c, rest, rfl, hmarks⟩ := hmarked
    have hlower : marksBase base c.toLower = true := by rw [marksBase_toLower, hmarks]
    rw [List.map_cons, List.map_cons, show '0'.toLower = '0' from rfl]
    by_cases hapart : ∃ body, rest = '_' :: body
    · obtain ⟨body, rfl⟩ := hapart
      rw [List.map_cons, show '_'.toLower = '_' from rfl, magnitude_apart hmarks,
        magnitude_apart hlower, digits_map_toLower]
    · have hrest : rest.head? ≠ some '_' := by
        rw [ne_eq, List.head?_eq_some_iff]
        exact hapart
      have hsmall : (rest.map Char.toLower).head? ≠ some '_' := by
        rw [List.head?_map, ne_eq, Option.map_eq_some_iff]
        rintro ⟨d, hd, hlow⟩
        rw [toLower_eq_iff (by decide) (by decide)] at hlow
        exact hrest (hlow ▸ hd)
      rw [magnitude_marked hmarks hrest, magnitude_marked hlower hsmall, digits_map_toLower]
  · have hplain : ∀ c rest, text = '0' :: c :: rest → marksBase base c = false := by
      intro c rest htext
      exact Bool.eq_false_of_not_eq_true fun hmarks => hmarked ⟨c, rest, htext, hmarks⟩
    have hsmall : ∀ c rest, text.map Char.toLower = '0' :: c :: rest →
        marksBase base c = false := by
      intro c rest htext
      obtain ⟨zero, more, rfl, hzero, hmore⟩ := List.map_eq_cons_iff.mp htext
      obtain ⟨d, others, rfl, rfl, _⟩ := List.map_eq_cons_iff.mp hmore
      rw [toLower_eq_iff (by decide) (by decide)] at hzero
      rw [marksBase_toLower]
      exact hplain d others (by rw [hzero])
    rw [magnitude_unmarked hplain, magnitude_unmarked hsmall, digits_map_toLower]

/-- Text that starts with no sign is a magnitude. -/
theorem signed_of_unsigned {base : Nat} {text : List Char} (hminus : text.head? ≠ some '-')
    (hplus : text.head? ≠ some '+') :
    signed base text = (magnitude base text).map Int.ofNat := by
  unfold signed
  split
  · exact absurd rfl hminus
  · exact absurd rfl hplus
  · rfl

theorem signed_map_toLower (base : Nat) (text : List Char) :
    signed base (text.map Char.toLower) = signed base text := by
  cases text with
  | nil => rfl
  | cons c rest =>
    rw [List.map_cons]
    by_cases hminus : c = '-'
    · subst hminus
      rw [show '-'.toLower = '-' from rfl, signed_minus, signed_minus, magnitude_map_toLower]
    · by_cases hplus : c = '+'
      · subst hplus
        rw [show '+'.toLower = '+' from rfl, signed, signed, magnitude_map_toLower]
      · have hmagnitude := magnitude_map_toLower base (c :: rest)
        rw [List.map_cons] at hmagnitude
        have hsmall : ∀ d, ¬ (65 ≤ d.toNat ∧ d.toNat ≤ 90) → ¬ (97 ≤ d.toNat ∧ d.toNat ≤ 122) →
            c ≠ d → (c.toLower :: rest.map Char.toLower).head? ≠ some d := by
          intro d hcapital hletter hne
          rw [List.head?_cons, ne_eq, Option.some.injEq, toLower_eq_iff hcapital hletter]
          exact hne
        rw [signed_of_unsigned (hsmall '-' (by decide) (by decide) hminus)
            (hsmall '+' (by decide) (by decide) hplus),
          signed_of_unsigned (by simpa using hminus) (by simpa using hplus), hmagnitude]

theorem map_canonical_map_toLower (text : List Char) :
    (text.map Char.toLower).map canonical = (text.map canonical).map Char.toLower := by
  rw [List.map_map, List.map_map]
  exact List.map_congr_left fun c _ => canonical_toLower c

/-- The case of its letters does not matter to a numeral. -/
theorem read_map_toLower (base : Nat) (text : List Char) :
    read base (text.map Char.toLower) = read base text := by
  rw [read, read, map_canonical_map_toLower, trimBy_map isAsciiBlank_toLower, signed_map_toLower]

/-- Nor does it to the number of its digits. -/
theorem digitCount_map_toLower (text : List Char) :
    digitCount (text.map Char.toLower) = digitCount text := by
  have hdigit : ∀ c : Char, isDecimalDigit c.toLower = isDecimalDigit c := by
    intro c
    rw [isDecimalDigit, isDecimalDigit, toNat_toLower]
    exact decide_eq_decide.mpr (by split <;> omega)
  rw [digitCount, digitCount, map_canonical_map_toLower, List.countP_map]
  exact List.countP_congr fun c _ => by rw [Function.comp_apply, hdigit]

theorem isLong_map_toLower (base : Nat) (text : List Char) :
    isLong base (text.map Char.toLower) = isLong base text := by
  rw [isLong, isLong, digitCount_map_toLower]

/-! ## Blanks -/

/-- A blank that is no separator becomes an ASCII one. -/
theorem isAsciiBlank_canonical {c : Char} (hblank : isBlank c = true)
    (hseparator : isSeparator c = false) : isAsciiBlank (canonical c) = true := by
  by_cases hascii : c.toNat < 127
  · have hnot : ¬ (0x1C ≤ c.toNat ∧ c.toNat ≤ 0x1F) := by
      rw [← isSeparator_iff, hseparator]
      exact Bool.false_ne_true
    rw [canonical_of_ascii hascii]
    simp only [isBlank, isAsciiBlank, Bool.or_eq_true, decide_eq_true_eq, beq_iff_eq]
      at hblank ⊢
    omega
  · rw [canonical, if_neg hascii, if_pos hblank]
    decide

/-- Blanks around a numeral do not matter, if there is no separator among them. -/
theorem read_trim {base : Nat} {text : List Char} (h : ∀ c ∈ text, isSeparator c = false) :
    read base (trim text) = read base text := by
  obtain ⟨front, back, htext, hfront, hback⟩ := exists_eq_trimBy isBlank text
  have hblanks : ∀ part : List Char, (∀ c ∈ part, c ∈ text) → (∀ c ∈ part, isBlank c = true) →
      ∀ c ∈ part.map canonical, isAsciiBlank c = true := by
    intro part hpart hblank c hc
    obtain ⟨d, hd, rfl⟩ := List.mem_map.mp hc
    exact isAsciiBlank_canonical (hblank d hd) (h d (hpart d hd))
  have hfrontMem : ∀ c ∈ front, c ∈ text := by
    intro c hc
    rw [htext]
    exact List.mem_append_left _ hc
  have hbackMem : ∀ c ∈ back, c ∈ text := by
    intro c hc
    rw [htext]
    exact List.mem_append_right _ (List.mem_append_right _ hc)
  conv_rhs => rw [htext]
  rw [read, read, List.map_append, List.map_append,
    trimBy_between _ (hblanks front hfrontMem hfront) (hblanks back hbackMem hback), trim]

/-- A numeral holds no separator. -/
theorem not_isSeparator_of_read {base : Nat} {text : List Char} {n : Int}
    (h : read base text = some n) : ∀ c ∈ text, isSeparator c = false := by
  obtain ⟨parts, front_blank, back_blank, signs, marks, grouped, value⟩ := read_eq_some_iff.mp h
  intro c hc
  by_contra hnot
  have hseparator : isSeparator c = true := Bool.eq_true_of_not_eq_false hnot
  have hrange := isSeparator_iff.mp hseparator
  have hends : isAsciiBlank c ≠ true := by
    rw [isAsciiBlank_of_isSeparator hseparator]
    exact Bool.false_ne_true
  have hmem : c ∈ text.map canonical :=
    List.mem_map.mpr ⟨c, hc, canonical_of_ascii (by omega)⟩
  rw [parts, List.mem_append, List.mem_append] at hmem
  rcases hmem with hmem | hmem | hmem
  · exact hends (front_blank c hmem)
  · have hcore := isBlank_of_parts signs marks grouped value c hmem
    rw [isBlank_of_isSeparator hseparator] at hcore
    contradiction
  · exact hends (back_blank c hmem)

/-! ## Bases ten and sixteen -/

/-- Decimal digits have a value in base sixteen too.  It is no smaller, and the same one only below
ten: every digit but the last counts for more. -/
theorem valueFrom_sixteen_of_ten {text : List Char} {m : Nat} (h : valueFrom 10 0 text = some m) :
    ∃ v, valueFrom 16 0 text = some v ∧ m ≤ v ∧ (v = m ↔ m < 10) := by
  induction text using List.reverseRecOn generalizing m with
  | nil =>
    obtain rfl := Option.some.inj h
    exact ⟨0, rfl, by omega, by omega⟩
  | append_singleton front c ih =>
    rw [HexWord.valueFrom_append] at h
    obtain ⟨x, hx, hc⟩ := Option.bind_eq_some_iff.mp h
    obtain ⟨d, hd, hm⟩ := exists_digit_of_valueFrom hc
    obtain ⟨y, hy, hle, hsame⟩ := ih hx
    have hlt := digitValue?_lt hd
    have hvalue : x * 10 + d = m := Option.some.inj hm
    refine ⟨y * 16 + d, ?_, by omega, by omega⟩
    rw [HexWord.valueFrom_append, hy, Option.bind_some, valueFrom_cons,
      digitValue?_of_le (by decide) hd]
    rfl

/-- A sign makes a number of any magnitude. -/
theorem Signs.exists {sign : List Char} {m : Nat} {n : Int} (h : Signs sign m n) (k : Nat) :
    ∃ v, Signs sign k v ∧ (v = n ↔ k = m) := by
  cases h with
  | none => exact ⟨k, .none, by omega⟩
  | plus => exact ⟨k, .plus, by omega⟩
  | minus => exact ⟨-k, .minus, by omega⟩

theorem Signs.natAbs_eq {sign : List Char} {m : Nat} {n : Int} (h : Signs sign m n) :
    n.natAbs = m := by
  cases h <;> omega

/-- No letter marks base ten. -/
theorem Marks.eq_nil_of_ten {mark : List Char} (h : Marks 10 mark) : mark = [] := by
  cases h with
  | none => rfl
  | letter marks => contradiction
  | apart marks => contradiction

/-- A numeral of base ten is one of base sixteen.  Its number there is no smaller, and the same one
only below ten. -/
theorem read_sixteen_of_ten {text : List Char} {n : Int} (h : read 10 text = some n) :
    ∃ v, read 16 text = some v ∧ n.natAbs ≤ v.natAbs ∧ (v = n ↔ n.natAbs < 10) := by
  obtain ⟨parts, front_blank, back_blank, signs, marks, grouped, value⟩ := read_eq_some_iff.mp h
  obtain ⟨k, hk, hle, hsame⟩ := valueFrom_sixteen_of_ten value
  obtain ⟨v, hv, hiff⟩ := signs.exists k
  obtain rfl := marks.eq_nil_of_ten
  have hread : read 16 text = some v :=
    read_eq_some_iff.mpr (.intro parts front_blank back_blank hv .none grouped hk)
  refine ⟨v, hread, ?_, ?_⟩
  · rwa [signs.natAbs_eq, hv.natAbs_eq]
  · rw [hiff, hsame, signs.natAbs_eq]

end Numeral

end OracleIndexer.Text
