import Mathlib.Data.List.TakeWhile
import OracleIndexer.Proofs.Text.HexDigits
set_option autoImplicit false

/-!
# The grammar of numerals

A numeral is made of digits with single underscores between them.  In front of them may stand a sign
and a mark of the base, and blanks around it all; blanks and digits may be those of any script.  The
reader of numerals accepts exactly these texts, and gives them the value of their digits.
-/

namespace OracleIndexer.Text

/-! ## Trimming -/

/-- Text between dropped characters is what trimming leaves, if nothing of it is dropped. -/
theorem trimBy_append {drop : Char → Bool} {front core back : List Char}
    (hfront : ∀ c ∈ front, drop c = true) (hcore : ∀ c ∈ core, drop c = false)
    (hback : ∀ c ∈ back, drop c = true) : trimBy drop (front ++ (core ++ back)) = core := by
  rw [trimBy, List.dropWhile_append_of_pos hfront]
  cases core with
  | nil =>
    have hnone : back.dropWhile drop = [] := List.dropWhile_eq_nil_iff.mpr hback
    rw [List.nil_append, hnone]
    rfl
  | cons c rest =>
    have hfirst : ¬ drop c = true := by simpa using hcore c (List.mem_cons_self ..)
    have hbehind : ∀ d ∈ back.reverse, drop d = true := fun d hd =>
      hback d (List.mem_reverse.mp hd)
    have hlast : (c :: rest).reverse.dropWhile drop = (c :: rest).reverse := by
      rw [List.dropWhile_eq_self_iff]
      intro hpos
      have hmem := List.mem_reverse.mp (List.getElem_mem hpos)
      rw [hcore _ hmem]
      exact Bool.false_ne_true
    rw [List.cons_append, List.dropWhile_cons_of_neg hfirst, ← List.cons_append,
      List.reverse_append, List.dropWhile_append_of_pos hbehind, hlast, List.reverse_reverse]

/-- Trimming drops characters from both ends. -/
theorem exists_eq_trimBy (drop : Char → Bool) (text : List Char) :
    ∃ front back, text = front ++ (trimBy drop text ++ back) ∧
      (∀ c ∈ front, drop c = true) ∧ ∀ c ∈ back, drop c = true := by
  refine ⟨text.takeWhile drop, ((text.dropWhile drop).reverse.takeWhile drop).reverse, ?_, ?_, ?_⟩
  · rw [trimBy, ← List.reverse_append, List.takeWhile_append_dropWhile, List.reverse_reverse,
      List.takeWhile_append_dropWhile]
  · intro c hc
    exact List.mem_takeWhile_imp hc
  · intro c hc
    exact List.mem_takeWhile_imp (List.mem_reverse.mp hc)

namespace Numeral

open HexWord (valueFrom valueFrom_cons)

/-! ## The grammar -/

/-- Characters with single underscores between some of them, and without these. -/
inductive Grouped : List Char → List Char → Prop
  | single (c : Char) : Grouped [c] [c]
  | next (c : Char) {text digits : List Char} (more : Grouped text digits) :
    Grouped (c :: text) (c :: digits)
  | apart (c : Char) {text digits : List Char} (more : Grouped text digits) :
    Grouped (c :: '_' :: text) (c :: digits)

/-- An optional sign, and the number that it makes of a magnitude. -/
inductive Signs : List Char → Nat → Int → Prop
  | none {m : Nat} : Signs [] m m
  | plus {m : Nat} : Signs ['+'] m m
  | minus {m : Nat} : Signs ['-'] m (-m)

/-- An optional mark of a base. -/
inductive Marks (base : Nat) : List Char → Prop
  | none : Marks base []
  | letter {c : Char} (marks : marksBase base c = true) : Marks base ['0', c]
  | apart {c : Char} (marks : marksBase base c = true) : Marks base ['0', c, '_']

/-- The numerals of a base, by their parts: blanks, a sign, a mark, digits and blanks. -/
inductive IsNumeral (base : Nat) (text : List Char) (n : Int) : Prop
  | intro {front sign mark body digits back : List Char} {m : Nat}
    (parts : text.map canonical = front ++ (sign ++ (mark ++ body) ++ back))
    (front_blank : ∀ c ∈ front, isAsciiBlank c = true)
    (back_blank : ∀ c ∈ back, isAsciiBlank c = true) (signs : Signs sign m n)
    (marks : Marks base mark) (grouped : Grouped body digits)
    (value : valueFrom base 0 digits = some m) : IsNumeral base text n

/-! ## Digits -/

/-- Text with a value starts with a digit, and the rest has the value behind it. -/
theorem exists_digit_of_valueFrom {base start m : Nat} {c : Char} {rest : List Char}
    (h : valueFrom base start (c :: rest) = some m) :
    ∃ d, digitValue? base c = some d ∧ valueFrom base (start * base + d) rest = some m := by
  rw [valueFrom_cons] at h
  exact Option.bind_eq_some_iff.mp h

/-- The first character stays first. -/
theorem Grouped.head {c : Char} {text digits : List Char} (h : Grouped (c :: text) digits) :
    ∃ rest, digits = c :: rest := by
  cases h with
  | single => exact ⟨[], rfl⟩
  | next _ more => exact ⟨_, rfl⟩
  | apart _ more => exact ⟨_, rfl⟩

theorem Grouped.ne_nil {text digits : List Char} (h : Grouped text digits) : text ≠ [] := by
  cases h <;> simp

/-- Only underscores are left out. -/
theorem Grouped.mem {text digits : List Char} (h : Grouped text digits) :
    ∀ c ∈ text, c = '_' ∨ c ∈ digits := by
  induction h with
  | single c =>
    intro d hd
    exact .inr hd
  | next c more ih =>
    intro d hd
    rcases List.mem_cons.mp hd with rfl | hd
    · exact .inr (List.mem_cons_self ..)
    · exact (ih d hd).imp_right (List.mem_cons_of_mem c)
  | apart c more ih =>
    intro d hd
    rcases List.mem_cons.mp hd with rfl | hd
    · exact .inr (List.mem_cons_self ..)
    · rcases List.mem_cons.mp hd with rfl | hd
      · exact .inl rfl
      · exact (ih d hd).imp_right (List.mem_cons_of_mem c)

theorem moreDigits_underscore (base value : Nat) (c : Char) (rest : List Char) :
    moreDigits base value ('_' :: c :: rest)
      = (digitValue? base c).bind fun d => moreDigits base (value * base + d) rest := by
  rw [moreDigits]
  cases digitValue? base c <;> rfl

theorem moreDigits_cons (base value : Nat) {c : Char} (hc : c ≠ '_') (rest : List Char) :
    moreDigits base value (c :: rest)
      = (digitValue? base c).bind fun d => moreDigits base (value * base + d) rest := by
  rw [moreDigits]
  · cases digitValue? base c <;> rfl
  · intro _ _ hunderscore _
    exact hc hunderscore

/-- A digit is read alike with and without an underscore in front. -/
theorem moreDigits_digit {base value m d : Nat} {c : Char} {rest : List Char}
    (hd : digitValue? base c = some d) (h : moreDigits base (value * base + d) rest = some m) :
    moreDigits base value (c :: rest) = some m ∧
      moreDigits base value ('_' :: c :: rest) = some m := by
  have hc : c ≠ '_' := by
    rintro rfl
    contradiction
  rw [moreDigits_cons base value hc, moreDigits_underscore, hd, Option.bind_some]
  exact ⟨h, h⟩

/-- Grouped digits are read as further digits, with or without an underscore in front. -/
theorem moreDigits_of_grouped {base start m : Nat} {text digits : List Char}
    (h : Grouped text digits) (hvalue : valueFrom base start digits = some m) :
    moreDigits base start text = some m ∧ moreDigits base start ('_' :: text) = some m := by
  -- Both forms at once: behind an underscore in the middle the induction needs the second one.
  induction h generalizing start with
  | single c =>
    obtain ⟨d, hd, hrest⟩ := exists_digit_of_valueFrom hvalue
    exact moreDigits_digit hd hrest
  | next c more ih =>
    obtain ⟨d, hd, hrest⟩ := exists_digit_of_valueFrom hvalue
    exact moreDigits_digit hd (ih hrest).1
  | apart c more ih =>
    obtain ⟨d, hd, hrest⟩ := exists_digit_of_valueFrom hvalue
    exact moreDigits_digit hd (ih hrest).2

/-- Further digits are none, or they are grouped, with or without an underscore in front. -/
inductive Continues (base value m : Nat) : List Char → Prop
  | done (same : value = m) : Continues base value m []
  | digits {text digits : List Char} (grouped : Grouped text digits)
      (value_eq : valueFrom base value digits = some m) : Continues base value m text
  | apart {text digits : List Char} (grouped : Grouped text digits)
      (value_eq : valueFrom base value digits = some m) : Continues base value m ('_' :: text)

theorem Continues.cons {base value m d : Nat} {c : Char} {rest : List Char}
    (hd : digitValue? base c = some d) (h : Continues base (value * base + d) m rest) :
    ∃ digits, Grouped (c :: rest) digits ∧ valueFrom base value digits = some m := by
  have hcons : ∀ digits : List Char,
      valueFrom base value (c :: digits) = valueFrom base (value * base + d) digits := by
    intro digits
    rw [valueFrom_cons, hd, Option.bind_some]
  cases h with
  | done same =>
    refine ⟨[c], .single c, ?_⟩
    rw [hcons, same]
    rfl
  | digits grouped value_eq => exact ⟨_, .next c grouped, (hcons _).trans value_eq⟩
  | apart grouped value_eq => exact ⟨_, .apart c grouped, (hcons _).trans value_eq⟩

theorem continues_of_moreDigits {base value m : Nat} {text : List Char}
    (h : moreDigits base value text = some m) : Continues base value m text := by
  fun_induction moreDigits base value text with
  | case1 value => exact .done (Option.some.inj h)
  | case2 value c rest d hd ih =>
    obtain ⟨digits, hgrouped, hvalue⟩ := (ih h).cons hd
    exact .apart hgrouped hvalue
  | case3 => contradiction
  | case4 value c rest _ d hd ih =>
    obtain ⟨digits, hgrouped, hvalue⟩ := (ih h).cons hd
    exact .digits hgrouped hvalue
  | case5 => contradiction

theorem digits_eq_some_iff {base m : Nat} {text : List Char} :
    digits base text = some m ↔
      ∃ plain, Grouped text plain ∧ valueFrom base 0 plain = some m := by
  constructor
  · intro h
    unfold digits at h
    split at h
    · contradiction
    · split at h
      · rename_i d hd
        have hvalue : 0 * base + d = d := by omega
        have hmore := continues_of_moreDigits h
        rw [← hvalue] at hmore
        exact hmore.cons hd
      · contradiction
  · rintro ⟨plain, hgrouped, hvalue⟩
    have hmore := (moreDigits_of_grouped hgrouped hvalue).1
    -- the first digit is read alone; as a further digit behind zero it counts the same
    cases text with
    | nil => exact absurd rfl hgrouped.ne_nil
    | cons c rest =>
      obtain ⟨more, rfl⟩ := hgrouped.head
      obtain ⟨d, hd, _⟩ := exists_digit_of_valueFrom hvalue
      have hc : c ≠ '_' := by
        rintro rfl
        contradiction
      rw [moreDigits_cons base 0 hc, hd, Option.bind_some, Nat.zero_mul, Nat.zero_add] at hmore
      rw [digits, hd]
      exact hmore

/-! ## Marks and signs -/

/-- A letter that marks a base is no digit of it. -/
theorem digitValue?_of_marksBase {base : Nat} {c : Char} (h : marksBase base c = true) :
    digitValue? base c = none ∧ c ∈ ['b', 'B', 'o', 'O', 'x', 'X'] := by
  unfold marksBase at h
  split at h
  · rcases (Bool.or_eq_true_iff).mp h with h | h <;> obtain rfl := eq_of_beq h <;> decide
  · rcases (Bool.or_eq_true_iff).mp h with h | h <;> obtain rfl := eq_of_beq h <;> decide
  · rcases (Bool.or_eq_true_iff).mp h with h | h <;> obtain rfl := eq_of_beq h <;> decide
  · contradiction

/-- The first of grouped digits is a digit. -/
theorem digitValue?_of_grouped {base start m : Nat} {c : Char} {rest plain : List Char}
    (h : Grouped (c :: rest) plain) (hvalue : valueFrom base start plain = some m) :
    ∃ d, digitValue? base c = some d := by
  obtain ⟨more, rfl⟩ := h.head
  obtain ⟨d, hd, _⟩ := exists_digit_of_valueFrom hvalue
  exact ⟨d, hd⟩

/-- The second of grouped digits is a digit or an underscore, and marks no base. -/
theorem marksBase_of_grouped {base start m : Nat} {b c : Char} {rest plain : List Char}
    (h : Grouped (b :: c :: rest) plain) (hvalue : valueFrom base start plain = some m) :
    marksBase base c = false := by
  by_contra hmarks
  obtain ⟨hnone, hletter⟩ := digitValue?_of_marksBase (Bool.eq_true_of_not_eq_false hmarks)
  cases h with
  | next _ more =>
    obtain ⟨d, _, hmore⟩ := exists_digit_of_valueFrom hvalue
    obtain ⟨e, he⟩ := digitValue?_of_grouped more hmore
    rw [hnone] at he
    contradiction
  | apart _ more => exact absurd hletter (by decide)

/-- Behind a mark of the base only the digits count. -/
theorem magnitude_marked {base : Nat} {c : Char} {body : List Char}
    (hmarks : marksBase base c = true) (hbody : body.head? ≠ some '_') :
    magnitude base ('0' :: c :: body) = digits base body := by
  rw [magnitude, if_pos hmarks]
  intro more hmore
  exact hbody (by rw [hmore]; rfl)

theorem magnitude_unmarked {base : Nat} {text : List Char}
    (h : ∀ c rest, text = '0' :: c :: rest → marksBase base c = false) :
    magnitude base text = digits base text := by
  unfold magnitude
  split
  · rename_i c rest
    rw [h c rest rfl, if_neg Bool.false_ne_true]
  · rfl

theorem magnitude_eq_some_iff {base m : Nat} {text : List Char} :
    magnitude base text = some m ↔
      ∃ mark body plain, text = mark ++ body ∧ Marks base mark ∧ Grouped body plain ∧
        valueFrom base 0 plain = some m := by
  constructor
  · intro h
    unfold magnitude at h
    split at h
    · rename_i c rest
      split at h
      · rename_i hmarks
        split at h
        · obtain ⟨plain, hgrouped, hvalue⟩ := digits_eq_some_iff.mp h
          exact ⟨['0', c, '_'], _, plain, rfl, .apart hmarks, hgrouped, hvalue⟩
        · obtain ⟨plain, hgrouped, hvalue⟩ := digits_eq_some_iff.mp h
          exact ⟨['0', c], _, plain, rfl, .letter hmarks, hgrouped, hvalue⟩
      · obtain ⟨plain, hgrouped, hvalue⟩ := digits_eq_some_iff.mp h
        exact ⟨[], _, plain, rfl, .none, hgrouped, hvalue⟩
    · obtain ⟨plain, hgrouped, hvalue⟩ := digits_eq_some_iff.mp h
      exact ⟨[], _, plain, rfl, .none, hgrouped, hvalue⟩
  · rintro ⟨mark, body, plain, rfl, hmarks, hgrouped, hvalue⟩
    have hdigits : digits base body = some m := digits_eq_some_iff.mpr ⟨plain, hgrouped, hvalue⟩
    have hfirst : body.head? ≠ some '_' := by
      cases body with
      | nil => simp
      | cons c rest =>
        obtain ⟨d, hd⟩ := digitValue?_of_grouped hgrouped hvalue
        rintro h
        obtain rfl := Option.some.inj h
        contradiction
    cases hmarks with
    | none =>
      rw [List.nil_append, magnitude_unmarked, hdigits]
      rintro c rest rfl
      exact marksBase_of_grouped hgrouped hvalue
    | letter marks => exact (magnitude_marked marks hfirst).trans hdigits
    | apart marks =>
      show magnitude base ('0' :: _ :: '_' :: body) = some m
      rw [magnitude, if_pos marks]
      exact hdigits

/-- A magnitude starts with a digit. -/
theorem digitValue?_of_magnitude {base m : Nat} {c : Char} {rest : List Char}
    (h : magnitude base (c :: rest) = some m) : c = '0' ∨ ∃ d, digitValue? base c = some d := by
  obtain ⟨mark, body, plain, hparts, hmarks, hgrouped, hvalue⟩ := magnitude_eq_some_iff.mp h
  cases hmarks with
  | none =>
    rw [List.nil_append] at hparts
    rw [← hparts] at hgrouped
    exact .inr (digitValue?_of_grouped hgrouped hvalue)
  | letter => exact .inl (List.cons.inj hparts).1
  | apart => exact .inl (List.cons.inj hparts).1

theorem signed_minus (base : Nat) (rest : List Char) :
    signed base ('-' :: rest) = (magnitude base rest).map fun m : Nat => -(m : Int) := by
  rw [signed]
  cases magnitude base rest <;> rfl

theorem signed_eq_some_iff {base : Nat} {text : List Char} {n : Int} :
    signed base text = some n ↔
      ∃ sign rest m, text = sign ++ rest ∧ Signs sign m n ∧ magnitude base rest = some m := by
  constructor
  · intro h
    unfold signed at h
    split at h
    · obtain ⟨m, hm, rfl⟩ := Option.map_eq_some_iff.mp ((signed_minus ..).symm.trans h)
      exact ⟨['-'], _, m, rfl, .minus, hm⟩
    · obtain ⟨m, hm, rfl⟩ := Option.map_eq_some_iff.mp h
      exact ⟨['+'], _, m, rfl, .plus, hm⟩
    · obtain ⟨m, hm, rfl⟩ := Option.map_eq_some_iff.mp h
      exact ⟨[], _, m, rfl, .none, hm⟩
  · rintro ⟨sign, rest, m, rfl, hsign, hm⟩
    cases hsign with
    | none =>
      rw [List.nil_append]
      unfold signed
      split
      · rcases digitValue?_of_magnitude hm with h | ⟨d, hd⟩ <;> contradiction
      · rcases digitValue?_of_magnitude hm with h | ⟨d, hd⟩ <;> contradiction
      · rw [hm]
        rfl
    | plus =>
      show (magnitude base rest).map Int.ofNat = some (m : Int)
      rw [hm]
      rfl
    | minus =>
      show signed base ('-' :: rest) = some (-(m : Int))
      rw [signed_minus, hm]
      rfl

/-! ## Numerals -/

theorem isBlank_of_digit {base d : Nat} {c : Char} (h : digitValue? base c = some d) :
    isBlank c = false := by
  have hhex : isHexDigit c = true := by
    rw [isHexDigit, (Option.filter_eq_some_iff.mp h).1]
    rfl
  exact (printed_of_isHexDigit hhex).2

/-- No part of a numeral but its ends is blank. -/
theorem isBlank_of_parts {base m : Nat} {n : Int} {sign mark body plain : List Char}
    (hsign : Signs sign m n) (hmark : Marks base mark) (hgrouped : Grouped body plain)
    (hvalue : valueFrom base 0 plain = some m) :
    ∀ c ∈ sign ++ (mark ++ body), isBlank c = false := by
  have hsigns : ∀ c ∈ sign, isBlank c = false := by
    cases hsign <;> simp [isBlank, isAsciiBlank]
  have hletter : ∀ {c : Char}, marksBase base c = true → isBlank c = false := by
    intro c hc
    have hletters : ['b', 'B', 'o', 'O', 'x', 'X'].all (!isBlank ·) = true := by decide
    simpa using List.all_eq_true.mp hletters c (digitValue?_of_marksBase hc).2
  have hmarks : ∀ c ∈ mark, isBlank c = false := by
    cases hmark with
    | none => simp
    | letter marks => simpa using ⟨by decide, hletter marks⟩
    | apart marks => simpa using ⟨by decide, hletter marks, by decide⟩
  have hplain : ∀ c ∈ plain, isBlank c = false := by
    intro c hc
    have hsome : (valueFrom base 0 plain).isSome = true := by
      rw [hvalue]
      rfl
    obtain ⟨d, hd⟩ := Option.isSome_iff_exists.mp (HexWord.valueFrom_isSome_iff.mp hsome c hc)
    exact isBlank_of_digit hd
  intro c hc
  rcases List.mem_append.mp hc with hc | hc
  · exact hsigns c hc
  · rcases List.mem_append.mp hc with hc | hc
    · exact hmarks c hc
    · rcases hgrouped.mem c hc with rfl | hc
      · decide
      · exact hplain c hc

theorem isAsciiBlank_of_not_isBlank {c : Char} (h : isBlank c = false) :
    isAsciiBlank c = false := by
  by_contra hblank
  rw [isBlank_of_isAsciiBlank (Bool.eq_true_of_not_eq_false hblank)] at h
  contradiction

/-- The reader accepts the numerals of the grammar, with their values, and no other text. -/
theorem read_eq_some_iff {base : Nat} {text : List Char} {n : Int} :
    read base text = some n ↔ IsNumeral base text n := by
  rw [read, signed_eq_some_iff]
  constructor
  · rintro ⟨sign, rest, m, htrim, hsign, hmagnitude⟩
    obtain ⟨mark, body, plain, rfl, hmark, hgrouped, hvalue⟩ :=
      magnitude_eq_some_iff.mp hmagnitude
    obtain ⟨front, back, hparts, hfront, hback⟩ :=
      exists_eq_trimBy isAsciiBlank (text.map canonical)
    rw [htrim] at hparts
    exact .intro hparts hfront hback hsign hmark hgrouped hvalue
  · rintro ⟨parts, front_blank, back_blank, signs, marks, grouped, value⟩
    have hcore := isBlank_of_parts signs marks grouped value
    rw [parts, trimBy_append front_blank (fun c hc => isAsciiBlank_of_not_isBlank (hcore c hc))
      back_blank]
    exact ⟨_, _, _, rfl, signs, magnitude_eq_some_iff.mpr ⟨_, _, _, rfl, marks, grouped, value⟩⟩

end Numeral

end OracleIndexer.Text
