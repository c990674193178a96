import OracleIndexer.Proofs.Json.Members
import OracleIndexer.Proofs.Json.Nested
import OracleIndexer.Proofs.Json.WrittenText
import OracleIndexer.Proofs.Text.Decimal
set_option autoImplicit false

/-!
# Spellings of documents

How a document may be spelled, whatever blanks stand between its parts: numbers, words and texts as
they are written, items and members in order.  Main result: what a text spells is read from it.  A
spelling knows how many arrays and objects lie in one another in it, and its numbers are short
enough to be written.
-/

namespace OracleIndexer.Json

/-! ## Blanks and ends -/

/-- Blanks alone. -/
def Blank (text : List Char) : Prop := ∀ c ∈ text, isSpace c = true

theorem blank_nil : Blank [] := fun _ hmem => absurd hmem List.not_mem_nil

theorem skip_append_of_blank {blank : List Char} (h : Blank blank) (rest : List Char) :
    skip (blank ++ rest) = skip rest :=
  skip_append_of_nil (List.dropWhile_eq_nil_iff.mpr h) rest

/-- The end of a value, be it the end of the input. -/
def Ends (input : List Char) : Prop := input = [] ∨ Stops input

theorem Ends.append_of_blank {blank rest : List Char} (hblank : Blank blank) (h : Ends rest) :
    Ends (blank ++ rest) := by
  cases blank with
  | nil => exact h
  | cons c more =>
    refine .inr ⟨c, more ++ rest, rfl, ?_⟩
    rw [isStop, hblank c List.mem_cons_self]
    rfl

/-- A digit is none of the other marks. -/
theorem beq_eq_false_of_isDecimalDigit {c d : Char} (hc : Text.isDecimalDigit c = true)
    (hd : Text.isDecimalDigit d = false) : (c == d) = false := by
  rw [beq_eq_false_iff_ne]
  rintro rfl
  rw [hc] at hd
  cases hd

theorem isDecimalDigit_of_isStop {c : Char} (h : isStop c = true) :
    Text.isDecimalDigit c = false := by
  cases hdigit : Text.isDecimalDigit c with
  | false => rfl
  | true =>
    have hmark : ∀ d, Text.isDecimalDigit d = false → (c == d) = false :=
      fun d => beq_eq_false_of_isDecimalDigit hdigit
    rw [isStop, isSpace, hmark ' ' rfl, hmark '\t' rfl, hmark '\n' rfl, hmark '\r' rfl,
      hmark ',' rfl, hmark ']' rfl, hmark '}' rfl] at h
    cases h

/-! ## Whole numbers -/

theorem takeDigits_of_digits {digits rest : List Char}
    (h : ∀ c ∈ digits, Text.isDecimalDigit c = true) (hrest : Ends rest) :
    takeDigits (digits ++ rest) = (digits, rest) := by
  have htake : rest.takeWhile Text.isDecimalDigit = [] ∧
      rest.dropWhile Text.isDecimalDigit = rest := by
    rcases hrest with rfl | ⟨c, behind, rfl, hc⟩
    · exact ⟨rfl, rfl⟩
    · have hstop : ¬ Text.isDecimalDigit c = true := by
        rw [isDecimalDigit_of_isStop hc]
        exact Bool.false_ne_true
      exact ⟨List.takeWhile_cons_of_neg hstop, List.dropWhile_cons_of_neg hstop⟩
  rw [takeDigits, List.takeWhile_append_of_pos h, List.dropWhile_append_of_pos h, htake.1, htake.2,
    List.append_nil]

theorem fractionPart_of_ends {rest : List Char} (h : Ends rest) :
    fractionPart rest = ([], rest) := by
  rcases h with rfl | ⟨c, behind, rfl, hc⟩
  · rfl
  · exact fractionPart_of_head (not_mark_of_isStop hc).2 behind

theorem exponentPart_of_ends {rest : List Char} (h : Ends rest) :
    exponentPart rest = (none, rest) := by
  rcases h with rfl | ⟨c, behind, rfl, hc⟩
  · rfl
  · rw [exponentPart, if_neg (not_mark_of_isStop hc).1]

theorem decimal_toDigits (n : Nat) : decimal (Nat.toDigits 10 n) = n := by
  have hfold : ∀ digits : List Char, decimal digits = Nat.ofDigitChars 10 digits 0 := by
    intro digits
    rw [decimal, Nat.ofDigitChars_eq_foldl]
    congr 1
    funext value c
    rw [Nat.mul_comm]
    rfl
  rw [hfold, Nat.ofDigitChars_ten_toDigits]

theorem wholePart_toDigits (n : Nat) {rest : List Char} (h : Ends rest) :
    wholePart (Nat.toDigits 10 n ++ rest) = some (Nat.toDigits 10 n, rest) := by
  rcases Nat.eq_zero_or_pos n with rfl | hpos
  · rfl
  · refine wholePart_of_digits ?_ ?_ Nat.toDigits_ne_nil
    · rw [List.head?_append_of_ne_nil _ Nat.toDigits_ne_nil]
      exact Text.head?_toDigits hpos
    · exact takeDigits_of_digits (fun c hc => Text.isDecimalDigit_of_mem_toDigits hc) h

/-- A number in decimal digits is read unless they are too many. -/
theorem readNumber_toDigits (negative : Bool) (n : Nat) {rest : List Char} (h : Ends rest) :
    readNumber negative (Nat.toDigits 10 n ++ rest)
      = if Text.Numeral.digitLimit < (Nat.toDigits 10 n).length then
          .error (.value (.longNumeral (Nat.toDigits 10 n).length))
        else .ok (.int (if negative then -(n : Int) else n), rest) := by
  have hwhole : numberOf negative (Nat.toDigits 10 n) [] none
      = .int (if negative then -(decimal (Nat.toDigits 10 n) : Int)
        else decimal (Nat.toDigits 10 n)) := if_pos rfl
  have hlong : isLongWhole (Nat.toDigits 10 n) [] none
      = decide (Text.Numeral.digitLimit < (Nat.toDigits 10 n).length) := Bool.true_and _
  rw [readNumber_of_parts negative (wholePart_toDigits n h) (fractionPart_of_ends h)
    (exponentPart_of_ends h), hwhole, hlong, decimal_toDigits]
  simp only [decide_eq_true_eq]

/-- A number starts with one of its digits. -/
theorem toDigits_eq_cons (n : Nat) : ∃ c tail, Nat.toDigits 10 n = c :: tail ∧
    Text.isDecimalDigit c = true := by
  cases hdigits : Nat.toDigits 10 n with
  | nil => exact absurd hdigits Nat.toDigits_ne_nil
  | cons c tail =>
    exact ⟨c, tail, rfl, Text.isDecimalDigit_of_mem_toDigits (hdigits ▸ List.mem_cons_self)⟩

theorem opens_of_isDecimalDigit {c : Char} (h : Text.isDecimalDigit c = true) :
    opensNamed c = false ∧ opensNested c = false := by
  have hmark : ∀ d, Text.isDecimalDigit d = false → (c == d) = false :=
    fun d => beq_eq_false_of_isDecimalDigit h
  refine ⟨?_, by rw [opensNested, hmark '[' rfl, hmark '{' rfl]; rfl⟩
  simp only [opensNamed, List.contains_cons, List.contains_nil, hmark 'n' rfl, hmark 't' rfl,
    hmark 'f' rfl, hmark 'N' rfl, hmark 'I' rfl, hmark '-' rfl, hmark '"' rfl, Bool.or_false]

theorem writeInt_natCast (n : Nat) : writeInt n = Nat.toDigits 10 n := Nat.toList_repr

theorem writeInt_negSucc (n : Nat) : writeInt (.negSucc n) = '-' :: Nat.toDigits 10 (n + 1) := by
  rw [writeInt]
  show ("-" ++ Nat.repr (n + 1)).toList = _
  rw [String.toList_append, Nat.toList_repr]
  rfl

/-- A whole number is written with decimal digits and perhaps a sign. -/
theorem mem_writeInt {n : Int} {c : Char} (h : c ∈ writeInt n) :
    c = '-' ∨ Text.isDecimalDigit c = true := by
  cases n with
  | ofNat n =>
    have hdigits : c ∈ Nat.toDigits 10 n := writeInt_natCast n ▸ h
    exact .inr (Text.isDecimalDigit_of_mem_toDigits hdigits)
  | negSucc n =>
    rw [writeInt_negSucc, List.mem_cons] at h
    exact h.imp_right fun hdigits => Text.isDecimalDigit_of_mem_toDigits hdigits

/-- A whole number is read up to where it ends, unless it has too many digits. -/
theorem readScalar_writeInt (n : Int) {rest : List Char} (h : Ends rest) :
    readScalar (writeInt n ++ rest)
      = if Text.Numeral.isWritable n then .ok (.int n, rest)
        else .error (.value (.longNumeral (Nat.toDigits 10 n.natAbs).length)) := by
  have hlimit : (if Text.Numeral.digitLimit < (Nat.toDigits 10 n.natAbs).length then
      Except.error (Fault.value (.longNumeral (Nat.toDigits 10 n.natAbs).length))
      else .ok (Json.int n, rest)) = if Text.Numeral.isWritable n then .ok (.int n, rest)
        else .error (.value (.longNumeral (Nat.toDigits 10 n.natAbs).length)) := by
    rw [Text.Numeral.isWritable]
    by_cases hlong : Text.Numeral.digitLimit < (Nat.toDigits 10 n.natAbs).length
    · rw [if_pos hlong, if_neg (by rw [decide_eq_true_eq]; omega)]
    · rw [if_neg hlong, if_pos (by rw [decide_eq_true_eq]; omega)]
  rw [← hlimit]
  cases n with
  | ofNat n =>
    obtain ⟨c, tail, hdigits, hc⟩ := toDigits_eq_cons n
    have hread := readNumber_toDigits false n h
    have hwritten : writeInt (Int.ofNat n) = Nat.toDigits 10 n := writeInt_natCast n
    rw [hdigits, List.cons_append, ← readScalar_number (opens_of_isDecimalDigit hc).1,
      ← List.cons_append, ← hdigits] at hread
    rw [hwritten]
    exact hread
  | negSucc n =>
    obtain ⟨c, tail, hdigits, hc⟩ := toDigits_eq_cons (n + 1)
    have hinfinite : c ≠ 'I' := by
      rintro rfl
      cases hc
    have hread := readNumber_toDigits true (n + 1) h
    rw [hdigits, List.cons_append, ← readScalar_minus hinfinite, ← List.cons_append,
      ← hdigits] at hread
    rw [writeInt_negSucc]
    exact hread

/-- A whole number opens with no blank, and with nothing that holds other values. -/
theorem writeInt_eq_cons (n : Int) :
    ∃ c tail, writeInt n = c :: tail ∧ opensNested c = false ∧ isSpace c = false := by
  cases n with
  | ofNat n =>
    obtain ⟨c, tail, hdigits, hc⟩ := toDigits_eq_cons n
    have hspace : isSpace c = false := by
      simp only [isSpace, beq_eq_false_of_isDecimalDigit hc (d := ' ') rfl,
        beq_eq_false_of_isDecimalDigit hc (d := '\t') rfl,
        beq_eq_false_of_isDecimalDigit hc (d := '\n') rfl,
        beq_eq_false_of_isDecimalDigit hc (d := '\r') rfl, Bool.or_false]
    exact ⟨c, tail, (writeInt_natCast n).trans hdigits, (opens_of_isDecimalDigit hc).2, hspace⟩
  | negSucc n => exact ⟨'-', _, writeInt_negSucc n, rfl, rfl⟩

theorem reads_writeInt {levels : Nat} {n : Int} (hshort : Text.Numeral.isWritable n = true)
    {rest : List Char} (h : Ends rest) :
    Reads levels (.value (.int n)) (writeInt n ++ rest) rest := by
  obtain ⟨c, tail, hwritten, hkind, _⟩ := writeInt_eq_cons n
  have hread := readScalar_writeInt n h
  rw [if_pos hshort, hwritten, List.cons_append] at hread
  rw [hwritten, List.cons_append]
  exact .scalar hkind hread

/-- A whole number is told by its text. -/
theorem writeInt_inj {m n : Int} : writeInt m = writeInt n ↔ m = n := by
  have hsign : ∀ m n : Nat, Nat.toDigits 10 m ≠ '-' :: Nat.toDigits 10 n := by
    intro m n heq
    obtain ⟨c, tail, hdigits, hc⟩ := toDigits_eq_cons m
    rw [(List.cons.inj (hdigits.symm.trans heq)).1] at hc
    cases hc
  have hdigits : ∀ {m n : Nat}, Nat.toDigits 10 m = Nat.toDigits 10 n → m = n := by
    intro m n heq
    rw [← decimal_toDigits m, heq, decimal_toDigits]
  refine ⟨fun h => ?_, fun h => congrArg writeInt h⟩
  cases m with
  | ofNat m =>
    have hm : writeInt (Int.ofNat m) = Nat.toDigits 10 m := writeInt_natCast m
    cases n with
    | ofNat n =>
      have hn : writeInt (Int.ofNat n) = Nat.toDigits 10 n := writeInt_natCast n
      rw [hm, hn] at h
      rw [hdigits h]
    | negSucc n =>
      rw [hm, writeInt_negSucc] at h
      exact absurd h (hsign m (n + 1))
  | negSucc m =>
    cases n with
    | ofNat n =>
      have hn : writeInt (Int.ofNat n) = Nat.toDigits 10 n := writeInt_natCast n
      rw [hn, writeInt_negSucc] at h
      exact absurd h.symm (hsign n (m + 1))
    | negSucc n =>
      rw [writeInt_negSucc, writeInt_negSucc] at h
      rw [Nat.succ.inj (hdigits (List.cons.inj h).2)]

/-! ## Words and texts -/

theorem word?_self (word rest : List Char) : word? word (word ++ rest) = some rest := by
  induction word with
  | nil => rfl
  | cons c more ih => rw [List.cons_append, word?, if_pos rfl, ih]

theorem readWord_self (word : String) (value : Json) (rest : List Char) :
    readWord word value (word.toList ++ rest) = .ok (value, rest) :=
  readWord_eq_ok_iff.mpr ⟨word?_self word.toList rest, rfl⟩

theorem reads_null (levels : Nat) (rest : List Char) :
    Reads levels (.value .null) ("null".toList ++ rest) rest :=
  .scalar rfl (readWord_self "null" .null rest)

theorem reads_bool (levels : Nat) (b : Bool) (rest : List Char) :
    Reads levels (.value (.bool b)) ((if b then "true".toList else "false".toList) ++ rest)
      rest := by
  cases b with
  | false => exact .scalar rfl (readWord_self "false" (.bool false) rest)
  | true => exact .scalar rfl (readWord_self "true" (.bool true) rest)

theorem writeText_append (s : String) (rest : List Char) :
    writeText s ++ rest = '"' :: (s.toList.flatMap writeChar ++ '"' :: rest) := by
  rw [writeText, List.cons_append, List.cons_append, List.append_assoc, List.singleton_append]

theorem reads_writeText (levels : Nat) (s : String) (rest : List Char) :
    Reads levels (.value (.text s)) (writeText s ++ rest) rest := by
  rw [writeText_append]
  refine .scalar rfl ?_
  rw [readScalar, readText_writeText]
  rfl

/-! ## Spellings -/

/-- A text spells a part in which no more than so many arrays and objects lie in one another:
scalars as they are written, items and members in order, their keys distinct, and any blanks in
between. -/
inductive Spells : Nat → Part → List Char → Prop
  | null {levels : Nat} : Spells levels (.value .null) "null".toList
  | bool {levels : Nat} (b : Bool) :
      Spells levels (.value (.bool b)) (if b then "true".toList else "false".toList)
  | int {levels : Nat} {n : Int} (short : Text.Numeral.isWritable n = true) :
      Spells levels (.value (.int n)) (writeInt n)
  | text {levels : Nat} (s : String) : Spells levels (.value (.text s)) (writeText s)
  | emptyArray {inner : Nat} {blank : List Char} (inside : Blank blank) :
      Spells (inner + 1) (.value (.array [])) ('[' :: blank ++ [']'])
  | array {inner : Nat} {values : List Json} {text : List Char}
      (items : Spells inner (.items values) text) :
      Spells (inner + 1) (.value (.array values)) ('[' :: text ++ [']'])
  | emptyObject {inner : Nat} {blank : List Char} (inside : Blank blank) :
      Spells (inner + 1) (.value (.object [])) ('{' :: blank ++ ['}'])
  | object {inner : Nat} {pairs : List (String × Json)} {text : List Char}
      (distinct : (pairs.map Prod.fst).Nodup) (members : Spells inner (.members pairs) text) :
      Spells (inner + 1) (.value (.object pairs)) ('{' :: text ++ ['}'])
  | lastItem {levels : Nat} {value : Json} {text : List Char}
      (item : Spells levels (.value value) text) : Spells levels (.items [value]) text
  | item {levels : Nat} {value : Json} {values : List Json} {text others : List Char}
      (item : Spells levels (.value value) text) (items : Spells levels (.items values) others) :
      Spells levels (.items (value :: values)) (text ++ ',' :: others)
  | lastMember {levels : Nat} (key : String) {value : Json} {blank text : List Char}
      (before : Blank blank) (member : Spells levels (.value value) text) :
      Spells levels (.members [(key, value)]) (writeText key ++ blank ++ ':' :: text)
  | member {levels : Nat} (key : String) {value : Json} {pairs : List (String × Json)}
      {blank text others : List Char} (before : Blank blank)
      (member : Spells levels (.value value) text)
      (members : Spells levels (.members pairs) others) :
      Spells levels (.members ((key, value) :: pairs))
        (writeText key ++ blank ++ ':' :: text ++ ',' :: others)
  | padded {levels : Nat} {part : Part} {front text back : List Char} (before : Blank front)
      (spelled : Spells levels part text) (behind : Blank back) :
      Spells levels part (front ++ text ++ back)

/-- What reading a text has to give for a part: the part, with at most blanks left over. -/
def Part.IsReadFrom (levels : Nat) (text : List Char) : Part → Prop
  | .value document => ∀ after, Ends after →
      ∃ rest, Reads levels (.value document) (skip (text ++ after)) rest ∧ skip rest = skip after
  | .items values => ∀ after rest, skip after = ']' :: rest →
      Reads levels (.items values) (skip (text ++ after)) rest
  | .members pairs => ∀ after rest, skip after = '}' :: rest →
      Reads levels (.members pairs) (skip (text ++ after)) rest

/-- A value that takes a text to its end. -/
theorem isReadFrom_of_reads {levels : Nat} {value : Json} {text : List Char}
    (h : ∀ after, Ends after → Reads levels (.value value) (text ++ after) after) :
    (Part.value value).IsReadFrom levels text := by
  intro after hends
  refine ⟨after, ?_, rfl⟩
  rw [(h after hends).skip_eq]
  exact h after hends

/-- Blanks around a part do not matter. -/
theorem isReadFrom_padded {levels : Nat} {part : Part} {front text back : List Char}
    (hfront : Blank front) (hback : Blank back) (h : part.IsReadFrom levels text) :
    part.IsReadFrom levels (front ++ text ++ back) := by
  have hskip : ∀ after, skip (front ++ text ++ back ++ after) = skip (text ++ (back ++ after)) := by
    intro after
    rw [List.append_assoc, List.append_assoc, skip_append_of_blank hfront]
  cases part with
  | value document =>
    intro after hends
    obtain ⟨rest, hread, hrest⟩ := h (back ++ after) (hends.append_of_blank hback)
    rw [skip_append_of_blank hback] at hrest
    exact ⟨rest, by rw [hskip]; exact hread, hrest⟩
  | items values =>
    intro after rest hclose
    rw [hskip]
    exact h _ rest (by rw [skip_append_of_blank hback, hclose])
  | members pairs =>
    intro after rest hclose
    rw [hskip]
    exact h _ rest (by rw [skip_append_of_blank hback, hclose])

/-- What a text spells is read from it. -/
theorem isReadFrom_of_spells {levels : Nat} {part : Part} {text : List Char}
    (h : Spells levels part text) : part.IsReadFrom levels text := by
  induction h with
  | @null levels => exact isReadFrom_of_reads fun after _ => reads_null levels after
  | @bool levels b => exact isReadFrom_of_reads fun after _ => reads_bool levels b after
  | int short => exact isReadFrom_of_reads fun after hends => reads_writeInt short hends
  | @text levels s => exact isReadFrom_of_reads fun after _ => reads_writeText levels s after
  | emptyArray inside =>
    refine isReadFrom_of_reads fun after _ => ?_
    rw [List.cons_append, List.cons_append, List.append_assoc]
    exact .emptyArray (skip_append_of_blank inside _)
  | array items ih =>
    refine isReadFrom_of_reads fun after _ => ?_
    rw [List.cons_append, List.cons_append, List.append_assoc]
    exact .array (ih _ _ rfl)
  | emptyObject inside =>
    refine isReadFrom_of_reads fun after _ => ?_
    rw [List.cons_append, List.cons_append, List.append_assoc]
    exact .emptyObject (skip_append_of_blank inside _)
  | object distinct members ih =>
    refine isReadFrom_of_reads fun after _ => ?_
    rw [List.cons_append, List.cons_append, List.append_assoc, ← objectOf_of_nodup distinct]
    exact .object (ih _ _ rfl)
  | lastItem item ih =>
    intro after rest hclose
    obtain ⟨behind, hread, hbehind⟩ := ih after (.inr (stops_of_skip hclose rfl))
    exact .lastItem hread (hbehind.trans hclose)
  | @item _ _ _ _ others item items ih ihs =>
    intro after rest hclose
    rw [List.append_assoc, List.cons_append]
    obtain ⟨behind, hread, hbehind⟩ := ih (',' :: (others ++ after)) (.inr ⟨',', _, rfl, rfl⟩)
    exact .item hread hbehind (ihs after rest hclose)
  | @lastMember _ key _ blank text before member ih =>
    intro after rest hclose
    obtain ⟨behind, hread, hbehind⟩ := ih after (.inr (stops_of_skip hclose rfl))
    rw [List.append_assoc, List.append_assoc, writeText_append, skip_cons_of_not_space rfl]
    exact .lastMember (readText_writeText key _) (skip_append_of_blank before _) hread
      (hbehind.trans hclose)
  | @member _ key _ _ blank text others before member members ih ihs =>
    intro after rest hclose
    obtain ⟨behind, hread, hbehind⟩ := ih (',' :: (others ++ after)) (.inr ⟨',', _, rfl, rfl⟩)
    rw [List.append_assoc, List.append_assoc, List.append_assoc, writeText_append,
      skip_cons_of_not_space rfl]
    exact .member (readText_writeText key _) (skip_append_of_blank before _) hread hbehind
      (ihs after rest hclose)
  | padded before _ behind ih => exact isReadFrom_padded before behind ih

/-- A text that spells a document is read as it. -/
theorem read_of_spells {levels : Nat} {value : Json} {text : List Char}
    (h : Spells levels (.value value) text) : read levels text = .ok value := by
  obtain ⟨rest, hread, hrest⟩ := isReadFrom_of_spells h [] (.inl rfl)
  rw [List.append_nil] at hread
  exact read_eq_ok_iff.mpr ⟨rest, hread, hrest⟩

end OracleIndexer.Json
