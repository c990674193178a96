import Mathlib.Data.List.Basic
import OracleIndexer.Felt.ShortString
import OracleIndexer.Felt.Words
import OracleIndexer.Proofs.Text.HexDigits
import OracleIndexer.Proofs.Word256
import OracleIndexer.Timestamp
set_option autoImplicit false

/-!
# Reading felts

Hexadecimal digits behind the marker always read as a felt.  A felt that does not read is a fault of
the event alone, as is a short string that is none and a timestamp out of range.  Only where words
are joined as text does a document of another kind do more harm.
-/

namespace OracleIndexer

namespace Text

/-- Trimming drops a blank at the end. -/
theorem trimBy_append_singleton {drop : Char → Bool} {text : List Char} {first last : Char}
    (hfirst : first ∈ text.head?) (hkept : drop first = false) (hlast : drop last = true) :
    trimBy drop (text ++ [last]) = trimBy drop text := by
  cases text with
  | nil => exact absurd hfirst (by simp)
  | cons c rest =>
    obtain rfl : c = first := by simpa using hfirst
    have hfront : ¬ drop c = true := Bool.not_eq_true _ ▸ hkept
    have hback : (c :: rest ++ [last]).reverse = last :: (c :: rest).reverse :=
      List.reverse_concat
    rw [trimBy, trimBy, List.cons_append, List.dropWhile_cons_of_neg hfront,
      List.dropWhile_cons_of_neg hfront, ← List.cons_append, hback,
      List.dropWhile_cons_of_pos hlast]

end Text

/-- A document that is a text. -/
def Json.IsText (document : Json) : Prop := ∃ s, document = .text s

namespace Felt

open Text (AllHex)
open Outcome (Skippable)

/-! ## Texts that read -/

theorem lowered_allHex {digits : List Char} (h : AllHex digits) : AllHex (lowered digits) := by
  intro c hc
  obtain ⟨d, hd, rfl⟩ := List.mem_map.mp hc
  exact Text.isHexDigit_toLower (h d hd)

/-- Hexadecimal digits behind the marker read as a felt, a line feed behind them or not. -/
theorem ofText_of_marked {digits tail : List Char} (hne : digits ≠ []) (h : AllHex digits)
    (htail : tail = [] ∨ tail = ['\n']) :
    ∃ n, ofText ('0' :: 'x' :: (digits ++ tail)) = .ok n := by
  have hbare : Text.trim ('0' :: 'x' :: digits) = '0' :: 'x' :: digits := by
    apply Text.trimBy_eq_self
    · intro c hc
      obtain rfl : '0' = c := by simpa using hc
      decide
    · intro c hc
      have hlast : c ∈ digits := by
        rw [List.getLast?_cons_cons, List.getLast?_cons_of_ne_nil hne] at hc
        exact List.mem_of_getLast? hc
      exact (Text.printed_of_isHexDigit (h c hlast)).2
  have htrim : Text.trim ('0' :: 'x' :: (digits ++ tail)) = '0' :: 'x' :: digits := by
    rcases htail with rfl | rfl
    · rw [List.append_nil, hbare]
    · have hdrop : Text.trim ('0' :: 'x' :: digits ++ ['\n']) = Text.trim ('0' :: 'x' :: digits) :=
        Text.trimBy_append_singleton rfl (by decide : Text.isBlank '0' = false) (by decide)
      exact hdrop.trans hbare
  obtain ⟨n, hn, _⟩ := Text.HexWord.value?_eq_some_of_allHex (lowered_allHex h)
  have hlowered : lowered ('0' :: 'x' :: digits) = '0' :: 'x' :: lowered digits := rfl
  have hread := Text.Numeral.read_of_marked (by simpa [lowered] using hne) (lowered_allHex h)
  rw [hn] at hread
  refine ⟨n, ?_⟩
  simp only [ofText, htrim, hlowered, baseOf, Text.HexWord.hasMarker_marked, if_true]
  exact Text.Numeral.convert_eq_ok_iff.mpr ⟨hread, Text.Numeral.isLong_sixteen _⟩

/-! ## Faults of felts -/

theorem skippable_ofText (text : List Char) : Skippable (ofText text) :=
  Text.Numeral.skippable_convert _ _ _

theorem skippable_number (felt : Json) : Skippable (number felt) := by
  unfold number
  split
  · exact .ok _
  · exact .ok _
  · exact .ok _
  · refine (Json.skippable_asText _).bind fun text => ?_
    exact (skippable_ofText text.toList).bind fun _ => .ok _

theorem skippable_value (felt : Json) : Skippable (value felt) := (skippable_number felt).map _

theorem skippable_column (felt : Json) : Skippable (column felt) := (skippable_number felt).map _

theorem skippable_isZero (felt : Json) : Skippable (isZero felt) := (skippable_value felt).map _

theorem skippable_same (a b : Json) : Skippable (same a b) := by
  unfold same
  split
  · exact .ok _
  · exact .ok _
  · exact (skippable_value a).bind fun _ => (skippable_value b).bind fun _ => .ok _

theorem skippable_hexDigits (felt : Json) : Skippable (hexDigits felt) := by
  unfold hexDigits
  split
  · exact .ok _
  · exact .ok _
  · refine (Json.skippable_asText _).bind fun shown => ?_
    simp only
    split
    · exact .ok _
    · exact (Text.Numeral.skippable_convert _ _ _).bind fun _ => .ok _

theorem skippable_text (felt : Json) : Skippable (text felt) := by
  refine Outcome.Within.map ?_ _
  refine (skippable_hexDigits felt).bind fun digits => ?_
  exact Outcome.Within.bind (.mapError fun _ => rfl) fun _ => .ok _

theorem skippable_amount (low high : Json) : Skippable (amount low high) :=
  (Word256.skippable_compose _ _).map _

theorem skippable_timestamp (write? : Int → Option (List Char)) (felt : Json) :
    Skippable (Timestamp.column write? felt) := by
  refine (skippable_value felt).bind fun n => ?_
  split
  · exact .ok _
  · exact .error (Fault.isSkippable_raised rfl)

theorem skippable_ofSeconds (felt : Json) : Skippable (Timestamp.ofSeconds felt) :=
  skippable_timestamp _ felt

theorem skippable_ofMillis (felt : Json) : Skippable (Timestamp.ofMillis felt) :=
  skippable_timestamp _ felt

/-! ## Comparing with a felt that reads -/

theorem same_eq_error_iff {a b : Json} {n : Int} {fault : Fault} (hread : value b = .ok n)
    (hb : b ≠ .null) : same a b = .error fault ↔ value a = .error fault := by
  unfold same
  split
  · simp [value, number]
  · exact absurd rfl hb
  · cases h : value a <;> simp [hread]

/-! ## Joining words as text -/

/-- The texts of documents, each of which must be one. -/
def textsOf : List Json → Outcome (List String)
  | [] => .ok []
  | .text s :: rest => (textsOf rest).map (s :: ·)
  | _ :: _ => .error .wrongKind

theorem textsOf_eq_error_iff {words : List Json} {fault : Fault} :
    textsOf words = .error fault ↔ (∃ word ∈ words, ¬ word.IsText) ∧ fault = .wrongKind := by
  induction words with
  | nil => simp [textsOf]
  | cons word rest ih =>
    cases word with
    | text s => simp [textsOf, Outcome.map_eq_error_iff, ih, Json.IsText]
    | _ => simp [textsOf, Json.IsText, eq_comm]

theorem concatenated_eq_map (words : List Json) :
    concatenated words
      = (textsOf words).map fun texts =>
          texts.flatMap fun s => Text.HexWord.dropMarker s.toList := by
  induction words with
  | nil => rfl
  | cons word rest ih =>
    cases word with
    | text s =>
      rw [concatenated, textsOf, ih]
      cases textsOf rest <;> rfl
    | _ => rfl

/-- Words are joined unless one of them is no text. -/
theorem concatenated_eq_error_iff {words : List Json} {fault : Fault} :
    concatenated words = .error fault ↔ (∃ word ∈ words, ¬ word.IsText) ∧ fault = .wrongKind := by
  rw [concatenated_eq_map, Outcome.map_eq_error_iff, textsOf_eq_error_iff]

theorem trimmed_eq_error_iff {word : Json} {fault : Fault} :
    trimmed word = .error fault ↔ ¬ word.IsText ∧ fault = .wrongKind := by
  cases word <;> simp [trimmed, Json.IsText, eq_comm]

theorem isText_of_trimmed {word done : Json} (h : trimmed word = .ok done) :
    word.IsText ∧ done.IsText := by
  cases word with
  | text s =>
    rw [trimmed, Except.ok.injEq] at h
    exact ⟨⟨_, rfl⟩, _, h.symm⟩
  | _ => contradiction

theorem atLast_trimmed_eq_error_iff {words : List Json} {fault : Fault} :
    atLast trimmed words = .error fault ↔
      (∃ last ∈ words.getLast?, ¬ last.IsText) ∧ fault = .wrongKind := by
  induction words with
  | nil => simp [atLast]
  | cons word rest ih =>
    cases rest with
    | nil => simp [atLast, Outcome.map_eq_error_iff, trimmed_eq_error_iff]
    | cons next more =>
      rw [atLast, Outcome.map_eq_error_iff, ih, List.getLast?_cons_cons]

/-- Dropping the padding of the last word leaves a document of another kind where it was. -/
theorem exists_not_isText_of_atLast {words done : List Json} (h : atLast trimmed words = .ok done) :
    (∃ word ∈ done, ¬ word.IsText) ↔ ∃ word ∈ words, ¬ word.IsText := by
  induction words generalizing done with
  | nil =>
    obtain rfl := Except.ok.inj h
    rfl
  | cons word rest ih =>
    cases rest with
    | nil =>
      obtain ⟨last, hlast, rfl⟩ := Outcome.map_eq_ok_iff.mp h
      obtain ⟨hword, hdone⟩ := isText_of_trimmed hlast
      simp [hword, hdone]
    | cons next more =>
      obtain ⟨others, hothers, rfl⟩ := Outcome.map_eq_ok_iff.mp h
      rw [List.exists_mem_cons_iff, List.exists_mem_cons_iff, ih hothers]

end Felt

end OracleIndexer
