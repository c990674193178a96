import OracleIndexer.Feed.Batch
import OracleIndexer.Text.HexWord
set_option autoImplicit false

/-!
# Transport words

A message travels in words, each with a header of thirty-two characters in front of its share of the
stream.
-/

namespace OracleIndexer.Feed.Envelope

/-- The number of characters of a word's header. -/
def headerWidth : Nat := 32

/-- A word's share of the stream. -/
def share (word : List Char) : List Char := (Text.HexWord.dropMarker word).drop headerWidth

/-- The stream that words carry. -/
def stream (words : List (List Char)) : List Char := words.flatMap share

/-- The shares of documents, each of which must be a text. -/
def sharesOf : List Json → Outcome (List (List Char))
  | [] => .ok []
  | .text s :: rest => (sharesOf rest).map (share s.toList :: ·)
  | _ :: _ => .error .wrongKind

/-- The stream that documents carry. -/
def streamOf (words : List Json) : Outcome (List Char) := (sharesOf words).map List.flatten

/-- Decodes the message that documents carry. -/
def decode (format : Format) (words : List Json) : Outcome Batch := do
  Batch.decode format (← streamOf words)

theorem streamOf_texts (words : List String) :
    streamOf (words.map .text) = .ok (stream (words.map String.toList)) := by
  have shares : ∀ ws : List String,
      sharesOf (ws.map .text) = .ok (ws.map fun w => share w.toList) := by
    intro ws
    induction ws with
    | nil => rfl
    | cons w rest ih => simp [sharesOf, ih, Except.map]
  simp [streamOf, shares, stream, Except.map, List.flatMap, Function.comp_def]

end OracleIndexer.Feed.Envelope
