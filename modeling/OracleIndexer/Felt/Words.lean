import OracleIndexer.Felt.Number
import OracleIndexer.Word256
set_option autoImplicit false

/-!
# Felts as pieces of hexadecimal text

Joining words into one text, dropping the zeros a node pads a word with, and amounts of 256 bits
that come in two halves.
-/

namespace OracleIndexer.Felt

/-- Drops the zeros at the front of a word's digits; the marker stays. -/
def withoutPadding (word : List Char) : List Char :=
  if Text.HexWord.hasMarker word then
    '0' :: 'x' :: (Text.HexWord.dropMarker word).dropWhile (· == '0')
  else word.dropWhile (· == '0')

/-- Drops the padding of a document, which must be a text. -/
def trimmed : Json → Outcome Json
  | .text s => .ok (.text (String.ofList (withoutPadding s.toList)))
  | _ => .error .wrongKind

/-- The digits of words, one after the other, markers dropped; each must be a text. -/
def concatenated : List Json → Outcome (List Char)
  | [] => .ok []
  | .text s :: rest => (concatenated rest).map (Text.HexWord.dropMarker s.toList ++ ·)
  | _ :: _ => .error .wrongKind

/-- An amount of two halves in decimal. -/
def amount (low high : Json) : Outcome String :=
  (Word256.compose (.document low) (.document high)).map Word256.decimal

/-- Does something to the last entry of a list, if there is one. -/
def atLast (f : Json → Outcome Json) : List Json → Outcome (List Json)
  | [] => .ok []
  | [last] => (f last).map ([·])
  | word :: next :: rest => (atLast f (next :: rest)).map (word :: ·)

end OracleIndexer.Felt
