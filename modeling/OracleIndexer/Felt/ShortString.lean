import OracleIndexer.Felt.Number
set_option autoImplicit false

/-!
# Short strings

A felt whose bytes, the most significant first, are the characters of a text.  Padding on the left
reads as control characters, which are dropped from the front.
-/

namespace OracleIndexer.Felt

/-- The hexadecimal digits of a felt: those written after the marker, or else those of its number.
-/
def hexDigits : Json → Outcome (List Char)
  | .bool b => .ok (Text.Numeral.signedHex (if b then 1 else 0))
  | .int n => .ok (Text.Numeral.signedHex n)
  | other => do
    let shown ← other.asText
    let text := Text.lower shown.toList
    if Text.HexWord.hasMarker text then return Text.HexWord.dropMarker text
    else return Text.Numeral.signedHex (← Text.Numeral.convert 10 shown.toList shown)

/-- Digits in even number, a zero put in front where needed. -/
def evenDigits (digits : List Char) : List Char :=
  if digits.length % 2 = 0 then digits else '0' :: digits

/-- The bytes of digit pairs, blanks between pairs aside; or the position of the first character
that does not fit. -/
def bytesFrom (position : Nat) : List Char → Except Nat (List Nat)
  | [] => .ok []
  | c :: rest =>
    if Text.isAsciiBlank c then bytesFrom (position + 1) rest
    else match Text.hexValue? c, rest with
      | none, _ => .error position
      | some _, [] => .error (position + 1)
      | some high, d :: more =>
        match Text.hexValue? d with
        | none => .error (position + 1)
        | some low => (bytesFrom (position + 2) more).map ((16 * high + low) :: ·)

/-- The bytes of digit pairs, or the position of a character that does not fit: the first one
outside ASCII, and only where there is none the first of any kind. -/
def bytesOf (digits : List Char) : Except Nat (List Nat) :=
  match digits.findIdx? fun c => decide (128 ≤ c.toNat) with
  | some position => .error position
  | none => bytesFrom 0 digits

/-- The characters of a felt's bytes. -/
def shortString (felt : Json) : Outcome (List Char) := do
  let digits ← hexDigits felt
  let bytes ← (bytesOf (evenDigits digits)).mapError fun position =>
    .value (.notBytes position)
  return bytes.map Char.ofNat

/-- Drops control characters from the front. -/
def withoutLeadingControls (text : List Char) : List Char :=
  text.dropWhile fun c => decide (c.toNat < 32)

/-- The text of a felt, control characters at its front dropped. -/
def text (felt : Json) : Outcome String :=
  (shortString felt).map fun chars => String.ofList (withoutLeadingControls chars)

end OracleIndexer.Felt
