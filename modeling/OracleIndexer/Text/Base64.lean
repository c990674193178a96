import OracleIndexer.Text.Digit
set_option autoImplicit false

/-!
# Base 64

Bytes written with sixty-four characters, four of them for three bytes.  Equals signs pad the last
group of four.  Characters outside the alphabet are passed over, and nothing is read behind a full
padding.
-/

namespace OracleIndexer.Text.Base64

/-- The worth of a character of the alphabet. -/
def value? (c : Char) : Option Nat :=
  if 'A' ≤ c ∧ c ≤ 'Z' then some (c.toNat - 65)
  else if 'a' ≤ c ∧ c ≤ 'z' then some (c.toNat - 71)
  else if isDecimalDigit c then some (c.toNat + 4)
  else if c = '+' then some 62
  else if c = '/' then some 63
  else none

/-- The bytes of a text from a place in a group of four on.  `carry` is what is left of the last
character, and `pads` counts the equals signs since then.  A group must not end early without its
padding. -/
def decodeFrom (place carry pads : Nat) : List Char → Option (List UInt8)
  | [] => if place = 0 then some [] else none
  | c :: rest =>
    if c = '=' then
      if place < 2 then decodeFrom place carry pads rest
      else if 4 ≤ place + pads + 1 then some []
      else decodeFrom place carry (pads + 1) rest
    else
      match value? c with
      | none => decodeFrom place carry pads rest
      | some n =>
        match place with
        | 0 => decodeFrom 1 n 0 rest
        | 1 => (decodeFrom 2 (n % 16) 0 rest).map (UInt8.ofNat (carry * 4 + n / 16) :: ·)
        | 2 => (decodeFrom 3 (n % 4) 0 rest).map (UInt8.ofNat (carry * 16 + n / 4) :: ·)
        | _ => (decodeFrom 0 0 0 rest).map (UInt8.ofNat (carry * 64 + n) :: ·)

/-- The bytes that a text encodes. -/
def decode (text : List Char) : Option (List UInt8) := decodeFrom 0 0 0 text

end OracleIndexer.Text.Base64
