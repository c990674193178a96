import OracleIndexer.Text.Blank
import OracleIndexer.Text.Digit
set_option autoImplicit false

/-!
# Numerals

How whole numbers are read from text and written.  A numeral may stand between blanks, carry one
sign, hold single underscores between its digits, and use the decimal digits of any script.  In the
bases two, eight and sixteen it may start with `0b`, `0o` and `0x`, after which one underscore is
allowed.  What a numeral denotes has no limit, but only so many decimal digits are converted, from
text or to it.
-/

namespace OracleIndexer.Text.Numeral

/-- Brings the blanks and decimal digits of other scripts to their ASCII forms. -/
def canonical (c : Char) : Char :=
  if c.toNat < 127 then c
  else if isBlank c then ' '
  else match decimalValue? c with
    | some d => asciiDigit d
    | none => c

/-- Digits after the first one, a single underscore allowed before each; the value so far comes
first. -/
def moreDigits (base value : Nat) : List Char → Option Nat
  | [] => some value
  | '_' :: c :: rest =>
    match digitValue? base c with
    | some d => moreDigits base (value * base + d) rest
    | none => none
  | c :: rest =>
    match digitValue? base c with
    | some d => moreDigits base (value * base + d) rest
    | none => none

/-- One or more digits. -/
def digits (base : Nat) : List Char → Option Nat
  | [] => none
  | c :: rest =>
    match digitValue? base c with
    | some d => moreDigits base d rest
    | none => none

/-- Whether a letter of either case marks a base when it stands behind a zero. -/
def marksBase (base : Nat) (letter : Char) : Bool :=
  match base with
  | 2 => letter == 'b' || letter == 'B'
  | 8 => letter == 'o' || letter == 'O'
  | 16 => letter == 'x' || letter == 'X'
  | _ => false

/-- Digits, after an optional mark of their base. -/
def magnitude (base : Nat) : List Char → Option Nat
  | '0' :: letter :: rest =>
    if marksBase base letter then
      match rest with
      | '_' :: more => digits base more
      | more => digits base more
    else digits base ('0' :: letter :: rest)
  | text => digits base text

/-- A magnitude after an optional sign. -/
def signed (base : Nat) : List Char → Option Int
  | '-' :: rest => (magnitude base rest).map fun n => -(n : Int)
  | '+' :: rest => (magnitude base rest).map Int.ofNat
  | text => (magnitude base text).map Int.ofNat

/-- Reads a whole number. -/
def read (base : Nat) (text : List Char) : Option Int :=
  signed base (trimBy isAsciiBlank (text.map canonical))

/-- The most digits that a number is converted with, from decimal text or to it. -/
def digitLimit : Nat := 4300

/-- The number of decimal digits in a text, those of every script; zeros in front count too. -/
def digitCount (text : List Char) : Nat := (text.map canonical).countP isDecimalDigit

/-- Whether a numeral has too many digits to be converted.  The bases whose digits are groups of
bits know no limit. -/
def isLong (base : Nat) (text : List Char) : Bool :=
  !(base == 2 || base == 8 || base == 16) && decide (digitLimit < digitCount text)

/-- Whether a number has few enough digits to be written in decimal. -/
def isWritable (n : Int) : Bool := decide ((Nat.toDigits 10 n.natAbs).length ≤ digitLimit)

/-- The hexadecimal digits of a number in lower case, without leading zeros. -/
def hex (n : Nat) : List Char := Nat.toDigits 16 n

/-- Hexadecimal digits padded with zeros on the left to a width. -/
def paddedHex (width n : Nat) : List Char :=
  (hex n).leftpad width '0'

/-- The decimal digits of a number padded with zeros on the left to a width. -/
def paddedDecimal (width n : Nat) : List Char :=
  (Nat.toDigits 10 n).leftpad width '0'

/-- A hexadecimal whole number with its sign in front. -/
def signedHex (n : Int) : List Char :=
  if n < 0 then '-' :: hex n.natAbs else hex n.natAbs

theorem canonical_of_ascii {c : Char} (h : c.toNat < 127) : canonical c = c := by
  simp [canonical, h]

theorem map_canonical_of_ascii {text : List Char} (h : ∀ c ∈ text, c.toNat < 127) :
    text.map canonical = text := by
  induction text with
  | nil => rfl
  | cons c rest ih =>
    simp only [List.map_cons, canonical_of_ascii (h c (by simp)),
      ih fun d hd => h d (List.mem_cons_of_mem c hd)]

end OracleIndexer.Text.Numeral
