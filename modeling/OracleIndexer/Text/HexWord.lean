import OracleIndexer.Text.Digit
set_option autoImplicit false

/-!
# Hex words

Plain hexadecimal words: an optional `0x`, then ASCII hexadecimal digits and nothing else.  Also the
lower-case marker alone, which other formats drop without looking at what follows.
-/

namespace OracleIndexer.Text.HexWord

/-- Drops the marker `0x` or `0X` once. -/
def digitsOf : List Char → List Char
  | '0' :: 'x' :: rest => rest
  | '0' :: 'X' :: rest => rest
  | text => text

/-- Drops the lower-case marker `0x` once. -/
def dropMarker : List Char → List Char
  | '0' :: 'x' :: rest => rest
  | text => text

/-- Whether text starts with the lower-case marker. -/
def hasMarker : List Char → Bool
  | '0' :: 'x' :: _ => true
  | _ => false

/-- The number that digits of a base denote, most significant first; `none` when one is no digit. -/
def valueFrom (base start : Nat) : List Char → Option Nat
  | [] => some start
  | c :: rest =>
    match digitValue? base c with
    | some d => valueFrom base (start * base + d) rest
    | none => none

/-- The number that hexadecimal digits denote. -/
def value? (digits : List Char) : Option Nat := valueFrom 16 0 digits

@[simp] theorem dropMarker_marked (rest : List Char) :
    dropMarker ('0' :: 'x' :: rest) = rest := rfl

@[simp] theorem hasMarker_marked (rest : List Char) :
    hasMarker ('0' :: 'x' :: rest) = true := rfl

end OracleIndexer.Text.HexWord
