import OracleIndexer.Fault
set_option autoImplicit false

/-!
# Record counts

The count at the head of a feed message, in one of two radices.  A decimal count is made of ASCII
digits alone; a hexadecimal one is any numeral of base sixteen.
-/

namespace OracleIndexer.Feed

/-- The radix of a record count. -/
inductive CountRadix where
  | decimal
  | hex
  deriving DecidableEq, Repr, Inhabited

namespace CountRadix

/-- The name of a radix in configurations. -/
def name : CountRadix → String
  | .decimal => "decimal"
  | .hex => "hex"

/-- All radices. -/
def all : List CountRadix := [.decimal, .hex]

/-- The radix with a name. -/
def ofName? (s : String) : Option CountRadix := all.find? fun r => r.name == s

/-- Reads a count. -/
def read (radix : CountRadix) (text : List Char) : Except CodecFault Int :=
  match radix with
  | .decimal =>
    if !text.isEmpty && text.all Text.isDecimalDigit then
      .ok (text.foldl (fun value c => value * 10 + (c.toNat - 48)) 0 : Nat)
    else .error (.countNotDecimal (String.ofList text))
  | .hex =>
    match Text.Numeral.read 16 text with
    | some n => .ok n
    | none => .error (.countNotHex (String.ofList text))

@[simp] theorem ofName?_name (r : CountRadix) : ofName? r.name = some r := by
  cases r <;> decide

end CountRadix

end OracleIndexer.Feed
