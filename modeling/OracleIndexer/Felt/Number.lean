import OracleIndexer.Conversion
import OracleIndexer.Text.HexWord
import OracleIndexer.Text.LowerCase
set_option autoImplicit false

/-!
# Felts as numbers

A felt arrives as a text, hexadecimal after the marker `0x` or else decimal, or as a number.  An
absent felt is zero.  Felts are compared by value, so padding and case do not matter.
-/

namespace OracleIndexer.Felt

/-- What a felt reads as.  A truth value stays one, and counts as zero or one. -/
inductive Number where
  | flag (value : Bool)
  | whole (value : Int)
  deriving DecidableEq, Repr, Inhabited

/-- The value of a number. -/
def Number.value : Number → Int
  | .flag b => if b then 1 else 0
  | .whole n => n

/-- The document of a number. -/
def Number.document : Number → Json
  | .flag b => .bool b
  | .whole n => .int n

/-- Text with its ASCII letters in lower case. -/
def lowered (text : List Char) : List Char := text.map Char.toLower

/-- The base of a numeral: sixteen after the marker, ten otherwise. -/
def baseOf (text : List Char) : Nat := if Text.HexWord.hasMarker text then 16 else 10

/-- Reads a felt's text, blanks around it and the case of its letters aside.  A text that is no
felt is told in lower case. -/
def ofText (text : List Char) : Outcome Int :=
  let trimmed := Text.trim text
  let digits := lowered trimmed
  Text.Numeral.convert (baseOf digits) digits (String.ofList (Text.lower trimmed))

/-- Reads a document as a felt. -/
def number : Json → Outcome Number
  | .null => .ok (.whole 0)
  | .bool b => .ok (.flag b)
  | .int n => .ok (.whole n)
  | other => do return .whole (← ofText (← other.asText).toList)

/-- The value of a document read as a felt. -/
def value (felt : Json) : Outcome Int := (number felt).map Number.value

/-- The number a document reads as, as a document. -/
def column (felt : Json) : Outcome Json := (number felt).map Number.document

/-- Whether a felt is zero. -/
def isZero (felt : Json) : Outcome Bool := (value felt).map (· == 0)

/-- Whether two felts have one value.  An absent felt equals none. -/
def same (a b : Json) : Outcome Bool :=
  match a, b with
  | .null, _ => .ok false
  | _, .null => .ok false
  | a, b => do
    let x ← value a
    let y ← value b
    return x == y

theorem number_text (s : String) : number (.text s) = (ofText s.toList).map .whole := by
  have hbind : ∀ f : String → Outcome Number, (Except.ok s >>= f) = f s := fun _ => rfl
  simp only [number, Json.asText_text, hbind]
  cases ofText s.toList <;> rfl

theorem value_text (s : String) : value (.text s) = ofText s.toList := by
  rw [value, number_text]
  cases ofText s.toList <;> rfl

@[simp] theorem value_int (n : Int) : value (.int n) = .ok n := rfl

end OracleIndexer.Felt
