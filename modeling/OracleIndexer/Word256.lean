import OracleIndexer.Conversion
import OracleIndexer.Text.HexWord
set_option autoImplicit false

/-!
# 256-bit words

Unsigned words of 256 bits.  An operation whose exact result does not fit is refused; nothing wraps.
The refusal tells the number that does not fit, so it becomes another where that cannot be written.
A word is read from one to sixty-four hexadecimal digits and written with sixty-four.
-/

namespace OracleIndexer

/-- A number below `2 ^ 256`. -/
structure Word256 where
  toNat : Nat
  isLt : toNat < 1 <<< 256
  deriving DecidableEq, Repr

instance : Inhabited Word256 := ⟨⟨0, by decide⟩⟩

/-- Reads a hex word of any width, or of at most `limit` digits. -/
def parseHex (limit : Option Int) (s : String) : Except CodecFault Nat :=
  let digits := Text.HexWord.digitsOf s.toList
  match Text.HexWord.value? digits with
  | none => .error (.notHexWord s)
  | some n =>
    if digits.isEmpty then .error (.notHexWord s)
    else match limit with
      | none => .ok n
      | some most =>
        if most < digits.length then .error (.wideHexWord most s) else .ok n

/-- The result of an operation of the codec, once its refusal is worded. -/
def CodecFault.raise {α : Type} (result : Except CodecFault α) : Outcome α :=
  result.mapError fun fault => Fault.raised (.codec fault)

/-- Reads a document as a hex word; only texts are read. -/
def parseHexDocument (limit : Option Int) (value : Json) : Outcome Nat :=
  CodecFault.raise <|
    match value with
    | .text s => parseHex limit s
    | other => .error (.notText other.kindName)

namespace Word256

/-- The word of a number that must be in range. -/
def inRange (n : Int) : Except CodecFault Word256 :=
  if h : 0 ≤ n ∧ n < (1 <<< 256 : Nat) then .ok ⟨n.toNat, by omega⟩
  else .error (.outOfRange n)

/-- The word of a number in range. -/
def ofInt (n : Int) : Outcome Word256 := CodecFault.raise (inRange n)

/-- The word of a document that is a whole number in range. -/
def ofDocument : Json → Outcome Word256
  | .int n => ofInt n
  | other => .error (.codec (.notWhole other.kindName))

/-- Reads a word of one to sixty-four hexadecimal digits. -/
def ofHex (s : String) : Except CodecFault Word256 :=
  (parseHex (some 64) s).bind fun n => inRange n

/-- Reads a document as a word of one to sixty-four hexadecimal digits. -/
def ofHexDocument (value : Json) : Outcome Word256 := do
  ofInt (← parseHexDocument (some 64) value)

/-- The sixty-four hexadecimal digits of a word. -/
def digits (w : Word256) : List Char := Text.Numeral.paddedHex 64 w.toNat

/-- The sixty-four hexadecimal digits of a word, as a string. -/
def hex (w : Word256) : String := String.ofList w.digits

/-- The digits of a word after the marker `0x`. -/
def markedHex (w : Word256) : String := String.ofList ('0' :: 'x' :: w.digits)

/-- A word in decimal. -/
def decimal (w : Word256) : String := toString w.toNat

/-- A word with its kind, as listings show it. -/
def shown (w : Word256) : String := s!"U256({w.markedHex})"

/-- The lower and upper 128 bits. -/
def halves (w : Word256) : Nat × Nat := (w.toNat % (1 <<< 128), w.toNat / (1 <<< 128))

/-- The word made of a lower and an upper half, the lower one being examined first. -/
def ofHalves (low high : Int) : Outcome Word256 :=
  if low < 0 ∨ (1 <<< 128 : Nat) ≤ low then
    .error (Fault.raised (.codec (.halfOutOfRange .low low)))
  else if high < 0 ∨ (1 <<< 128 : Nat) ≤ high then
    .error (Fault.raised (.codec (.halfOutOfRange .high high)))
  else ofInt (high * (1 <<< 128 : Nat) + low)

/-- Shift towards the low end. -/
def shiftRight (w : Word256) : Int → Outcome Word256
  | .ofNat n => ofInt ((w.toNat >>> n : Nat) : Int)
  | .negSucc _ => .error (.codec .negativeShift)

/-- The number of places from which on no storage holds a shifted word. -/
def storagePlaces : Nat := 1 <<< 63

/-- Shift towards the high end.  The result must be stored before it is found not to fit. -/
def shiftLeft (w : Word256) : Int → Outcome Word256
  | .ofNat n =>
    if storagePlaces ≤ n ∧ w.toNat ≠ 0 then .error .tooLarge
    else ofInt ((w.toNat <<< n : Nat) : Int)
  | .negSucc _ => .error (.codec .negativeShift)

/-- The bits that a word has in common with a number in range. -/
def and (w : Word256) (mask : Int) : Outcome Word256 :=
  (ofInt mask).bind fun m => ofInt ((w.toNat &&& m.toNat : Nat) : Int)

/-- The bits of a word together with those of a number in range. -/
def or (w : Word256) (other : Int) : Outcome Word256 :=
  (ofInt other).bind fun m => ofInt ((w.toNat ||| m.toNat : Nat) : Int)

/-- What an operation on words takes: a word, or a document to be read as a number. -/
inductive Operand where
  | word (w : Word256)
  | document (value : Json)

/-- The number of an operand.  A text is read as a hex word of any width. -/
def Operand.number : Operand → Except CodecFault Int
  | .word w => .ok w.toNat
  | .document (.bool _) => .error .boolOperand
  | .document (.int n) => .ok n
  | .document (.text s) => (parseHex none s).map Int.ofNat
  | .document other => .error (.badOperand other.kindName)

/-- The word made of two operands; both are read before either is checked. -/
def compose (low high : Operand) : Outcome Word256 := do
  let lo ← low.number.mapError .codec
  let hi ← high.number.mapError .codec
  ofHalves lo hi

theorem ext_toNat {v w : Word256} (h : v.toNat = w.toNat) : v = w := by
  cases v; cases w; simp_all

theorem inRange_natCast {n : Nat} (h : n < 1 <<< 256) : inRange (n : Int) = .ok ⟨n, h⟩ := by
  have range : (0 : Int) ≤ n ∧ (n : Int) < (1 <<< 256 : Nat) := by
    constructor
    · omega
    · exact_mod_cast h
  unfold inRange
  rw [dif_pos range]
  rfl

theorem ofInt_natCast {n : Nat} (h : n < 1 <<< 256) : ofInt (n : Int) = .ok ⟨n, h⟩ := by
  rw [ofInt, inRange_natCast h]
  rfl

end Word256

end OracleIndexer
