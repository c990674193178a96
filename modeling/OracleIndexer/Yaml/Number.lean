import OracleIndexer.Binary64
import OracleIndexer.Conversion
import OracleIndexer.Text.HexWord
set_option autoImplicit false

/-!
# Numbers

Which plain texts are numbers, and the numbers that texts denote.  Underscores do not count.  A
number may be written in base sixty, its places separated by colons.  Text that is tagged as a
number need not be one by its looks: each of its parts is read as numerals are, with blanks and a
sign of its own.
-/

namespace OracleIndexer.Yaml.Number

/-- Drops one sign from the front. -/
def unsigned : List Char → List Char
  | '-' :: rest => rest
  | '+' :: rest => rest
  | text => text

/-- Whether a text starts with a minus. -/
def isNegative (text : List Char) : Bool := text.head? == some '-'

/-- A digit or an underscore. -/
def isDigitOrUnderscore (c : Char) : Bool := Text.isDecimalDigit c || c == '_'

/-- One place of base sixty: one digit, or two of which the first is below six. -/
def isPlace : List Char → Bool
  | [d] => Text.isDecimalDigit d
  | [c, d] => decide ('0' ≤ c ∧ c ≤ '5') && Text.isDecimalDigit d
  | _ => false

/-- The parts of a text between colons. -/
def places (text : List Char) : List (List Char) := text.splitOn ':'

/-- Digits of which the first is no underscore. -/
def isCount : List Char → Bool
  | [] => false
  | c :: rest => Text.isDecimalDigit c && rest.all isDigitOrUnderscore

/-- Digits of which the first is neither underscore nor zero. -/
def isPositiveCount (text : List Char) : Bool := isCount text && text.head? != some '0'

/-- Whether plain text is a whole number. -/
def isWhole (text : List Char) : Bool :=
  match unsigned text with
  | '0' :: rest =>
    match rest with
    | [] => true
    | 'b' :: c :: digits => (c :: digits).all fun d => d == '0' || d == '1' || d == '_'
    | 'x' :: c :: digits => (c :: digits).all fun d => Text.isHexDigit d || d == '_'
    | digits => digits.all fun d => decide ('0' ≤ d ∧ d ≤ '7') || d == '_'
  | digits =>
    match places digits with
    | first :: more => isPositiveCount first && more.all isPlace
    | [] => false

/-- Whether a text is an exponent with its mark and sign, or empty. -/
def isExponent : List Char → Bool
  | [] => true
  | mark :: sign :: c :: digits =>
    (mark == 'e' || mark == 'E') && (sign == '-' || sign == '+')
      && (c :: digits).all Text.isDecimalDigit
  | _ => false

/-- Whether a text is the rest of a fraction after its point. -/
def isFraction (text : List Char) : Bool :=
  isExponent (text.dropWhile isDigitOrUnderscore)

/-- Whether a text has digits before a point, in base sixty where there are several places. -/
def isPointed (text : List Char) : Bool :=
  let whole := text.takeWhile (· != '.')
  match text.drop whole.length with
  | [] => false
  | _ :: fraction =>
    match places whole with
    | [count] => isCount count && isFraction fraction
    | count :: more => isCount count && more.all isPlace && fraction.all isDigitOrUnderscore
    | [] => false

/-- The words for infinity after a point. -/
def infinityWords : List (List Char) := [['i', 'n', 'f'], ['I', 'n', 'f'], ['I', 'N', 'F']]

/-- The words for an undefined number after a point. -/
def undefinedWords : List (List Char) := [['n', 'a', 'n'], ['N', 'a', 'N'], ['N', 'A', 'N']]

/-- Whether plain text is a floating-point number. -/
def isPointNumber (text : List Char) : Bool :=
  match unsigned text with
  | '.' :: rest =>
    infinityWords.contains rest
      || (text.head? == some '.' && (undefinedWords.contains rest
        || (rest.head?.any Text.isDecimalDigit && isFraction rest)))
  | digits => isPointed digits

/-- A text without its underscores. -/
def withoutUnderscores (text : List Char) : List Char := text.filter (· != '_')

/-- What follows the sign of a number, and whether that is a minus.  A text without a character is
no number. -/
def signed : List Char → Outcome (Bool × List Char)
  | [] => .error .emptyNumber
  | '-' :: rest => .ok (true, rest)
  | '+' :: rest => .ok (false, rest)
  | text => .ok (false, text)

/-! ## Whole numbers -/

/-- A whole number in some base. -/
def numeral (base : Nat) (text : List Char) : Outcome Int :=
  Text.Numeral.convert base text (String.ofList text)

/-- The number that places of base sixty denote, after a value so far. -/
def sexagesimal (value : Int) : List (List Char) → Outcome Int
  | [] => .ok value
  | place :: rest => do
    let n ← numeral 10 place
    sexagesimal (value * 60 + n) rest

/-- A whole number behind its sign: binary after `0b`, hexadecimal after `0x`, octal after another
zero, in base sixty with colons, and decimal otherwise. -/
def unsignedWhole : List Char → Outcome Int
  | [] => .error .emptyNumber
  | ['0'] => .ok 0
  | '0' :: 'b' :: digits => numeral 2 digits
  | '0' :: 'x' :: digits => numeral 16 digits
  | '0' :: digits => numeral 8 ('0' :: digits)
  | digits => if digits.contains ':' then sexagesimal 0 (places digits) else numeral 10 digits

/-- The whole number that a text denotes. -/
def whole (text : List Char) : Outcome Int := do
  let (negative, digits) ← signed (withoutUnderscores text)
  let n ← unsignedWhole digits
  return if negative then -n else n

/-! ## Floating-point numbers -/

/-- The number that digits of a base denote; there must be some. -/
def digitsValue (base : Nat) (digits : List Char) : Option Nat :=
  if digits.isEmpty then none else Text.HexWord.valueFrom base 0 digits

/-- The exponent that a text after the digits of a decimal denotes. -/
def exponent? : List Char → Option Int
  | [] => some 0
  | mark :: digits =>
    if mark == 'e' then
      (digitsValue 10 (unsigned digits)).map fun n => if isNegative digits then -(n : Int) else n
    else none

/-- The coefficient and the power of ten of a decimal. -/
def decimal? (text : List Char) : Option (Nat × Int) :=
  let whole := text.takeWhile Text.isDecimalDigit
  let rest := text.drop whole.length
  let fraction := match rest with
    | '.' :: more => more.takeWhile Text.isDecimalDigit
    | _ => []
  let rest := match rest with
    | '.' :: more => more.drop fraction.length
    | other => other
  match digitsValue 10 (whole ++ fraction), exponent? rest with
  | some coefficient, some exponent => some (coefficient, exponent - fraction.length)
  | _, _ => none

/-- The words for infinity and for an undefined number, and decimals, all in lower case and with an
optional sign. -/
def floating? (text : List Char) : Option Binary64 :=
  let negative := isNegative text
  match unsigned text with
  | ['i', 'n', 'f'] | ['i', 'n', 'f', 'i', 'n', 'i', 't', 'y'] => some (.infinite negative)
  | ['n', 'a', 'n'] => some .notANumber
  | digits =>
    (decimal? digits).map fun (coefficient, power) => .ofDecimal negative coefficient power

/-- A floating-point number between blanks, with the digits of any script. -/
def floating (text : List Char) : Outcome Binary64 :=
  match floating? (Text.trimBy Text.isAsciiBlank (text.map Text.Numeral.canonical)) with
  | some x => .ok x
  | none => .error (.value (.notNumeral 10 (String.ofList text)))

/-- The sum of places of base sixty, the last one first, each rounded on its own.  `base` is what
the next one counts. -/
def placesSum (sum : Binary64) (base : Nat) : List Binary64 → Outcome Binary64
  | [] => .ok sum
  | place :: rest =>
    match Binary64.ofNat? base with
    | some factor => placesSum (sum.add (place.mul factor)) (base * 60) rest
    | none => .error .tooLarge

/-- A floating-point number behind its sign, in lower case. -/
def unsignedPoint : List Char → Outcome Binary64
  | ['.', 'i', 'n', 'f'] => .ok (.infinite false)
  | ['.', 'n', 'a', 'n'] => .ok .notANumber
  | digits =>
    if digits.contains ':' then do
      let parts ← (places digits).mapM floating
      placesSum (.finite false 0 Binary64.minExponent) 1 parts.reverse
    else floating digits

/-- The floating-point number that a text denotes. -/
def point (text : List Char) : Outcome Binary64 := do
  let (negative, digits) ← signed ((withoutUnderscores text).map Char.toLower)
  let x ← unsignedPoint digits
  return if negative then x.neg else x

end OracleIndexer.Yaml.Number
