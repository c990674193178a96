import OracleIndexer.Fault
import OracleIndexer.Text.HexWord
import OracleIndexer.Text.Surrogate
set_option autoImplicit false

/-!
# Reading documents

A reader of JSON text.  A number with neither point nor exponent is a whole number; the words `NaN`,
`Infinity` and `-Infinity` are numbers too.  Text holds no control characters; a sixteen-bit pair of
escapes stands for one character.  Of members with one key the last counts.  Besides text that is no
document the reader refuses, at the place where it meets them, a whole number that is too long, an
array or object below too many others, and half of a pair that an escape names alone.
-/

namespace OracleIndexer.Json

/-- The blanks between the parts of a document. -/
def isSpace (c : Char) : Bool := c == ' ' || c == '\t' || c == '\n' || c == '\r'

/-- Skips blanks. -/
def skip (text : List Char) : List Char := text.dropWhile isSpace

/-- What a two-character escape stands for. -/
def unescape? (c : Char) : Option Nat :=
  if c = '"' then some 34
  else if c = '\\' then some 92
  else if c = '/' then some 47
  else if c = 'b' then some 8
  else if c = 'f' then some 12
  else if c = 'n' then some 10
  else if c = 'r' then some 13
  else if c = 't' then some 9
  else none

/-- The code units of a text up to its closing quote, and what follows the quote. -/
def textUnits : List Char → Option (List Nat × List Char)
  | [] => none
  | '"' :: rest => some ([], rest)
  | '\\' :: 'u' :: a :: b :: c :: d :: rest =>
    match Text.HexWord.value? [a, b, c, d] with
    | none => none
    | some unit =>
      match textUnits rest with
      | none => none
      | some (units, after) => some (unit :: units, after)
  | '\\' :: e :: rest =>
    match unescape? e with
    | none => none
    | some unit =>
      match textUnits rest with
      | none => none
      | some (units, after) => some (unit :: units, after)
  | c :: rest =>
    if c.toNat < 32 ∨ c = '\\' then none
    else
      match textUnits rest with
      | none => none
      | some (units, after) => some (c.toNat :: units, after)

/-- A unit that opens a pair. -/
def isHighUnit (unit : Nat) : Bool := decide (0xD800 ≤ unit ∧ unit < 0xDC00)

/-- A unit that closes a pair. -/
def isLowUnit (unit : Nat) : Bool := decide (0xDC00 ≤ unit ∧ unit < 0xE000)

/-- The characters of code units, pairs joined; none where half of a pair stands alone. -/
def unitChars? : List Nat → Option (List Char)
  | [] => some []
  | [unit] => (Text.charOf? unit).map ([·])
  | high :: low :: rest =>
    if isHighUnit high && isLowUnit low then
      (unitChars? rest).map (Char.ofNat (0x10000 + (high - 0xD800) * 0x400 + (low - 0xDC00)) :: ·)
    else
      match Text.charOf? high with
      | some c => (unitChars? (low :: rest)).map (c :: ·)
      | none => none

/-- A text after its opening quote. -/
def readText (input : List Char) : Outcome (String × List Char) :=
  match textUnits input with
  | none => .error .notJson
  | some (units, after) =>
    match unitChars? units with
    | none => .error .loneHalf
    | some chars => .ok (String.ofList chars, after)

/-- The digits at the front of an input, and the rest. -/
def takeDigits (input : List Char) : List Char × List Char :=
  (input.takeWhile Text.isDecimalDigit, input.dropWhile Text.isDecimalDigit)

/-- The number that decimal digits denote. -/
def decimal (digits : List Char) : Nat :=
  digits.foldl (fun value c => value * 10 + (c.toNat - 48)) 0

/-- The digits before the point: a zero alone, or digits that start with no zero. -/
def wholePart : List Char → Option (List Char × List Char)
  | '0' :: rest => some (['0'], rest)
  | input =>
    match takeDigits input with
    | ([], _) => none
    | (digits, rest) => some (digits, rest)

/-- The digits after a point, if a point with digits follows. -/
def fractionPart : List Char → List Char × List Char
  | '.' :: rest =>
    match takeDigits rest with
    | ([], _) => ([], '.' :: rest)
    | (digits, after) => (digits, after)
  | input => ([], input)

/-- The sign and digits of an exponent after its mark. -/
def exponentDigits : List Char → Bool × List Char × List Char
  | '-' :: rest => (true, takeDigits rest)
  | '+' :: rest => (false, takeDigits rest)
  | input => (false, takeDigits input)

/-- The exponent, if a mark with digits follows. -/
def exponentPart (input : List Char) : Option Int × List Char :=
  match input with
  | mark :: rest =>
    if mark = 'e' ∨ mark = 'E' then
      match exponentDigits rest with
      | (_, [], _) => (none, input)
      | (negative, digits, after) =>
        let size : Int := decimal digits
        (some (if negative then -size else size), after)
    else (none, input)
  | [] => (none, [])

/-- A number without its sign. -/
def readNumber (negative : Bool) (input : List Char) : Outcome (Json × List Char) :=
  match wholePart input with
  | none => .error .notJson
  | some (whole, rest) =>
    let (fraction, rest) := fractionPart rest
    let (exponent, rest) := exponentPart rest
    if fraction.isEmpty && exponent.isNone then
      let size : Int := decimal whole
      if Text.Numeral.digitLimit < whole.length then .error (.value (.longNumeral whole.length))
      else .ok (.int (if negative then -size else size), rest)
    else
      let coefficient := decimal (whole ++ fraction)
      let power := exponent.getD 0 - fraction.length
      .ok (.float (Binary64.ofDecimal negative coefficient power), rest)

/-- Drops an expected word from the front. -/
def word? : List Char → List Char → Option (List Char)
  | [], input => some input
  | _ :: _, [] => none
  | e :: expected, c :: rest => if e = c then word? expected rest else none

/-- A word, and the value it stands for. -/
def readWord (word : String) (value : Json) (input : List Char) : Outcome (Json × List Char) :=
  match word? word.toList input with
  | some rest => .ok (value, rest)
  | none => .error .notJson

/-- A value that holds no other values. -/
def readScalar (input : List Char) : Outcome (Json × List Char) :=
  match input with
  | 'n' :: _ => readWord "null" .null input
  | 't' :: _ => readWord "true" (.bool true) input
  | 'f' :: _ => readWord "false" (.bool false) input
  | 'N' :: _ => readWord "NaN" (.float .notANumber) input
  | 'I' :: _ => readWord "Infinity" (.float (.infinite false)) input
  | '-' :: 'I' :: _ => readWord "-Infinity" (.float (.infinite true)) input
  | '-' :: rest => readNumber true rest
  | '"' :: rest => (readText rest).map fun (s, after) => (.text s, after)
  | _ => readNumber false input

mutual

/-- The value at the front of an input, in which so many arrays and objects may lie in one another;
`depth` bounds the number of nested calls. -/
def readValue (levels : Nat) : Nat → List Char → Outcome (Json × List Char)
  | 0, _ => .error .notJson
  | depth + 1, input =>
    match input with
    | '[' :: rest =>
      match levels with
      | 0 => .error .tooDeep
      | inner + 1 =>
        match skip rest with
        | ']' :: after => .ok (.array [], after)
        | items => (readItems inner depth items).map fun (values, after) => (.array values, after)
    | '{' :: rest =>
      match levels with
      | 0 => .error .tooDeep
      | inner + 1 =>
        match skip rest with
        | '}' :: after => .ok (.object [], after)
        | members =>
          (readMembers inner depth members).map fun (pairs, after) => (objectOf pairs, after)
    | _ => readScalar input

/-- One or more items up to the closing bracket. -/
def readItems (levels : Nat) : Nat → List Char → Outcome (List Json × List Char)
  | 0, _ => .error .notJson
  | depth + 1, input => do
    let (value, rest) ← readValue levels depth input
    match skip rest with
    | ']' :: after => return ([value], after)
    | ',' :: more =>
      let (values, after) ← readItems levels depth (skip more)
      return (value :: values, after)
    | _ => .error .notJson

/-- One or more members up to the closing brace. -/
def readMembers (levels : Nat) : Nat → List Char → Outcome (List (String × Json) × List Char)
  | 0, _ => .error .notJson
  | depth + 1, input =>
    match input with
    | '"' :: quoted => do
      let (key, rest) ← readText quoted
      match skip rest with
      | ':' :: rest =>
        let (value, rest) ← readValue levels depth (skip rest)
        match skip rest with
        | '}' :: after => return ([(key, value)], after)
        | ',' :: more =>
          let (pairs, after) ← readMembers levels depth (skip more)
          return ((key, value) :: pairs, after)
        | _ => .error .notJson
      | _ => .error .notJson
    | _ => .error .notJson

end

/-- Reads a whole text as one document, in which so many arrays and objects may lie in one another.
Every nested call has consumed a character, so twice the length bounds the depth. -/
def read (levels : Nat) (input : List Char) : Outcome Json := do
  let (value, rest) ← readValue levels (2 * input.length + 2) (skip input)
  if (skip rest).isEmpty then return value else .error .notJson

/-- Reads a string as one document. -/
def parse (levels : Nat) (s : String) : Outcome Json := read levels s.toList

end OracleIndexer.Json
