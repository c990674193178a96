import OracleIndexer.Calendar
import OracleIndexer.Felt.Number
set_option autoImplicit false

/-!
# Timestamps

Instants of the years 1 to 9999 in universal time, counted in milliseconds from the start of 1970
and written as date and time of day with three decimal places.
-/

namespace OracleIndexer.Timestamp

/-- The milliseconds of a day. -/
def dayMillis : Nat := 86400000

/-- The milliseconds from the start of the year 1 to the start of 1970. -/
def epochMillis : Nat := 62135596800000

/-- The milliseconds from the start of the year 1 to the end of the year 9999. -/
def endMillis : Nat := 315537897600000

/-- A time of day with three decimal places. -/
def timeDigits (millis : Nat) : List Char :=
  Text.Numeral.paddedDecimal 2 (millis / 3600000) ++ ':' ::
    Text.Numeral.paddedDecimal 2 (millis / 60000 % 60) ++ ':' ::
    Text.Numeral.paddedDecimal 2 (millis / 1000 % 60) ++ '.' ::
    Text.Numeral.paddedDecimal 3 (millis % 1000)

/-- The text of an instant counted from the start of the year 1. -/
def digits (millis : Nat) : List Char :=
  (Date.ofDay (millis / dayMillis)).digits ++ 'T' :: timeDigits (millis % dayMillis) ++ ['Z']

/-- The text of an instant counted in milliseconds from the start of 1970, if it lies in range. -/
def ofMillis? (millis : Int) : Option (List Char) :=
  let sinceYearOne := millis + epochMillis
  if 0 ≤ sinceYearOne ∧ sinceYearOne < endMillis then some (digits sinceYearOne.toNat) else none

/-- The text of an instant counted in seconds from the start of 1970, if it lies in range. -/
def ofSeconds? (seconds : Int) : Option (List Char) := ofMillis? (1000 * seconds)

/-- Reads a felt and writes the instant that it counts. -/
def column (write? : Int → Option (List Char)) (felt : Json) : Outcome String := do
  match write? (← Felt.value felt) with
  | some chars => return String.ofList chars
  | none => .error (Fault.raised (.value (.timestampRange felt)))

/-- The text of a felt that counts seconds. -/
def ofSeconds (felt : Json) : Outcome String := column ofSeconds? felt

/-- The text of a felt that counts milliseconds. -/
def ofMillis (felt : Json) : Outcome String := column ofMillis? felt

end OracleIndexer.Timestamp
