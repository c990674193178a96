import OracleIndexer.Calendar
set_option autoImplicit false

/-!
# Dates and times

Which texts are dates, or dates with a time of day, whether what they name exists, and which of them
are one instant.
-/

namespace OracleIndexer.Yaml

/-- A time of day, and the minutes by which its zone is ahead of universal time if one is given. -/
structure TimeOfDay where
  hour : Nat
  minute : Nat
  second : Nat
  microsecond : Nat
  zone : Option Int
  deriving DecidableEq, Repr, Inhabited

/-- A date, with a time of day if one is given. -/
structure Instant where
  date : Date
  time : Option TimeOfDay
  deriving DecidableEq, Repr, Inhabited

namespace Instant

/-! ## Reading -/

/-- The number that decimal digits denote. -/
def value (digits : List Char) : Nat := digits.foldl (fun n c => n * 10 + (c.toNat - 48)) 0

/-- Between `least` and `most` digits at the front of a text, and what follows them. -/
def number? (least most : Nat) (text : List Char) : Option (Nat × List Char) :=
  let digits := (text.take most).takeWhile Text.isDecimalDigit
  if least ≤ digits.length then some (value digits, text.drop digits.length) else none

/-- What follows an expected character. -/
def after? (c : Char) : List Char → Option (List Char)
  | d :: rest => if d = c then some rest else none
  | [] => none

/-- A blank or a tab. -/
def isBlank (c : Char) : Bool := c == ' ' || c == '\t'

/-- The hours and minutes of a zone's distance up to the end of the text. -/
def distance? (text : List Char) : Option Int :=
  match number? 1 2 text with
  | some (hour, []) => some (hour * 60 : Nat)
  | some (hour, ':' :: rest) =>
    match number? 2 2 rest with
    | some (minute, []) => some (hour * 60 + minute : Nat)
    | _ => none
  | _ => none

/-- A zone up to the end of the text, which may be missing. -/
def zone? (text : List Char) : Option (Option Int) :=
  match text.dropWhile isBlank with
  | [] => if text.isEmpty then some none else none
  | ['Z'] => some (some 0)
  | '+' :: rest => (distance? rest).map some
  | '-' :: rest => (distance? rest).map fun minutes => some (-minutes)
  | _ => none

/-- The microseconds of a fraction of a second, further digits being dropped, and what follows. -/
def fraction : List Char → Nat × List Char
  | '.' :: rest =>
    let digits := rest.takeWhile Text.isDecimalDigit
    (value ((digits.take 6).rightpad 6 '0'), rest.drop digits.length)
  | text => (0, text)

/-- A time of day up to the end of the text. -/
def time? (text : List Char) : Option TimeOfDay := do
  let (hour, rest) ← number? 1 2 text
  let (minute, rest) ← number? 2 2 (← after? ':' rest)
  let (second, rest) ← number? 2 2 (← after? ':' rest)
  let (microsecond, rest) := fraction rest
  let zone ← zone? rest
  return { hour, minute, second, microsecond, zone }

/-- What follows the letter or the blanks between a date and a time of day. -/
def separator? : List Char → Option (List Char)
  | c :: rest =>
    if c = 'T' ∨ c = 't' then some rest
    else if isBlank c then some (rest.dropWhile isBlank)
    else none
  | [] => none

/-- A date, and what follows it. -/
def date? (text : List Char) : Option (Date × List Char) := do
  let (year, rest) ← number? 4 4 text
  let (month, rest) ← number? 1 2 (← after? '-' rest)
  let (day, rest) ← number? 1 2 (← after? '-' rest)
  return (⟨year, month, day⟩, rest)

/-- The instant that a text names. -/
def ofText? (text : List Char) : Option Instant := do
  let (date, rest) ← date? text
  if rest.isEmpty then return { date, time := none }
  else
    let time ← time? (← separator? rest)
    return { date, time := some time }

/-- Whether a text looks like an instant.  Month and day of a date alone must have two digits
each. -/
def isPlain (text : List Char) : Bool :=
  match ofText? text with
  | some instant => instant.time.isSome || text.length == 10
  | none => false

/-! ## Existence and identity -/

/-- The minutes of a day. -/
def minutesOfDay : Nat := 1440

/-- Whether a time of day exists, and its zone is less than a day from universal time. -/
def isTime (time : TimeOfDay) : Bool :=
  decide (time.hour < 24 ∧ time.minute < 60 ∧ time.second < 60)
    && time.zone.all fun zone => decide (zone.natAbs < minutesOfDay)

/-- Whether an instant exists. -/
def isValid (instant : Instant) : Bool := instant.date.isValid && instant.time.all isTime

/-- The microseconds from the start of the calendar to a date and a time of day in a zone. -/
def microseconds (date : Date) (time : TimeOfDay) (zone : Int) : Int :=
  let minutes : Int := (date.toDay * minutesOfDay + time.hour * 60 + time.minute : Nat) - zone
  minutes * 60000000 + (time.second * 1000000 + time.microsecond : Nat)

/-- Whether two instants are one.  Times with a zone are one if they are at the same moment; without
a zone on both sides, or without a time of day, the fields decide. -/
def same (a b : Instant) : Bool :=
  match a.time, b.time with
  | some s, some t =>
    match s.zone, t.zone with
    | some zone, some other => microseconds a.date s zone == microseconds b.date t other
    | _, _ => a == b
  | _, _ => a == b

/-! ## Writing -/

/-- Numbers between commas. -/
def commas (numbers : List Nat) : String := ", ".intercalate (numbers.map toString)

/-- The distance of a zone from universal time, as days before and seconds after. -/
def zoneText (zone : Int) : String :=
  if zone = 0 then "datetime.timezone.utc"
  else
    let seconds := zone.natAbs * 60
    let distance := if zone < 0 then s!"days=-1, seconds={minutesOfDay * 60 - seconds}"
      else s!"seconds={seconds}"
    s!"datetime.timezone(datetime.timedelta({distance}))"

/-- The fields of a time of day: seconds and microseconds only where one of them is not zero. -/
def fields (time : TimeOfDay) : List Nat :=
  [time.hour, time.minute]
    ++ (if time.microsecond ≠ 0 then [time.second, time.microsecond]
      else if time.second ≠ 0 then [time.second] else [])

/-- The text of an instant. -/
def shown (instant : Instant) : String :=
  let date := [instant.date.year, instant.date.month, instant.date.day]
  match instant.time with
  | none => s!"datetime.date({commas date})"
  | some time =>
    let zone := match time.zone with
      | some zone => s!", tzinfo={zoneText zone}"
      | none => ""
    s!"datetime.datetime({commas (date ++ fields time)}{zone})"

end Instant

end OracleIndexer.Yaml
