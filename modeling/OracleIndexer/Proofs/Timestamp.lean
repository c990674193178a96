import OracleIndexer.Proofs.Calendar
import OracleIndexer.Proofs.Conversion
import OracleIndexer.Proofs.Text.FixedWidth
import OracleIndexer.Timestamp
set_option autoImplicit false

/-!
# Timestamps and instants

A timestamp is read by the places of its fixed form, and denotes an instant by counting the days of
the calendar and the time of day.  The timestamp of a count of milliseconds denotes exactly that
count, so timestamps stand in the order of their instants, whichever unit they were counted in.
-/

namespace OracleIndexer.Timestamp

open Text (FixedWidth)

/-! ## Moments -/

/-- A date and a time of day. -/
structure Moment where
  date : Date
  hour : Nat
  minute : Nat
  second : Nat
  milli : Nat
  deriving DecidableEq, Repr

namespace Moment

/-- The start of the year 1970. -/
def epoch : Moment := ⟨⟨1970, 1, 1⟩, 0, 0, 0, 0⟩

/-- A time on a day that exists. -/
structure Exists (moment : Moment) : Prop where
  date : moment.date.isValid = true
  hour : moment.hour < 24
  minute : moment.minute < 60
  second : moment.second < 60
  milli : moment.milli < 1000

/-- The milliseconds from the start of the year 1 to a moment. -/
def millis (moment : Moment) : Nat :=
  (((moment.date.elapsed * 24 + moment.hour) * 60 + moment.minute) * 60 + moment.second) * 1000
    + moment.milli

theorem millis_epoch : epoch.millis = epochMillis := by
  have hyears : Date.daysOfYears 1970 = 719162 := by
    rw [← Date.daysBeforeYear_eq (by decide)]
    rfl
  simp only [millis, epoch, Date.elapsed, hyears]
  rfl

/-- The earlier time of day. -/
def timeLt (x y : Moment) : Prop :=
  x.hour < y.hour ∨ (x.hour = y.hour ∧ (x.minute < y.minute ∨ (x.minute = y.minute ∧
    (x.second < y.second ∨ (x.second = y.second ∧ x.milli < y.milli)))))

/-- The earlier moment, by date and time of day. -/
def lt (x y : Moment) : Prop := x.date.lt y.date ∨ (x.date = y.date ∧ x.timeLt y)

theorem lt_or_eq_or_gt (x y : Moment) : x.lt y ∨ x = y ∨ y.lt x := by
  rcases Date.lt_or_eq_or_gt x.date y.date with hlt | heq | hgt
  · exact .inl (.inl hlt)
  · have htime : x.timeLt y ∨ (x.hour = y.hour ∧ x.minute = y.minute ∧ x.second = y.second ∧
        x.milli = y.milli) ∨ y.timeLt x := by
      simp only [timeLt]
      omega
    rcases htime with hlt | ⟨hhour, hminute, hsecond, hmilli⟩ | hgt
    · exact .inl (.inr ⟨heq, hlt⟩)
    · cases x
      cases y
      exact .inr (.inl (by simp_all))
    · exact .inr (.inr (.inr ⟨heq.symm, hgt⟩))
  · exact .inr (.inr (.inl hgt))

/-- Of two moments the one with the smaller count is the earlier one. -/
theorem lt_of_millis_lt {x y : Moment} (hx : x.Exists) (hy : y.Exists)
    (h : x.millis < y.millis) : x.lt y := by
  obtain ⟨hxDate, hxHour, hxMinute, hxSecond, hxMilli⟩ := hx
  obtain ⟨hyDate, hyHour, hyMinute, hySecond, hyMilli⟩ := hy
  simp only [millis] at h
  rcases Nat.lt_or_ge x.date.elapsed y.date.elapsed with hday | hday
  · exact .inl (Date.lt_of_elapsed_lt hxDate hyDate hday)
  · have hsame : x.date.elapsed = y.date.elapsed := by omega
    refine .inr ⟨Date.eq_of_elapsed_eq hxDate hyDate hsame, ?_⟩
    simp only [timeLt]
    omega

end Moment

/-! ## Reading a timestamp -/

/-- Texts of the form `YYYY-MM-DDTHH:MM:SS.mmmZ`, with the moments that their places tell. -/
inductive Shows : List Char → Moment → Prop
  | places {year month day hour minute second milli : Nat} {y o d h m s f : List Char}
    (hyear : FixedWidth 4 year y) (hmonth : FixedWidth 2 month o) (hday : FixedWidth 2 day d)
    (hhour : FixedWidth 2 hour h) (hminute : FixedWidth 2 minute m)
    (hsecond : FixedWidth 2 second s) (hmilli : FixedWidth 3 milli f) :
    Shows (y ++ '-' :: (o ++ '-' :: (d ++ 'T' :: (h ++ ':' :: (m ++ ':' :: (s ++ '.' ::
        (f ++ ['Z'])))))))
      ⟨⟨year, month, day⟩, hour, minute, second, milli⟩

/-- Timestamps stand in the order of their moments. -/
theorem Shows.lt_iff {text other : List Char} {x y : Moment} (hx : Shows text x)
    (hy : Shows other y) : text < other ↔ x.lt y := by
  obtain ⟨hyear, hmonth, hday, hhour, hminute, hsecond, hmilli⟩ := hx
  obtain ⟨hyear', hmonth', hday', hhour', hminute', hsecond', hmilli'⟩ := hy
  simp only [FixedWidth.append_lt_append_iff hyear hyear',
    FixedWidth.append_lt_append_iff hmonth hmonth', FixedWidth.append_lt_append_iff hday hday',
    FixedWidth.append_lt_append_iff hhour hhour', FixedWidth.append_lt_append_iff hminute hminute',
    FixedWidth.append_lt_append_iff hsecond hsecond',
    FixedWidth.append_lt_append_iff hmilli hmilli', List.cons_lt_cons_self, List.lt_irrefl,
    and_false, or_false, Moment.lt, Moment.timeLt, Date.lt, Date.mk.injEq, and_or_left, and_assoc,
    or_assoc]

/-- A timestamp tells one moment. -/
theorem Shows.unique {text : List Char} {x y : Moment} (hx : Shows text x) (hy : Shows text y) :
    x = y := by
  rcases Moment.lt_or_eq_or_gt x y with hlt | heq | hgt
  · exact absurd ((hx.lt_iff hy).mpr hlt) (List.lt_irrefl text)
  · exact heq
  · exact absurd ((hy.lt_iff hx).mpr hgt) (List.lt_irrefl text)

/-! ## Writing a timestamp -/

/-- The moment of a count of milliseconds from the start of the year 1. -/
def Moment.ofMillis (millis : Nat) : Moment where
  date := Date.ofDay (millis / dayMillis)
  hour := millis % dayMillis / 3600000
  minute := millis % dayMillis / 60000 % 60
  second := millis % dayMillis / 1000 % 60
  milli := millis % dayMillis % 1000

theorem Moment.millis_ofMillis (millis : Nat) : (Moment.ofMillis millis).millis = millis := by
  simp only [Moment.millis, Moment.ofMillis, Date.elapsed_ofDay, dayMillis]
  omega

theorem Moment.exists_ofMillis {millis : Nat} (h : millis < endMillis) :
    (Moment.ofMillis millis).Exists where
  date := Date.isValid_ofDay (by simp only [endMillis, dayMillis] at h ⊢; omega)
  hour := by simp only [Moment.ofMillis, dayMillis]; omega
  minute := Nat.mod_lt _ (by decide)
  second := Nat.mod_lt _ (by decide)
  milli := Nat.mod_lt _ (by decide)

/-- A count is written as its moment shows. -/
theorem shows_digits {millis : Nat} (h : millis < endMillis) :
    Shows (digits millis) (Moment.ofMillis millis) := by
  obtain ⟨hdate, hhour, hminute, hsecond, hmilli⟩ := Moment.exists_ofMillis h
  obtain ⟨hyear, hmonth, hday⟩ := Date.lt_of_isValid hdate
  simp only [digits, Date.digits, timeDigits, List.append_assoc, List.cons_append]
  exact .places (.paddedDecimal (by decide) hyear) (.paddedDecimal (by decide) hmonth)
    (.paddedDecimal (by decide) hday) (.paddedDecimal (by decide) (Nat.lt_trans hhour (by decide)))
    (.paddedDecimal (by decide) (Nat.lt_trans hminute (by decide)))
    (.paddedDecimal (by decide) (Nat.lt_trans hsecond (by decide)))
    (.paddedDecimal (by decide) hmilli)

/-- The instants in range are those of the years 1 to 9999. -/
theorem ofMillis?_eq_some_iff {m : Int} {text : List Char} :
    ofMillis? m = some text ↔
      ∃ millis : Nat, millis < endMillis ∧ (millis : Int) = epochMillis + m ∧
        text = digits millis := by
  simp only [ofMillis?]
  constructor
  · intro h
    split at h
    · rename_i hrange
      exact ⟨(m + epochMillis).toNat, by omega, by omega, (Option.some.inj h).symm⟩
    · contradiction
  · rintro ⟨millis, hlt, hm, rfl⟩
    have hsum : m + epochMillis = (millis : Int) := by omega
    simp only [hsum, Int.toNat_natCast]
    exact if_pos ⟨by omega, by omega⟩

/-- What a count out of range is refused with: its name, if it has few enough digits to be told. -/
def refusal (count : Int) : Fault :=
  if count.natAbs < 10 ^ Text.Numeral.digitLimit then .value (.timestampRange (.int count))
  else .value .unwritable

theorem raised_timestampRange (count : Int) :
    Fault.raised (.value (.timestampRange (.int count))) = refusal count := by
  rw [refusal]
  split
  · rename_i hshort
    exact Fault.raised_of_isWritable (Text.Numeral.isWritable_iff.mpr hshort)
  · rename_i hlong
    exact Fault.raised_of_not_isWritable
      (Text.Numeral.isWritable_eq_false_iff.mpr (Nat.le_of_not_lt hlong))

/-- A count that is a number is written if it is in range. -/
theorem column_int (write? : Int → Option (List Char)) (count : Int) :
    column write? (.int count) = match write? count with
      | some text => .ok (String.ofList text)
      | none => .error (refusal count) := by
  rw [← raised_timestampRange]
  rfl

theorem ofMillis_int (m : Int) :
    ofMillis (.int m) = match ofMillis? m with
      | some text => .ok (String.ofList text)
      | none => .error (refusal m) := column_int ofMillis? m

theorem ofSeconds_int (s : Int) :
    ofSeconds (.int s) = match ofMillis? (1000 * s) with
      | some text => .ok (String.ofList text)
      | none => .error (refusal s) := column_int ofSeconds? s

theorem ofMillis_eq_ok_iff {m : Int} {text : String} :
    ofMillis (.int m) = .ok text ↔
      ∃ millis : Nat, millis < endMillis ∧ (millis : Int) = epochMillis + m ∧
        text.toList = digits millis := by
  simp only [← ofMillis?_eq_some_iff]
  rw [ofMillis_int]
  cases ofMillis? m with
  | none => simp
  | some chars =>
    simp only [Except.ok.injEq, Option.some.injEq]
    constructor
    · rintro rfl
      exact String.toList_ofList.symm
    · rintro rfl
      exact String.ofList_toList

theorem exists_ofMillis_iff {m : Int} :
    (∃ text, ofMillis (.int m) = .ok text) ↔ -62135596800000 ≤ m ∧ m ≤ 253402300799999 := by
  simp only [ofMillis_eq_ok_iff, endMillis, epochMillis]
  constructor
  · rintro ⟨text, millis, hlt, hm, _⟩
    omega
  · rintro ⟨hlow, hhigh⟩
    exact ⟨String.ofList (digits (62135596800000 + m).toNat), (62135596800000 + m).toNat, by omega,
      by omega, String.toList_ofList⟩

/-- The refusal of a count names it. -/
theorem message_timestampRange (m : Int) :
    (Fault.value (.timestampRange (.int m))).message
      = "timestamp out of range: " ++ toString m := by
  have hnamed : (Json.int m).literalText = toString m := by
    rw [Json.literalText, Json.literal, String.ofList_toList]
  rw [← hnamed]
  rfl

theorem ofMillis_of_none {m : Int} (h : ¬ ∃ text, ofMillis (.int m) = .ok text) :
    ofMillis (.int m) = .error (refusal m) := by
  rw [ofMillis_int] at h ⊢
  cases hwritten : ofMillis? m with
  | none => rfl
  | some text => simp [hwritten] at h

/-! ## Exactness and order -/

/-- What the timestamp of a count of milliseconds tells. -/
structure Denotes (text : String) (m : Int) (moment : Moment) : Prop where
  shows : Shows text.toList moment
  unique : ∀ other, Shows text.toList other → other = moment
  real : moment.Exists
  count : (moment.millis : Int) = Moment.epoch.millis + m

theorem exists_denotes {m : Int} {text : String} (h : ofMillis (.int m) = .ok text) :
    ∃ moment, Denotes text m moment := by
  obtain ⟨millis, hlt, hm, htext⟩ := ofMillis_eq_ok_iff.mp h
  have hshows := shows_digits hlt
  rw [← htext] at hshows
  refine ⟨Moment.ofMillis millis, hshows, ?_, Moment.exists_ofMillis hlt, ?_⟩
  · intro other hother
    exact hother.unique hshows
  · rw [Moment.millis_ofMillis, Moment.millis_epoch, hm]

theorem Denotes.lt {text later : String} {m n : Int} {x y : Moment} (hx : Denotes text m x)
    (hy : Denotes later n y) (h : m < n) : text < later := by
  have hcount : x.millis < y.millis := by
    have hxCount := hx.count
    have hyCount := hy.count
    omega
  show text.toList < later.toList
  exact (hx.shows.lt_iff hy.shows).mpr (Moment.lt_of_millis_lt hx.real hy.real hcount)

/-- A count of milliseconds has a timestamp exactly within the years 1 to 9999, and otherwise is
refused: by name if it can be told, and for its length if it has too many digits for that.  The
timestamp denotes the instant so many milliseconds from the start of 1970, and a later instant has a
greater text.  A count of seconds has the timestamp of its milliseconds. -/
theorem exact_and_ordered (m : Int) :
    ((∃ text, ofMillis (.int m) = .ok text) ↔ -62135596800000 ≤ m ∧ m ≤ 253402300799999) ∧
    (m < -62135596800000 ∨ 253402300799999 < m →
      ofMillis (.int m) = .error (if m.natAbs < 10 ^ Text.Numeral.digitLimit then
        .value (.timestampRange (.int m)) else .value .unwritable) ∧
      (Fault.value (.timestampRange (.int m))).message = "timestamp out of range: " ++ toString m) ∧
    (∀ text, ofMillis (.int m) = .ok text → ∃ moment, Denotes text m moment) ∧
    (∀ later text laterText, m < later → ofMillis (.int m) = .ok text →
      ofMillis (.int later) = .ok laterText → text < laterText) ∧
    ∀ s : Int, (∃ text, ofSeconds (.int s) = .ok text ∧ ofMillis (.int (1000 * s)) = .ok text) ∨
      (ofSeconds (.int s) = .error (refusal s) ∧
        ofMillis (.int (1000 * s)) = .error (refusal (1000 * s))) := by
  refine ⟨exists_ofMillis_iff, ?_, fun text => exists_denotes, ?_, ?_⟩
  · intro hout
    refine ⟨ofMillis_of_none fun h => ?_, message_timestampRange m⟩
    have hin := exists_ofMillis_iff.mp h
    omega
  · intro later text laterText h htext hlater
    obtain ⟨x, hx⟩ := exists_denotes htext
    obtain ⟨y, hy⟩ := exists_denotes hlater
    exact hx.lt hy h
  · intro s
    rw [ofSeconds_int, ofMillis_int]
    cases ofMillis? (1000 * s) with
    | none => exact .inr ⟨rfl, rfl⟩
    | some text => exact .inl ⟨_, rfl, rfl⟩

/-- The last instant of a leap day comes before the first one of the next day, and nothing comes
before the year 1. -/
theorem exact_and_ordered_leap :
    ofMillis (.int 951868799999) = .ok "2000-02-29T23:59:59.999Z" ∧
    ofMillis (.int 951868800000) = .ok "2000-03-01T00:00:00.000Z" ∧
    "2000-02-29T23:59:59.999Z" < "2000-03-01T00:00:00.000Z" ∧
    (∃ moment, Denotes "2000-02-29T23:59:59.999Z" 951868799999 moment) ∧
    ofMillis (.int (-62135596800001))
      = .error (.value (.timestampRange (.int (-62135596800001)))) := by
  have hlast : ofMillis (.int 951868799999) = .ok "2000-02-29T23:59:59.999Z" := rfl
  have hfirst : ofMillis (.int 951868800000) = .ok "2000-03-01T00:00:00.000Z" := rfl
  obtain ⟨_, _, hdenotes, hordered, _⟩ := exact_and_ordered 951868799999
  obtain ⟨_, hrefused, _⟩ := exact_and_ordered (-62135596800001)
  have hshort : (-62135596800001 : Int).natAbs < 10 ^ Text.Numeral.digitLimit :=
    Nat.lt_of_lt_of_le (by decide : _ < 10 ^ 15) (Nat.pow_le_pow_right (by decide) (by decide))
  have hbefore := (hrefused (.inl (by decide))).1
  rw [if_pos hshort] at hbefore
  exact ⟨hlast, hfirst, hordered _ _ _ (by decide) hlast hfirst, hdenotes _ hlast, hbefore⟩

theorem ofMillis_pow {k : Nat} (h : Text.Numeral.digitLimit ≤ k) :
    ofMillis (.int (10 ^ k)) = .error (.value .unwritable) := by
  have hcast : (10 : Int) ^ k = ((10 ^ k : Nat) : Int) := (Int.natCast_pow 10 k).symm
  have hlarge : 10 ^ 15 ≤ 10 ^ k := Nat.pow_le_pow_right (by decide) (Nat.le_trans (by decide) h)
  have hlong : ¬ ((10 : Int) ^ k).natAbs < 10 ^ Text.Numeral.digitLimit := by
    rw [Int.natAbs_pow]
    exact Nat.not_lt.mpr (Nat.pow_le_pow_right (by decide) h)
  have hout : ¬ ∃ text, ofMillis (.int (10 ^ k)) = .ok text := by
    rw [exists_ofMillis_iff, hcast]
    omega
  rw [ofMillis_of_none hout, refusal, if_neg hlong]

/-- A count that is out of range and too long to be told is not refused by name. -/
theorem ofMillis_unnamed :
    ofMillis (.int (10 ^ Text.Numeral.digitLimit)) = .error (.value .unwritable) :=
  ofMillis_pow (Nat.le_refl Text.Numeral.digitLimit)

end OracleIndexer.Timestamp
