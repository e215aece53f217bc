/-!
# Calendar

Dates of the proleptic Gregorian calendar in the years 1 to 9999, times of day to the microsecond,
and their places on one line of seconds.

* `Date.ordinal`, `Date.ofOrdinal?` — dates as the days since 1 January of year 1;
* `DateTime.seconds`, `DateTime.ofSeconds?` — date-times as the seconds since 1970;
* `DateTime.shift?` — a date-time moved by a number of seconds.
-/

namespace EntityStore

/-! ### Dates -/

/-- Whether a year has 366 days. -/
def isLeapYear (year : Nat) : Bool :=
  year % 4 == 0 && (year % 100 != 0 || year % 400 == 0)

/-- The number of days in a month. -/
def daysInMonth (year month : Nat) : Nat :=
  match month with
  | 2 => if isLeapYear year then 29 else 28
  | 4 | 6 | 9 | 11 => 30
  | _ => 31

/-- The number of days from the start of the calendar to the start of a year. -/
def daysBeforeYear (year : Nat) : Nat :=
  let y := year - 1
  y * 365 + y / 4 - y / 100 + y / 400

/-- The number of days from the start of a year to the start of a month. -/
def daysBeforeMonth (year : Nat) : Nat → Nat
  | 0 | 1 => 0
  | m + 1 => daysBeforeMonth year m + daysInMonth year m

/-- A date in the years 1 to 9999. -/
structure Date where
  year : Nat
  month : Nat
  day : Nat
  year_mem : 1 ≤ year ∧ year ≤ 9999
  month_mem : 1 ≤ month ∧ month ≤ 12
  day_mem : 1 ≤ day ∧ day ≤ daysInMonth year month
  deriving DecidableEq, Repr

/-- Which part of a date or a time of day is out of its range. -/
inductive CalendarFault
  | year (n : Nat)
  | month
  | day
  | hour
  | minute
  | second
  | offset (seconds : Int)
  deriving DecidableEq, Repr

namespace Date

/-- The date with given parts, or the first part that is out of range. -/
def make (year month day : Nat) : Except CalendarFault Date :=
  if hy : 1 ≤ year ∧ year ≤ 9999 then
    if hm : 1 ≤ month ∧ month ≤ 12 then
      if hd : 1 ≤ day ∧ day ≤ daysInMonth year month then
        .ok ⟨year, month, day, hy, hm, hd⟩
      else .error .day
    else .error .month
  else .error (.year year)

/-- The number of days since 1 January of year 1. -/
def ordinal (d : Date) : Nat :=
  daysBeforeYear d.year + daysBeforeMonth d.year d.month + (d.day - 1)

/-- The year that holds the day `n`, and the day in that year. -/
def yearOf (n : Nat) : Nat × Nat :=
  let n400 := n / 146097
  let r400 := n % 146097
  let n100 := min (r400 / 36524) 3
  let r100 := r400 - n100 * 36524
  let n4 := r100 / 1461
  let r4 := r100 % 1461
  let n1 := min (r4 / 365) 3
  (n400 * 400 + n100 * 100 + n4 * 4 + n1 + 1, r4 - n1 * 365)

/-- The month at or behind `month` that holds the day `n` counted from the start of `month`, and
the day in that month; at most `fuel` months on. -/
def monthOf (year : Nat) : Nat → Nat → Nat → Nat × Nat
  | 0, month, n => (month, n)
  | fuel + 1, month, n =>
    let size := daysInMonth year month
    if n < size then (month, n) else monthOf year fuel (month + 1) (n - size)

/-- The date that is `n` days behind 1 January of year 1, within the calendar. -/
def ofOrdinal? (n : Nat) : Option Date :=
  let (year, dayOfYear) := yearOf n
  let (month, dayOfMonth) := monthOf year 11 1 dayOfYear
  (make year month (dayOfMonth + 1)).toOption

end Date

/-! ### Times of day -/

/-- A time of day. -/
structure TimeOfDay where
  hour : Nat
  minute : Nat
  second : Nat
  microsecond : Nat
  hour_lt : hour < 24
  minute_lt : minute < 60
  second_lt : second < 60
  microsecond_lt : microsecond < 1000000
  deriving DecidableEq, Repr

namespace TimeOfDay

/-- Midnight. -/
def midnight : TimeOfDay :=
  ⟨0, 0, 0, 0, by decide, by decide, by decide, by decide⟩

/-- The time with given parts, or the first part that is out of range. -/
def make (hour minute second : Nat) (microsecond : Fin 1000000) :
    Except CalendarFault TimeOfDay :=
  if hh : hour < 24 then
    if hm : minute < 60 then
      if hs : second < 60 then
        .ok ⟨hour, minute, second, microsecond, hh, hm, hs, microsecond.isLt⟩
      else .error .second
    else .error .minute
  else .error .hour

/-- The seconds since midnight. -/
def seconds (t : TimeOfDay) : Nat :=
  t.hour * 3600 + t.minute * 60 + t.second

/-- The time that is `n` seconds and some microseconds behind midnight, modulo a day. -/
def ofSeconds (n : Nat) (microsecond : Fin 1000000) : TimeOfDay where
  hour := n / 3600 % 24
  minute := n / 60 % 60
  second := n % 60
  microsecond := microsecond
  hour_lt := Nat.mod_lt _ (by decide)
  minute_lt := Nat.mod_lt _ (by decide)
  second_lt := Nat.mod_lt _ (by decide)
  microsecond_lt := microsecond.isLt

end TimeOfDay

/-! ### Date-times -/

/-- A date and a time of day without a zone. -/
structure DateTime where
  date : Date
  time : TimeOfDay
  deriving DecidableEq, Repr

namespace DateTime

/-- The seconds from the start of the calendar to 1 January 1970. -/
def epoch : Nat := 62135596800

/-- The seconds since 1 January 1970. -/
def seconds (t : DateTime) : Int :=
  (t.date.ordinal * 86400 + t.time.seconds : Nat) - (epoch : Nat)

/-- The date-time at a number of seconds since 1970, within the calendar. -/
def ofSeconds? (s : Int) (microsecond : Fin 1000000) : Option DateTime :=
  let n := s + (epoch : Nat)
  if n < 0 then none
  else
    let n := n.toNat
    (Date.ofOrdinal? (n / 86400)).map fun d => ⟨d, .ofSeconds (n % 86400) microsecond⟩

/-- The microseconds as a number below a million. -/
def micros (t : DateTime) : Fin 1000000 :=
  ⟨t.time.microsecond, t.time.microsecond_lt⟩

/-- A date-time moved by a number of seconds, within the calendar. -/
def shift? (t : DateTime) (delta : Int) : Option DateTime :=
  ofSeconds? (t.seconds + delta) t.micros

end DateTime

end EntityStore
