import Marginalia.Text.Basic

/-!
Moments and the proleptic Gregorian calendar. A moment is an instant together with the distance of
its clock from universal time; two moments are compared as instants.
-/

namespace Marginalia

/-! ### The calendar -/

namespace Calendar

def isLeap (year : Int) : Bool := year % 4 == 0 && (year % 100 != 0 || year % 400 == 0)

/-- The number of days of a month, counted from 1. -/
def daysIn (month : Nat) (year : Int) : Nat :=
  match month with
  | 2 => if isLeap year then 29 else 28
  | 4 | 6 | 9 | 11 => 30
  | _ => 31

/-- The days of the year before the first of a month, in a year that is not a leap year. -/
def daysBefore (month : Nat) : Nat :=
  ([0, 31, 59, 90, 120, 151, 181, 212, 243, 273, 304, 334][month - 1]?).getD 0

/-- The days from 1 January 1970 to a date. -/
def dayNumber (year : Int) (month day : Nat) : Int :=
  let y := year - 1
  let leapDay : Int := if month > 2 && isLeap year then 1 else 0
  y * 365 + Int.fdiv y 4 - Int.fdiv y 100 + Int.fdiv y 400 - 719162
    + daysBefore month + leapDay + (Int.ofNat day - 1)

/-- The year that a day number falls in. -/
def yearOfDay (day : Int) : Int :=
  let d := day + 719162
  let era := Int.fdiv d 146097
  let rest := Int.fmod d 146097
  let century := min (Int.fdiv rest 36524) 3
  let rest := rest - century * 36524
  let four := Int.fdiv rest 1461
  let rest := rest - four * 1461
  let one := min (Int.fdiv rest 365) 3
  era * 400 + century * 100 + four * 4 + one + 1

/-- The month and day of the month, given the number of days of the year that have passed. -/
def monthDay (year : Int) (passed : Nat) : Nat × Nat :=
  let month := ((List.range' 1 12).filter fun m =>
    (dayNumber year m 1 - dayNumber year 1 1).toNat ≤ passed).length
  (month, passed - (dayNumber year month 1 - dayNumber year 1 1).toNat + 1)

def weekdays : List String :=
  ["Sunday", "Monday", "Tuesday", "Wednesday", "Thursday", "Friday", "Saturday"]

def months : List String :=
  ["January", "February", "March", "April", "May", "June", "July", "August", "September",
    "October", "November", "December"]

end Calendar

/-- A date and a time of day as a clock shows them. -/
structure Civil where
  year : Int
  month : Nat
  day : Nat
  hour : Nat := 0
  minute : Nat := 0
  second : Nat := 0
  nano : Nat := 0
deriving DecidableEq, Repr, Inhabited

/-- An instant with the clock it was read from: seconds since the start of 1970 in universal time,
nanoseconds, and the seconds by which the clock is ahead of universal time. -/
structure Moment where
  seconds : Int
  nano : Nat := 0
  offset : Int := 0
deriving DecidableEq, Repr, Inhabited

namespace Civil

/-- The seconds between the start of 1970 and a date and time of day, on one clock. -/
def clockSeconds (c : Civil) : Int :=
  Calendar.dayNumber c.year c.month c.day * 86400
    + Int.ofNat (c.hour * 3600 + c.minute * 60 + c.second)

/-- The moment at which a clock ahead by `offset` shows this date and time of day. -/
def moment (c : Civil) (offset : Int) : Moment := ⟨c.clockSeconds - offset, c.nano, offset⟩

end Civil

namespace Moment

/-- The start of year 1 in universal time, which stands for "no date". -/
def zero : Moment := ⟨-62135596800, 0, 0⟩

/-- Is this the instant that stands for "no date"? -/
def isZero (m : Moment) : Bool := m.seconds == zero.seconds && m.nano == 0

/-- The order of two moments as instants. -/
def order (a b : Moment) : Ordering := (compare a.seconds b.seconds).then (compare a.nano b.nano)

/-- The same instant on the clock of universal time. -/
def utc (m : Moment) : Moment := { m with offset := 0 }

/-- The day number on the moment's own clock. -/
def day (m : Moment) : Int := Int.fdiv (m.seconds + m.offset) 86400

/-- What the moment's own clock shows. -/
def civil (m : Moment) : Civil :=
  let time := (Int.fmod (m.seconds + m.offset) 86400).toNat
  let year := Calendar.yearOfDay m.day
  let (month, day) := Calendar.monthDay year (m.day - Calendar.dayNumber year 1 1).toNat
  { year, month, day, hour := time / 3600, minute := time / 60 % 60, second := time % 60
    nano := m.nano }

/-- The day of the week on the moment's own clock, counted from Sunday. -/
def weekday (m : Moment) : Nat := (Int.fmod (m.day + 4) 7).toNat

end Moment

end Marginalia
