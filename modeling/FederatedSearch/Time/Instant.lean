/-!
Instants of time and their civil dates in the proleptic Gregorian calendar. An
instant counts seconds from the first moment of 1970; a leap second is the second
before it, carried on beyond its billion nanoseconds.
-/

namespace FederatedSearch.Time

structure Instant where
  second : Int
  nanosecond : Nat
deriving DecidableEq, Inhabited

/-- Earlier, equal or later; nanoseconds decide within one second. -/
def Instant.compare (a b : Instant) : Ordering :=
  (Ord.compare a.second b.second).then (Ord.compare a.nanosecond b.nanosecond)

structure CivilDate where
  year : Int
  month : Nat
  day : Nat
deriving DecidableEq

def isLeapYear (year : Int) : Bool :=
  year % 4 == 0 && (year % 100 != 0 || year % 400 == 0)

def daysInMonth (year : Int) (month : Nat) : Nat :=
  if month = 2 then (if isLeapYear year then 29 else 28)
  else if month = 4 ∨ month = 6 ∨ month = 9 ∨ month = 11 then 30 else 31

def isYearInRange (year : Int) : Bool := -262143 ≤ year && year ≤ 262142

def CivilDate.exists (date : CivilDate) : Bool :=
  isYearInRange date.year && 1 ≤ date.month && date.month ≤ 12 && 1 ≤ date.day &&
    date.day ≤ daysInMonth date.year date.month

def daysToMarch (year : Int) : Int := 365 * year + year / 4 - year / 100 + year / 400

/-- Days from the first of March to the first of a month, which is counted from March as 0. -/
def daysFromMarch (month : Nat) : Nat := (153 * month + 2) / 5

/-- The number of a date's day, that of 1970-01-01 being 0. January and February belong to
the year that begins with the March before them. -/
def CivilDate.dayNumber (date : CivilDate) : Int :=
  let year := if date.month ≤ 2 then date.year - 1 else date.year
  daysToMarch year + daysFromMarch ((date.month + 9) % 12) + date.day - 719469

def CivilDate.ofDayNumber (number : Int) : CivilDate :=
  let shifted := number + 719468
  let era := shifted / 146097
  let dayOfEra := (shifted % 146097).toNat
  let yearOfEra :=
    (dayOfEra - dayOfEra / 1460 + dayOfEra / 36524 - dayOfEra / 146096) / 365
  let dayOfYear := dayOfEra - (365 * yearOfEra + yearOfEra / 4 - yearOfEra / 100)
  let fromMarch := (5 * dayOfYear + 2) / 153
  let month := if fromMarch < 10 then fromMarch + 3 else fromMarch - 9
  let year := era * 400 + yearOfEra
  { year := if month ≤ 2 then year + 1 else year
    month
    day := dayOfYear - daysFromMarch fromMarch + 1 }

/-- A time of day; second 60 is the leap second. -/
structure ClockTime where
  hour : Nat
  minute : Nat
  second : Nat
  nanosecond : Nat

def ClockTime.exists (time : ClockTime) : Bool :=
  time.hour ≤ 23 && time.minute ≤ 59 && time.second ≤ 60

/-- The instant of a date and time read at an offset of so many seconds east of Greenwich,
if all of them exist and the date in Greenwich is one that is kept. -/
def Instant.of? (date : CivilDate) (time : ClockTime) (offset : Int) : Option Instant :=
  if date.exists && time.exists && offset.natAbs < 86400 then
    let leap := time.second == 60
    let second := date.dayNumber * 86400 + time.hour * 3600 + time.minute * 60 +
      (if leap then 59 else time.second) - offset
    if isYearInRange (CivilDate.ofDayNumber (second / 86400)).year then
      some ⟨second, time.nanosecond + if leap then 1000000000 else 0⟩
    else none
  else none

def Instant.date (t : Instant) : CivilDate := CivilDate.ofDayNumber (t.second / 86400)

def Instant.clock (t : Instant) : ClockTime :=
  let ofDay := (t.second % 86400).toNat
  let leap := 1000000000 ≤ t.nanosecond
  { hour := ofDay / 3600
    minute := ofDay / 60 % 60
    second := ofDay % 60 + if leap then 1 else 0
    nanosecond := t.nanosecond - if leap then 1000000000 else 0 }

end FederatedSearch.Time
