/-!
# Dates and times

Days are counted in the Gregorian calendar, extended to all years in both directions; year zero is
the year before year one. A `Moment` is a day, a second of that day and a fraction of a second. The
fraction may go beyond a whole second only in the last second of a minute, which is how a leap
second is written.

`Moment.millis` flattens a moment into milliseconds since 1970-01-01T00:00:00, rounded down.
-/

namespace Sift

/-! ## 1. Days -/

namespace Calendar

def isLeap (year : Int) : Bool :=
  year % 4 == 0 && (year % 100 != 0 || year % 400 == 0)

/-- The number of days of a month of a year, zero if there is no such month. -/
def monthLength (year month : Int) : Int :=
  if month = 2 then (if isLeap year then 29 else 28)
  else if month = 4 ∨ month = 6 ∨ month = 9 ∨ month = 11 then 30
  else if 1 ≤ month ∧ month ≤ 12 then 31
  else 0

/-- The days before the first of a month, from the first of January. -/
def daysBeforeMonth (year month : Int) : Int :=
  ((List.range 12).map fun (i : Nat) => (i : Int) + 1).foldl
    (fun sum m => if m < month then sum + monthLength year m else sum) 0

/-- The days before the first of January of a year, from that of the year one. -/
def daysBeforeYear (year : Int) : Int :=
  let y := year - 1
  365 * y + y / 4 - y / 100 + y / 400

/-- The number of a day, zero for 1970-01-01. -/
def dayNumber (year month day : Int) : Int :=
  daysBeforeYear year - daysBeforeYear 1970 + daysBeforeMonth year month + (day - 1)

/-- The first and the last year in which dates can be written. -/
def firstYear : Int := -262143

def lastYear : Int := 262142

/-- The number of a day that exists. -/
def day? (year month day : Int) : Option Int :=
  if firstYear ≤ year ∧ year ≤ lastYear ∧ 1 ≤ day ∧ day ≤ monthLength year month then
    some (dayNumber year month day)
  else
    none

end Calendar

/-! ## 2. Moments -/

structure Moment where
  day : Int
  second : Nat
  nanos : Nat
  deriving DecidableEq, Repr, Inhabited

namespace Moment

/-- What a moment is made of: the second is one of the day, and the fraction is less than two
    seconds. -/
def IsValid (m : Moment) : Prop := m.second < 86400 ∧ m.nanos < 2000000000

instance (m : Moment) : Decidable m.IsValid := by unfold IsValid; infer_instance

/-- Milliseconds since the first moment of day zero, rounded down. -/
def millis (m : Moment) : Int :=
  (86400 * m.day + m.second) * 1000 + (m.nanos / 1000000 : Nat)

/-- The order of moments: by day, then by second, then by fraction. -/
def IsBefore (a b : Moment) : Prop :=
  a.day < b.day ∨ (a.day = b.day ∧ (a.second < b.second ∨
    (a.second = b.second ∧ a.nanos < b.nanos)))

instance (a b : Moment) : Decidable (a.IsBefore b) := by unfold IsBefore; infer_instance

/-- The moment a number of milliseconds after the first moment of day zero. -/
def ofMillis (n : Int) : Moment :=
  ⟨n / 86400000, (n % 86400000 / 1000).toNat, (n % 1000).toNat * 1000000⟩

/-- The moment of a date and a time of day, if they exist. -/
def ofParts? (year month day hour minute second nanos : Int) : Option Moment := do
  let n ← Calendar.day? year month day
  if 0 ≤ hour ∧ hour < 24 ∧ 0 ≤ minute ∧ minute < 60 ∧ 0 ≤ second ∧ second < 60 ∧ 0 ≤ nanos ∧
      nanos < 2000000000 ∧ (nanos < 1000000000 ∨ second = 59) then
    some ⟨n, (hour * 3600 + minute * 60 + second).toNat, nanos.toNat⟩
  else
    none

/-- The moment in universal time at which clocks that are ahead by a number of seconds show the
    given one, if its date can be written. -/
def behind? (m : Moment) (seconds : Int) : Option Moment :=
  let total := m.second - seconds
  let day := m.day + total / 86400
  if -86400 < seconds ∧ seconds < 86400 ∧ Calendar.dayNumber Calendar.firstYear 1 1 ≤ day ∧
      day ≤ Calendar.dayNumber Calendar.lastYear 12 31 then
    some ⟨day, (total % 86400).toNat, m.nanos⟩
  else
    none

end Moment

end Sift
