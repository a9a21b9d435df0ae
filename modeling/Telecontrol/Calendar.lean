/-!
# Calendar

Dates of the proleptic Gregorian calendar, with month lengths, leap years and days of the week, and
times of day down to the nanosecond. A leap second is written as second 59 with a billion
nanoseconds or more.
-/

namespace Telecontrol

/-- A calendar date and time of day. -/
structure DateTime where
  year : Int
  month : Nat
  day : Nat
  hour : Nat
  minute : Nat
  second : Nat
  nanosecond : Nat
deriving DecidableEq, Repr

namespace Calendar

def isLeap (year : Int) : Bool :=
  year % 4 = 0 && (year % 100 ≠ 0 || year % 400 = 0)

def daysInMonth (year : Int) (month : Nat) : Nat :=
  match month with
  | 1 | 3 | 5 | 7 | 8 | 10 | 12 => 31
  | 4 | 6 | 9 | 11 => 30
  | 2 => if isLeap year then 29 else 28
  | _ => 0

/-- Days from the first day of year 1 to the first day of `year`. -/
def daysBeforeYear (year : Int) : Int :=
  let passed := year - 1
  365 * passed + passed / 4 - passed / 100 + passed / 400

def daysBeforeMonth (year : Int) (month : Nat) : Nat :=
  (List.range (month - 1)).foldr (fun earlier days => daysInMonth year (earlier + 1) + days) 0

/-- Monday is 1 and Sunday 7. The first day of year 1 is a Monday. -/
def weekday (year : Int) (month day : Nat) : Nat :=
  ((daysBeforeYear year + daysBeforeMonth year month + day - 1) % 7).toNat + 1

def isDate (year : Int) (month day : Nat) : Bool :=
  1 ≤ day && day ≤ daysInMonth year month

end Calendar

end Telecontrol
