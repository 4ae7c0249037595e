import Almanac.Number.Digits

/-!
# Dates

Days of the Gregorian calendar, which is extended to all years. A date is a real
day: its month has that many days in that year.
-/

namespace Almanac

namespace Calendar

/-- Whether a year has a leap day. -/
def isLeapYear (year : Nat) : Bool := year % 4 == 0 && (year % 100 != 0 || year % 400 == 0)

/-- How many days a month has; there are twelve months. -/
def daysInMonth (year month : Nat) : Nat :=
  match month with
  | 2 => if isLeapYear year then 29 else 28
  | 4 | 6 | 9 | 11 => 30
  | 1 | 3 | 5 | 7 | 8 | 10 | 12 => 31
  | _ => 0

end Calendar

/-- A day of the calendar. -/
structure Date where
  year : Nat
  month : Nat
  day : Nat
  one_le_day : 1 ≤ day
  day_le : day ≤ Calendar.daysInMonth year month
  deriving DecidableEq, Repr

namespace Date

/-- The day with a year, month and day number, if there is one. -/
def of? (year month day : Nat) : Option Date :=
  if h : 1 ≤ day ∧ day ≤ Calendar.daysInMonth year month then some ⟨year, month, day, h.1, h.2⟩
  else none

theorem of?_eq_none_iff {year month day : Nat} :
    of? year month day = none ↔ ¬(1 ≤ day ∧ day ≤ Calendar.daysInMonth year month) := by
  unfold of?
  split <;> simp_all

theorem of?_self (d : Date) : of? d.year d.month d.day = some d := by
  simp [of?, d.one_le_day, d.day_le]

/-- A date as four digits of the year, two of the month and two of the day. -/
def text (d : Date) : String :=
  String.ofList (Number.paddedDigits 4 d.year ++ '-' :: Number.paddedDigits 2 d.month ++
    '-' :: Number.paddedDigits 2 d.day)

end Date

end Almanac
