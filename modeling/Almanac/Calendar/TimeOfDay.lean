import Almanac.Number.Digits

/-!
# Times of day

A time of day to the microsecond, and its text: hours, minutes and seconds in two
digits each, with milliseconds or microseconds behind them when there are some.
-/

namespace Almanac

/-- A time of day. -/
structure TimeOfDay where
  hour : Nat
  minute : Nat
  second : Nat
  micro : Nat
  hour_lt : hour < 24
  minute_lt : minute < 60
  second_lt : second < 60
  micro_lt : micro < 1000000
  deriving DecidableEq, Repr

namespace TimeOfDay

/-- The time with these parts, if each is in its range. -/
def of? (hour minute second micro : Nat) : Option TimeOfDay :=
  if h : hour < 24 ∧ minute < 60 ∧ second < 60 ∧ micro < 1000000 then
    some ⟨hour, minute, second, micro, h.1, h.2.1, h.2.2.1, h.2.2.2⟩
  else none

/-- The start of the day. -/
def midnight : TimeOfDay :=
  ⟨0, 0, 0, 0, by decide, by decide, by decide, by decide⟩

/-- The text of a time. -/
def text (t : TimeOfDay) : String :=
  let fraction :=
    if t.micro = 0 then []
    else if t.micro % 1000 = 0 then '.' :: Number.paddedDigits 3 (t.micro / 1000)
    else '.' :: Number.paddedDigits 6 t.micro
  String.ofList (Number.paddedDigits 2 t.hour ++ ':' :: Number.paddedDigits 2 t.minute ++
    ':' :: Number.paddedDigits 2 t.second ++ fraction)

end TimeOfDay

end Almanac
