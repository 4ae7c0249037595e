/-!
# Runs of code points

Sets and maps of code points, written down as ascending runs. A set of code
points is a list of closed ranges, or of runs that may leave out every second
code point; a map that moves code points by fixed distances is a list of
shifts. All are read with the scan stopping at the first run that starts behind
the code point asked for.
-/

namespace Almanac.Text

/-! ## Sets -/

/-- A set of code points: closed ranges in ascending order. -/
abbrev CodePoints := List (Nat × Nat)

namespace CodePoints

/-- Whether `n` lies in one of the ranges. -/
def contains : CodePoints → Nat → Bool
  | [], _ => false
  | (first, last) :: rest, n => if n < first then false else n ≤ last || contains rest n

@[simp] theorem contains_nil (n : Nat) : contains [] n = false := rfl

theorem contains_cons (r : Nat × Nat) (rest : CodePoints) (n : Nat) :
    contains (r :: rest) n = if n < r.1 then false else n ≤ r.2 || contains rest n := rfl

end CodePoints

/-- A set of code points in which every second one may be left out: first and last code
point and stride of each run, in ascending order. -/
abbrev StridedPoints := List (Nat × Nat × Nat)

namespace StridedPoints

/-- The set of ranges without gaps. -/
def ofRanges (ranges : CodePoints) : StridedPoints := ranges.map fun r => (r.1, r.2, 1)

/-- Whether `n` lies in one of the runs. -/
def contains : StridedPoints → Nat → Bool
  | [], _ => false
  | (first, last, stride) :: rest, n =>
    if n < first then false
    else (n ≤ last && (n - first) % stride == 0) || contains rest n

end StridedPoints

/-! ## Shifts -/

/-- A run of code points that a character map moves by one distance: every
`stride`-th code point from `first` to `last`. -/
structure Shift where
  first : Nat
  last : Nat
  stride : Nat
  distance : Int
  deriving Repr, DecidableEq

namespace Shift

/-- Whether the run holds the code point `n`. -/
def covers (s : Shift) (n : Nat) : Bool :=
  s.first ≤ n && n ≤ s.last && (n - s.first) % s.stride == 0

/-- The code point that `shifts` move `n` to, `n` itself when no run holds it. -/
def apply : List Shift → Nat → Nat
  | [], n => n
  | s :: rest, n =>
    if n < s.first then n
    else if s.covers n then (n + s.distance).toNat
    else apply rest n

/-- The code points that `shifts` move to `n`. -/
def sources (shifts : List Shift) (n : Nat) : List Nat :=
  shifts.filterMap fun s =>
    let m := ((n : Int) - s.distance).toNat
    if s.covers m && ((m : Int) + s.distance == n) then some m else none

end Shift

end Almanac.Text
