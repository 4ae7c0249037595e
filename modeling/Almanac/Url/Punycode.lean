/-!
# Labels in basic characters

A label of a domain name with other characters than the first 128 is written with
these alone: first those of its characters that are among them, then, as numbers of
variable length, where each of the others is put in.
-/

namespace Almanac.Url.Punycode

/-- How many digits there are. -/
def base : Nat := 36

/-- The step between the thresholds of two digits. -/
def skew : Nat := 38

/-- The divisor of the first difference. -/
def damp : Nat := 700

/-- The first code point that is put in. -/
def firstPoint : Nat := 128

/-- The first bias. -/
def firstBias : Nat := 72

/-- The threshold of a digit, between 1 and 26. -/
def threshold (bias k : Nat) : Nat := max 1 (min 26 (k - bias))

theorem threshold_pos (bias k : Nat) : 1 ≤ threshold bias k := Nat.le_max_left _ _

/-- Divides a difference until it is small, and counts the steps. -/
def shrink (delta k : Nat) : Nat × Nat :=
  if delta > 455 then shrink (delta / (base - 1)) (k + base) else (delta, k)
termination_by delta
decreasing_by
  simp only [base]
  omega

/-- The bias after a difference, with the number of characters there are then. -/
def adapt (delta count : Nat) (first : Bool) : Nat :=
  let delta := if first then delta / damp else delta / 2
  let (delta, k) := shrink (delta + delta / count) 0
  k + base * delta / (delta + skew)

/-! ## Writing -/

/-- A digit: small letters, then the ten digits. -/
def digitChar (d : Nat) : Char := Char.ofNat (if d < 26 then 97 + d else 22 + d)

/-- A number of variable length. -/
def writeNumber (bias n k : Nat) : List Char :=
  let t := threshold bias k
  if _h : n < t then [digitChar n]
  else digitChar (t + (n - t) % (base - t)) :: writeNumber bias ((n - t) / (base - t)) (k + base)
termination_by n
decreasing_by
  have h1 := threshold_pos bias k
  have h2 : (n - threshold bias k) / (base - threshold bias k) ≤ n - threshold bias k :=
    Nat.div_le_self _ _
  omega

/-- The state while characters are written or read. -/
structure State where
  point : Nat := firstPoint
  delta : Nat := 0
  bias : Nat := firstBias
  /-- How many characters have been dealt with. -/
  done : Nat
  output : List Char := []

/-- Goes over all characters for the code point of the state. -/
def writePoint (basicCount : Nat) (s : State) : List Nat → State
  | [] => { s with delta := s.delta + 1, point := s.point + 1 }
  | c :: rest =>
    if c < s.point then writePoint basicCount { s with delta := s.delta + 1 } rest
    else if c = s.point then
      writePoint basicCount
        { s with
          delta := 0
          bias := adapt s.delta (s.done + 1) (s.done == basicCount)
          done := s.done + 1
          output := s.output ++ writeNumber s.bias s.delta base } rest
    else writePoint basicCount s rest

/-- The label in basic characters. -/
def encode (label : List Char) : List Char :=
  let points := label.map Char.toNat
  let basic := label.filter (·.toNat < firstPoint)
  let others := ((points.filter (· ≥ firstPoint)).eraseDups).mergeSort
  let result := others.foldl
    (fun s p => writePoint basic.length
      { s with delta := s.delta + (p - s.point) * (s.done + 1), point := p } points)
    { done := basic.length }
  basic ++ (if basic.isEmpty then [] else ['-']) ++ result.output

/-! ## Reading -/

/-- The value of a digit. -/
def digitValue? (c : Char) : Option Nat :=
  if 'a' ≤ c && c ≤ 'z' then some (c.toNat - 97)
  else if 'A' ≤ c && c ≤ 'Z' then some (c.toNat - 65)
  else if '0' ≤ c && c ≤ '9' then some (c.toNat - 22)
  else none

/-- A number of variable length and the characters behind it. -/
def readNumber (bias weight k : Nat) : List Char → Option (Nat × List Char)
  | [] => none
  | c :: rest => do
    let digit ← digitValue? c
    let t := threshold bias k
    if digit < t then return (digit * weight, rest)
    else
      let (n, rest) ← readNumber bias (weight * (base - t)) (k + base) rest
      return (digit * weight + n, rest)

/-- Puts in the characters that the numbers tell of; there are at most as many as
`fuel`, one for each character that is read. -/
def readPoints (fuel point place bias : Nat) (label : List Nat) (cs : List Char) :
    Option (List Nat) :=
  match fuel, cs with
  | _, [] => some label
  | 0, _ => none
  | fuel + 1, cs => do
    let (n, rest) ← readNumber bias 1 base cs
    let count := label.length + 1
    let place' := place + n
    let bias := adapt n count (place == 0)
    let point := point + place' / count
    guard (point.isValidChar)
    let place := place' % count
    readPoints fuel point (place + 1) bias (label.take place ++ point :: label.drop place) rest

/-- The label that is written in basic characters. -/
def decode? (cs : List Char) : Option (List Char) := do
  let basic := ((cs.reverse.dropWhile (· != '-')).drop 1).reverse
  let numbers := if cs.contains '-' then (cs.reverse.takeWhile (· != '-')).reverse else cs
  let points ← readPoints numbers.length firstPoint 0 firstBias (basic.map Char.toNat) numbers
  return points.map Char.ofNat

end Almanac.Url.Punycode
