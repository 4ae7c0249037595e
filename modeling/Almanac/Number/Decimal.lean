import Almanac.Number.Basic
import Almanac.Number.Digits
import Almanac.Text.Blank
import Almanac.Text.Case

/-!
# Numbers in decimal

Reading a decimal numeral rounds it to the nearest number. Writing gives a whole
number below 10 ^ 15 in full; any other number is written in plain decimal with
the fewest digits that read back to it, of those the ones nearest to it, and
never with an exponent.
-/

namespace Almanac.Number

open Almanac.Text

/-! ## Reading -/

/-- The number `coefficient · 10 ^ power`, rounded. Values beyond every number's
range are decided from their size alone. -/
def ofScientific (negative : Bool) (coefficient : Nat) (power : Int) : Number :=
  if coefficient = 0 then finite negative 0 0
  else
    let size : Int := (digits coefficient).length + power
    if size > 400 then infinite negative
    else if size < -400 then finite negative 0 0
    else ofQuotient negative (coefficient * Nat.pow 10 power.toNat)
      (Nat.pow 10 (-power).toNat)

/-- The number written as digits with at most one point among them. -/
def ofNumeral (numeral : List Char) : Number :=
  let whole := numeral.takeWhile (· != '.')
  let fraction := (numeral.dropWhile (· != '.')).drop 1
  ofScientific false (value (whole ++ fraction)) (-(fraction.length : Int))

/-- The exponent part of a numeral: nothing, or a letter e and a signed number. -/
def readExponent? : List Char → Option Int
  | [] => some 0
  | e :: rest =>
    if e = 'e' || e = 'E' then
      let (negative, ds) := match rest with
        | '-' :: ds => (true, ds)
        | '+' :: ds => (false, ds)
        | ds => (false, ds)
      if ds.isEmpty || !ds.all isAsciiDigit then none
      else some (if negative then -(value ds : Int) else value ds)
    else none

/-- A numeral without its sign: the words for infinity and for no number in any
case, or digits with at most one point among or beside them and an exponent. -/
def readUnsigned? (negative : Bool) (cs : List Char) : Option Number :=
  let word := String.ofList (cs.map asciiLower)
  if word = "inf" || word = "infinity" then some (infinite negative)
  else if word = "nan" then some nan
  else
    let whole := cs.takeWhile isAsciiDigit
    let rest := cs.dropWhile isAsciiDigit
    let (fraction, tail) := match rest with
      | '.' :: more => (more.takeWhile isAsciiDigit, more.dropWhile isAsciiDigit)
      | more => ([], more)
    if whole.isEmpty && fraction.isEmpty then none
    else (readExponent? tail).map fun power =>
      ofScientific negative (value (whole ++ fraction)) (power - fraction.length)

/-- The number that a text denotes, white space around it ignored. -/
def read? (text : String) : Option Number :=
  match trimChars text.toList with
  | '-' :: rest => readUnsigned? true rest
  | '+' :: rest => readUnsigned? false rest
  | rest => readUnsigned? false rest

/-- The number that a text denotes, and no number when it denotes none. -/
def ofText (text : String) : Number := (read? text).getD nan

/-! ## Writing -/

/-- A positive number in the one way that has fifty-three binary digits, or the
least exponent. -/
def normalize (mantissa : Nat) (exponent : Int) : Nat × Int :=
  let up : Int := precision - 1 - Nat.log2 mantissa
  let shift := min up (exponent - leastExponent)
  (mantissa * Nat.pow 2 shift.toNat / Nat.pow 2 (-shift).toNat, exponent - shift)

/-- A positive decimal: a coefficient and a power of ten. -/
structure Decimal where
  coefficient : Nat
  power : Int

/-- The numbers that round to one number, as an interval in units of
`numerator / denominator`: the number itself and the interval's two ends. -/
structure Rounding where
  numerator : Nat
  denominator : Nat
  centre : Nat
  low : Nat
  high : Nat
  /-- Whether the ends round to the number too. -/
  closed : Bool

/-- The interval around `mantissa · 2 ^ exponent`, in quarters of its last digit.
Below a power of two the neighbour is half as far away. -/
def Rounding.of (mantissa : Nat) (exponent : Int) : Rounding :=
  let unit := exponent - 2
  let narrow := mantissa == Nat.pow 2 (precision - 1) && exponent > leastExponent
  { numerator := Nat.pow 2 unit.toNat
    denominator := Nat.pow 2 (-unit).toNat
    centre := 4 * mantissa
    low := 4 * mantissa - (if narrow then 1 else 2)
    high := 4 * mantissa + 2
    closed := mantissa % 2 == 0 }

/-- Whether `coefficient · 10 ^ power` lies in the interval. -/
def Rounding.holds (r : Rounding) (coefficient : Nat) (power : Int) : Bool :=
  let x := coefficient * Nat.pow 10 power.toNat * r.denominator
  let scale := r.numerator * Nat.pow 10 (-power).toNat
  let low := r.low * scale
  let high := r.high * scale
  if r.closed then low ≤ x && x ≤ high else low < x && x < high

/-- The point of the grid `10 ^ power` nearest to the centre among its two
neighbours, if one of them lies in the interval; a tie goes up. -/
def Rounding.pointOn? (r : Rounding) (power : Int) : Option Decimal :=
  let scale := r.numerator * Nat.pow 10 (-power).toNat
  let step := Nat.pow 10 power.toNat * r.denominator
  let down := r.centre * scale / step
  let remainder := r.centre * scale % step
  let downHolds := r.holds down power
  let upHolds := remainder != 0 && r.holds (down + 1) power
  if upHolds && (!downHolds || 2 * remainder ≥ step) then some ⟨down + 1, power⟩
  else if downHolds then some ⟨down, power⟩
  else none

/-- How many digits the centre has before the point; a negative count says how
many zeros follow the point before the first digit. -/
def Rounding.magnitude (r : Rounding) : Int :=
  ((digits (r.centre * r.numerator * Nat.pow 10 400 / r.denominator)).length : Int) - 400

/-- The decimal with the fewest digits in the interval, trying up to seventeen. -/
def Rounding.shortest (r : Rounding) : Decimal :=
  let magnitude := r.magnitude
  let found := (List.range 17).findSome? fun i => r.pointOn? (magnitude - (i + 1 : Nat))
  found.getD ⟨0, 0⟩

/-- A decimal written without an exponent. -/
def Decimal.plain (d : Decimal) : List Char :=
  let ds := digits d.coefficient
  if d.power ≥ 0 then ds ++ List.replicate d.power.toNat '0'
  else
    let places := (-d.power).toNat
    let padded := List.replicate (places + 1 - ds.length) '0' ++ ds
    let whole := padded.take (padded.length - places)
    let fraction := padded.drop (padded.length - places)
    let fraction := (fraction.reverse.dropWhile (· == '0')).reverse
    if fraction.isEmpty then whole else whole ++ '.' :: fraction

/-- The digits of a positive or zero finite number. -/
def magnitudeText (mantissa : Nat) (exponent : Int) : List Char :=
  match whole? mantissa exponent with
  | some n => if n < Nat.pow 10 15 then digits n else fewest
  | none => fewest
where
  fewest : List Char :=
    let (m, q) := normalize mantissa exponent
    (Rounding.of m q).shortest.plain

/-- The text of a number. -/
def text : Number → String
  | nan => "NaN"
  | infinite false => "inf"
  | infinite true => "-inf"
  | finite negative mantissa exponent =>
    String.ofList ((if negative && mantissa != 0 then ['-'] else []) ++
      magnitudeText mantissa exponent)

end Almanac.Number
