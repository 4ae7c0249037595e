/-!
# Binary numbers with rounding

The numbers that selector expressions compute with: a sign, a natural number and
a power of two, next to the two infinities and the one value that is no number.
A number that comes from decimal digits or a quotient is rounded to fifty-three
binary digits, with ties going to the even neighbour; a number too large for the
exponent range becomes infinite and one too small becomes zero. Comparing looks
at values, so one value may be held in several ways.
-/

namespace Almanac

/-- A number: `± mantissa · 2 ^ exponent`, infinite, or no number at all. -/
inductive Number where
  | nan
  | infinite (negative : Bool)
  | finite (negative : Bool) (mantissa : Nat) (exponent : Int)
  deriving Repr, DecidableEq, Inhabited

namespace Number

/-! ## Rounding -/

/-- The binary digits that a number keeps. -/
def precision : Nat := 53

/-- The least exponent of a rounded number. -/
def leastExponent : Int := -1074

/-- The exponent from which on a number counts as infinite. -/
def overflowExponent : Int := 1024

/-- `num / den` rounded to the nearest natural number, ties to even. -/
def roundDiv (num den : Nat) : Nat :=
  let m := num / den
  let r := num % den
  if 2 * r > den || (2 * r == den && m % 2 == 1) then m + 1 else m

/-- The quotient `num / den` in units of `2 ^ exponent`, rounded. -/
def roundAt (num den : Nat) (exponent : Int) : Nat :=
  roundDiv (num * Nat.pow 2 (-exponent).toNat) (den * Nat.pow 2 exponent.toNat)

/-- The natural number `mantissa · 2 ^ exponent`, if it is one. -/
def whole? (mantissa : Nat) (exponent : Int) : Option Nat :=
  let divisor := Nat.pow 2 (-exponent).toNat
  if mantissa % divisor = 0 then some (mantissa / divisor * Nat.pow 2 exponent.toNat) else none

/-- The number `± mantissa · 2 ^ exponent`. A natural number below `2 ^ 53` is held as
it is. -/
def hold (negative : Bool) (mantissa : Nat) (exponent : Int) : Number :=
  match (whole? mantissa exponent).filter (· < Nat.pow 2 precision) with
  | some n => finite negative n 0
  | none => finite negative mantissa exponent

/-- The number nearest to `num / den`. -/
def ofQuotient (negative : Bool) (num den : Nat) : Number :=
  if num % den = 0 && num / den < Nat.pow 2 precision then finite negative (num / den) 0
  else
    let estimate : Int := (Nat.log2 num : Int) - Nat.log2 den - precision
    let low := max estimate leastExponent
    let exponent := if roundAt num den low < Nat.pow 2 precision then low else low + 1
    let mantissa := roundAt num den exponent
    if exponent + Nat.log2 mantissa ≥ overflowExponent then infinite negative
    else hold negative mantissa exponent

/-- A natural number, rounded when it is large. -/
def ofNat (n : Nat) : Number := ofQuotient false n 1

/-- One for true and zero for false. -/
def ofBool (b : Bool) : Number := ofNat (if b then 1 else 0)

/-! ## Comparing -/

/-- A signed mantissa in units of `2 ^ unit`, for a unit not above `exponent`. -/
def scaled (negative : Bool) (mantissa : Nat) (exponent unit : Int) : Int :=
  let m : Int := mantissa * Nat.pow 2 (exponent - unit).toNat
  if negative then -m else m

/-- How two numbers compare by value; nothing compares with what is no number. -/
def compare? : Number → Number → Option Ordering
  | nan, _ => none
  | _, nan => none
  | infinite a, infinite b => some (compare (if a then 0 else 1) (if b then 0 else 1))
  | infinite a, finite _ _ _ => some (if a then .lt else .gt)
  | finite _ _ _, infinite b => some (if b then .gt else .lt)
  | finite a m p, finite b n q =>
    let unit := min p q
    some (compare (scaled a m p unit) (scaled b n q unit))

/-- Whether two numbers have one value. -/
def equal (a b : Number) : Bool := compare? a b == some .eq

/-- Whether `a` lies below `b`. -/
def less (a b : Number) : Bool := compare? a b == some .lt

/-- Whether a number is neither zero nor no number. -/
def isNonzero : Number → Bool
  | nan => false
  | infinite _ => true
  | finite _ m _ => m != 0

end Number

end Almanac
