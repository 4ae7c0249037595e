import Almanac.Number.Digits
import Almanac.Text.Search
import Almanac.Url.Percent

/-!
# Numeric hosts

Internet addresses as hosts: those of four bytes, written with dots, and those of
eight words, written with colons.
-/

namespace Almanac.Url

open Almanac.Text

/-! ## Four bytes -/

/-- The number that hexadecimal digits stand for. -/
def hexNumber (digits : List Char) : Nat :=
  digits.foldl (fun n d => n * 16 + (hexValue? d).getD 0) 0

/-- The number that octal digits stand for. -/
def octalNumber (digits : List Char) : Nat :=
  digits.foldl (fun n d => n * 8 + (d.toNat - 48)) 0

/-- A part of an address: hexadecimal behind `0x`, octal behind `0`, else decimal. -/
def addressNumber? (part : List Char) : Option Nat :=
  match part with
  | [] => none
  | '0' :: 'x' :: digits | '0' :: 'X' :: digits =>
    if digits.all fun d => (hexValue? d).isSome then some (hexNumber digits) else none
  | '0' :: d :: digits =>
    if (d :: digits).all fun d => '0' ≤ d && d ≤ '7' then some (octalNumber (d :: digits))
    else none
  | digits => if digits.all isAsciiDigit then some (Number.value digits) else none

/-- The parts of a host between its dots, without an empty one at the end. -/
def addressParts (host : List Char) : List (List Char) :=
  let parts := splitAll ['.'] host
  if parts.length > 1 && parts.getLast? = some [] then parts.dropLast else parts

/-- Whether a host ends in a number, so that it must be an address. -/
def endsInNumber (host : List Char) : Bool :=
  match (addressParts host).getLast? with
  | none => false
  | some part => (!part.isEmpty && part.all isAsciiDigit) || (addressNumber? part).isSome

/-- The number of an address: the last part takes up all bytes that are left. -/
def ipv4? (host : List Char) : Option Nat := do
  let parts := addressParts host
  guard (parts.length ≤ 4)
  let numbers ← parts.mapM addressNumber?
  let last ← numbers.getLast?
  let front := numbers.dropLast
  guard (front.all (· ≤ 255))
  let places := Nat.pow 256 (4 - front.length)
  guard (last < places)
  return front.foldl (fun n part => n * 256 + part) 0 * places + last

/-- An address of four bytes with dots between them. -/
def ipv4Text (n : Nat) : List Char :=
  ['.'].intercalate
    ([n / 16777216, n / 65536 % 256, n / 256 % 256, n % 256].map Number.digits)

/-! ## Eight words -/

/-- Four decimal bytes with dots between them, none with a leading zero. -/
def trailingIpv4? (cs : List Char) : Option (List Nat) := do
  let parts := splitAll ['.'] cs
  guard (parts.length = 4)
  let bytes ← parts.mapM fun part =>
    if part.all isAsciiDigit && !part.isEmpty && (part.head? != some '0' || part.length = 1) &&
        Number.value part ≤ 255 then some (Number.value part)
    else none
  match bytes with
  | [a, b, c, d] => return [a * 256 + b, c * 256 + d]
  | _ => none

/-- The words of an address from a place on: `before` are those already read, and
`gap` is the place at which zeros are left out. -/
def ipv6Words? (before : List Nat) (gap : Option Nat) (cs : List Char) :
    Option (List Nat × Option Nat) :=
  match cs with
  | [] => some (before, gap)
  | ':' :: rest =>
    if before.length ≥ 8 || gap.isSome then none
    else ipv6Words? (before ++ [0]) (some (before.length + 1)) rest
  | c :: rest =>
    if before.length ≥ 8 then none
    else
      let digits := (c :: rest).takeWhile fun d => (hexValue? d).isSome
      let word := digits.take 4
      match _h : (c :: rest).drop word.length with
      | [] => some (before ++ [hexNumber word], gap)
      | '.' :: _ =>
        if word.isEmpty || before.length > 6 then none
        else (trailingIpv4? (c :: rest)).map fun words => (before ++ words, gap)
      | ':' :: more =>
        if more.isEmpty then none else ipv6Words? (before ++ [hexNumber word]) gap more
      | _ => none
termination_by cs.length
decreasing_by
  · simp
  · have := congrArg List.length _h
    simp only [List.length_drop, List.length_cons] at this
    simp only [List.length_cons]
    omega

/-- The eight words of an address. -/
def ipv6? (cs : List Char) : Option (List Nat) := do
  let (words, gap) ←
    match cs with
    | ':' :: ':' :: rest => ipv6Words? [0] (some 1) rest
    | ':' :: _ => none
    | cs => ipv6Words? [] none cs
  match gap with
  | some gap => return words.take gap ++ List.replicate (8 - words.length) 0 ++ words.drop gap
  | none => if words.length = 8 then return words else none

/-- The first longest run of two or more zeros: where it begins and its length. -/
def longestZeros (words : List Nat) : Nat × Nat :=
  let runs := (List.range words.length).map fun i =>
    (i, ((words.drop i).takeWhile (· == 0)).length)
  runs.foldl (fun best run => if run.2 > best.2 then run else best) (0, 1)

/-- A word in hexadecimal digits without leading zeros. -/
def wordText (n : Nat) : List Char :=
  let digits := [n / 4096 % 16, n / 256 % 16, n / 16 % 16, n % 16].dropWhile (· == 0)
  (if digits.isEmpty then [0] else digits).map fun d =>
    Char.ofNat (if d < 10 then 48 + d else 87 + d)

/-- An address of eight words with colons between them; two colons stand for the first
longest run of zeros. -/
def ipv6Text (words : List Nat) : List Char :=
  let (start, count) := longestZeros words
  let joined (words : List Nat) : List Char := [':'].intercalate (words.map wordText)
  if count < 2 then joined words
  else joined (words.take start) ++ [':', ':'] ++ joined (words.drop (start + count))

end Almanac.Url
