import Almanac.Text.Class

/-!
# Decimal digits

Natural numbers written in decimal digits, without leading zeros, and read back.
`value_digits` says that reading a written number gives the number.
-/

namespace Almanac.Number

open Almanac.Text

/-- The digit that stands for `d`, below ten. -/
def digitChar (d : Nat) : Char := Char.ofNat (48 + d)

/-- A natural number in decimal digits; zero is one digit. -/
def digits (n : Nat) : List Char :=
  if n < 10 then [digitChar n] else digits (n / 10) ++ [digitChar (n % 10)]
termination_by n

/-- The number that a list of decimal digits stands for. -/
def value (cs : List Char) : Nat := cs.foldl (fun acc c => acc * 10 + asciiDigitValue c) 0

/-- The digits of `n` with zeros in front up to `width` digits. -/
def paddedDigits (width n : Nat) : List Char :=
  let ds := digits n
  List.replicate (width - ds.length) '0' ++ ds

theorem asciiDigitValue_digitChar {d : Nat} (h : d < 10) : asciiDigitValue (digitChar d) = d := by
  have : ∀ d : Fin 10, asciiDigitValue (digitChar d.val) = d.val := by decide
  exact this ⟨d, h⟩

theorem isAsciiDigit_digitChar {d : Nat} (h : d < 10) : isAsciiDigit (digitChar d) = true := by
  have : ∀ d : Fin 10, isAsciiDigit (digitChar d.val) = true := by decide
  exact this ⟨d, h⟩

theorem value_append_singleton (cs : List Char) (c : Char) :
    value (cs ++ [c]) = value cs * 10 + asciiDigitValue c := by
  simp [value]

/-- Reading a written number gives the number. -/
theorem value_digits (n : Nat) : value (digits n) = n := by
  induction n using Nat.strongRecOn with
  | ind n ih =>
    rw [digits]
    split
    · next h => simp [value, asciiDigitValue_digitChar h]
    · next h =>
      rw [value_append_singleton, ih (n / 10) (by omega),
        asciiDigitValue_digitChar (Nat.mod_lt _ (by decide))]
      omega

/-- A written number holds digits only. -/
theorem isAsciiDigit_of_mem_digits {n : Nat} {c : Char} (h : c ∈ digits n) :
    isAsciiDigit c = true := by
  induction n using Nat.strongRecOn with
  | ind n ih =>
    rw [digits] at h
    split at h
    · next hn =>
      obtain rfl := List.mem_singleton.mp h
      exact isAsciiDigit_digitChar hn
    · rcases List.mem_append.mp h with h | h
      · exact ih (n / 10) (by omega) h
      · obtain rfl := List.mem_singleton.mp h
        exact isAsciiDigit_digitChar (Nat.mod_lt _ (by decide))

end Almanac.Number
