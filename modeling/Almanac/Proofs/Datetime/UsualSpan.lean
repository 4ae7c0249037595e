import Mathlib.Data.List.Basic
import Almanac.Proofs.Datetime.RangeFormats
import Almanac.Proofs.Datetime.UsualTexts
import Almanac.Proofs.Text.Characters

/-!
# What the usual format of a range of times reads

A reading is taken back to the text: a number was read off digits, a literal off itself, and
white space off white space. So a text that the usual format of a range of times reads begins
with a day in the usual format, and behind it stands the first of its times
(`exists_of_matchPieces?_usualSpan`).
-/

namespace Almanac

open Text

theorem Date.parts_of_of? {year month day : Nat} {date : Date}
    (h : Date.of? year month day = some date) :
    date.year = year ∧ date.month = month ∧ date.day = day := by
  unfold Date.of? at h
  split at h
  · cases h
    exact ⟨rfl, rfl, rfl⟩
  · cases h

theorem TimeOfDay.parts_of_of? {hour minute second micro : Nat} {time : TimeOfDay}
    (h : TimeOfDay.of? hour minute second micro = some time) :
    (time.hour = hour ∧ time.minute = minute) ∧ time.second = second ∧ time.micro = micro := by
  unfold TimeOfDay.of? at h
  split at h
  · cases h
    exact ⟨⟨rfl, rfl⟩, rfl, rfl⟩
  · cases h

/-- Times without seconds are told apart by hour and minute. -/
theorem TimeOfDay.eq_of_parts {t v : TimeOfDay} (hhour : t.hour = v.hour)
    (hminute : t.minute = v.minute) (ht : t.second = 0 ∧ t.micro = 0)
    (hv : v.second = 0 ∧ v.micro = 0) : t = v := by
  have htime := TimeOfDay.of?_self t
  have htime' := TimeOfDay.of?_self v
  rw [hhour, hminute, ht.1, ht.2] at htime
  rw [hv.1, hv.2] at htime'
  exact Option.some.inj (htime.symm.trans htime')

namespace Datetime

variable {locale : Locale} {pieces : List Piece} {input : List Char} {fields result : Fields}

/-! ## One piece -/

/-- A number is read off digits, as many as it allows and with a value in its range. -/
theorem exists_digits_of_matchPieces? {directive : Directive} {numeral : Numeral}
    (hnumeral : directive.segments locale input = numeral.segments input)
    (h : matchPieces? locale (.directive directive :: pieces) input fields = some result) :
    ∃ ds rest, input = ds ++ rest ∧ (∀ c ∈ ds, isAsciiDigit c = true) ∧
      (numeral.least ≤ ds.length ∧ ds.length ≤ numeral.most) ∧
      (numeral.low ≤ Number.value ds ∧ Number.value ds ≤ numeral.high) ∧
      matchPieces? locale pieces rest (fields.add
        (.number numeral.slot (numeral.meaning ds.length (Number.value ds)))) = some result := by
  rw [matchPieces?, hnumeral] at h
  obtain ⟨⟨width, reading⟩, hmem, hmatch⟩ := List.exists_of_findSome?_eq_some h
  have hdigits : ∀ c ∈ input.take width, isAsciiDigit c = true := fun c =>
    numeral.isAsciiDigit_of_mem_segments hmem
  unfold Numeral.segments at hmem
  obtain ⟨w, hw, hsome⟩ := List.mem_filterMap.mp hmem
  dsimp only at hsome
  split at hsome
  · next hrange =>
    obtain ⟨rfl, rfl⟩ := Prod.mk.inj (Option.some.inj hsome)
    rw [Bool.and_eq_true, decide_eq_true_eq, decide_eq_true_eq] at hrange
    rw [List.mem_reverse, List.mem_range'_1] at hw
    have havailable : ((input.take numeral.most).takeWhile isAsciiDigit).length ≤
        min numeral.most input.length :=
      (List.takeWhile_prefix _).length_le.trans_eq List.length_take
    have hlength : (input.take w).length = w := by
      rw [List.length_take]
      omega
    refine ⟨input.take w, input.drop w, (List.take_append_drop w input).symm, hdigits, ?_,
      hrange, ?_⟩
    · rw [hlength]
      omega
    · rw [hlength]
      exact hmatch
  · cases hsome

theorem exists_of_matchPieces?_literal {l : Char} (hl : isUncased l = true)
    (h : matchPieces? locale (.literal l :: pieces) input fields = some result) :
    ∃ rest, input = l :: rest ∧ matchPieces? locale pieces rest fields = some result := by
  cases input with
  | nil => cases h
  | cons c rest =>
    rw [matchPieces?] at h
    split at h
    · next hsame => exact ⟨rest, by rw [eq_of_sameLetter hl hsame], h⟩
    · cases h

theorem exists_of_matchPieces?_space
    (h : matchPieces? locale (.space :: pieces) input fields = some result) :
    ∃ blanks rest, input = blanks ++ rest ∧ blanks ≠ [] ∧ (∀ c ∈ blanks, isBlank c = true) ∧
      matchPieces? locale pieces rest fields = some result := by
  rw [matchPieces?] at h
  split at h
  · cases h
  · next hblanks =>
    exact ⟨_, _, List.takeWhile_append_dropWhile.symm, mt List.isEmpty_iff.mpr hblanks,
      fun _ => List.mem_takeWhile_imp, h⟩

/-! ## A day and two times -/

theorem isNumberText_value {ds : List Char} (hds : ∀ c ∈ ds, isAsciiDigit c = true)
    (hlength : 1 ≤ ds.length ∧ ds.length ≤ 2) : IsNumberText (Number.value ds) ds := by
  have hpadded := Number.paddedDigits_value (List.length_pos_iff.mp hlength.1) hds
  rcases Nat.lt_or_eq_of_le hlength.2 with hone | htwo
  · have hpos := List.length_pos_iff.mpr (Number.digits_ne_nil (Number.value ds))
    have hnone : ds.length - (Number.digits (Number.value ds)).length = 0 := by omega
    rw [Number.paddedDigits, hnone] at hpadded
    exact .inl hpadded.symm
  · rw [htwo] at hpadded
    exact .inr hpadded.symm

/-- A text that the usual format of a range of times reads. -/
theorem exists_of_matchPieces?_usualSpan {date : Date} {time : TimeOfDay}
    (h : matchPieces? locale (datePieces ++ .space :: (timePieces ++ .literal '-' :: timePieces))
      input {} = some result) (hmoment : result.moment? = some (date, time)) :
    ∃ x blanks ts rest, input = x ++ (blanks ++ (ts ++ '-' :: rest)) ∧ IsPlainDate date x ∧
      (1 ≤ date.year ∧ date.year ≤ 9999) ∧ blanks ≠ [] ∧ (∀ c ∈ blanks, isBlank c = true) ∧
      IsTimeText time ts ∧ time.second = 0 ∧ time.micro = 0 := by
  obtain ⟨day, rest, rfl, hday, hdayLength, -, h⟩ := exists_digits_of_matchPieces?
    (rfl : Directive.day.segments locale _ = Numeral.segments ⟨.day, 1, 2, 1, 31, _⟩ _) h
  obtain ⟨rest, rfl, h⟩ := exists_of_matchPieces?_literal (by decide) h
  obtain ⟨month, rest, rfl, hmonth, hmonthLength, -, h⟩ := exists_digits_of_matchPieces?
    (rfl : Directive.month.segments locale _ = Numeral.segments ⟨.month, 1, 2, 1, 12, _⟩ _) h
  obtain ⟨rest, rfl, h⟩ := exists_of_matchPieces?_literal (by decide) h
  obtain ⟨year, rest, rfl, hyear, hyearLength, hyearRange, h⟩ := exists_digits_of_matchPieces?
    (rfl : Directive.year.segments locale _ = Numeral.segments ⟨.year, 4, 4, 1, 9999, _⟩ _) h
  obtain ⟨blanks, rest, rfl, hne, hblanks, h⟩ := exists_of_matchPieces?_space h
  obtain ⟨hour, rest, rfl, hhour, hhourLength, -, h⟩ := exists_digits_of_matchPieces?
    (rfl : Directive.hour.segments locale _ = Numeral.segments ⟨.hour, 1, 2, 0, 23, _⟩ _) h
  obtain ⟨rest, rfl, h⟩ := exists_of_matchPieces?_literal (by decide) h
  obtain ⟨minute, rest, rfl, hminute, hminuteLength, -, h⟩ := exists_digits_of_matchPieces?
    (rfl : Directive.minute.segments locale _ = Numeral.segments ⟨.minute, 1, 2, 0, 59, _⟩ _) h
  obtain ⟨rest, rfl, h⟩ := exists_of_matchPieces?_literal (by decide) h
  obtain ⟨hour', later, hrest, -, -, -, h⟩ := exists_digits_of_matchPieces?
    (rfl : Directive.hour.segments locale _ = Numeral.segments ⟨.hour, 1, 2, 0, 23, _⟩ _) h
  obtain ⟨later, rfl, h⟩ := exists_of_matchPieces?_literal (by decide) h
  obtain ⟨minute', later, rfl, -, -, -, h⟩ := exists_digits_of_matchPieces?
    (rfl : Directive.minute.segments locale _ = Numeral.segments ⟨.minute, 1, 2, 0, 59, _⟩ _) h
  have hresult : result.date? = Date.of? (Number.value year) (Number.value month)
        (Number.value day) ∧
      result.time? = TimeOfDay.of? (Number.value hour) (Number.value minute) 0 0 := by
    rw [matchPieces?] at h
    split at h
    · cases h
      exact ⟨rfl, rfl⟩
    · cases h
  obtain ⟨date', hdate, hmoment⟩ := Option.bind_eq_some_iff.mp hmoment
  obtain ⟨time', htime, hmoment⟩ := Option.bind_eq_some_iff.mp hmoment
  obtain ⟨rfl, rfl⟩ := Prod.mk.inj (Option.some.inj hmoment)
  rw [hresult.1] at hdate
  rw [hresult.2] at htime
  obtain ⟨hyear', hmonth', hday'⟩ := Date.parts_of_of? hdate
  obtain ⟨⟨hhour', hminute'⟩, hsecond, hmicro⟩ := TimeOfDay.parts_of_of? htime
  have hyearText : year = Number.paddedDigits 4 date'.year := by
    have hlength : year.length = 4 := Nat.le_antisymm hyearLength.2 hyearLength.1
    rw [hyear', ← hlength, Number.paddedDigits_value (List.length_pos_iff.mp (by omega)) hyear]
  refine ⟨day ++ '.' :: (month ++ '.' :: year), blanks, hour ++ ':' :: minute, rest, by simp,
    ⟨day, month, ?_, ?_, by rw [← hyearText]⟩, hyear' ▸ hyearRange, hne, hblanks,
    ⟨hour, minute, ?_, ?_, rfl⟩, hsecond, hmicro⟩
  · exact hday' ▸ isNumberText_value hday hdayLength
  · exact hmonth' ▸ isNumberText_value hmonth hmonthLength
  · exact hhour' ▸ isNumberText_value hhour hhourLength
  · exact hminute' ▸ isNumberText_value hminute hminuteLength

end Datetime

end Almanac
