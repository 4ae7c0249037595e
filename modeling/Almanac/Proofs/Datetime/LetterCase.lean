import Almanac.Proofs.Datetime.MissedDates

/-!
# Letter case in dates

Matching looks at the characters of a text in three ways: whether one is white space, which
digit it is, and which letter it is in any case. White space and digits are the lower case of
themselves only, so that texts with the same lower case, character by character, have the same
white space and the same digits at the same places (`takeWhile_eq_of_lower_eq`). They allow the
same segments for every directive (`segments_eq_of_lower_eq`), also where the names of the
locale are written in other case, and so they are matched and read alike
(`matchPieces?_eq_of_lower_eq`, `read?_eq_of_sameUpToCase`). The lower case of a character may
be longer than a character; it is compared as a whole.
-/

namespace Almanac

open Text

/-! ## Texts and locales up to case -/

/-- Whether two lists have the same names, up to the case of each letter. -/
def SameNames (names names' : List String) : Prop :=
  names.map (fun name => name.toList.map lower) = names'.map fun name => name.toList.map lower

instance (names names' : List String) : Decidable (SameNames names names') :=
  inferInstanceAs (Decidable (_ = _))

/-- Whether two locales have the same names, up to the case of each letter, and the same usual
formats. -/
structure Locale.SameUpToCase (a b : Locale) : Prop where
  months : SameNames a.months b.months
  shortMonths : SameNames a.shortMonths b.shortMonths
  weekdays : SameNames a.weekdays b.weekdays
  shortWeekdays : SameNames a.shortWeekdays b.shortWeekdays
  meridiem : SameNames a.meridiem b.meridiem
  dateFormat : a.dateFormat = b.dateFormat
  timeFormat : a.timeFormat = b.timeFormat

theorem Locale.SameUpToCase.refl (a : Locale) : a.SameUpToCase a :=
  ⟨rfl, rfl, rfl, rfl, rfl, rfl, rfl⟩

namespace Datetime

variable {input input' : List Char}

/-! ## Segments -/

/-- Characters that stand alone are the same at the front of texts with one lower case. -/
theorem takeWhile_eq_of_lower_eq {p : Char → Bool} (halone : ∀ d, p d = true → StandsAlone d)
    (h : input.map lower = input'.map lower) : input.takeWhile p = input'.takeWhile p := by
  induction input generalizing input' with
  | nil => rw [List.map_eq_nil_iff.mp h.symm]
  | cons c cs ih =>
    cases input' with
    | nil => cases h
    | cons c' cs' =>
      rw [List.map_cons, List.map_cons, List.cons_eq_cons] at h
      rw [List.takeWhile_cons, List.takeWhile_cons, apply_eq_of_lower_eq halone h.1]
      cases hp : p c' with
      | false => rfl
      | true => rw [(halone c' hp).eq_of_lower_eq h.1, ih h.2]

theorem map_lower_drop (h : input.map lower = input'.map lower) (n : Nat) :
    (input.drop n).map lower = (input'.drop n).map lower := by
  rw [List.map_drop, List.map_drop, h]

theorem map_lower_take (h : input.map lower = input'.map lower) (n : Nat) :
    (input.take n).map lower = (input'.take n).map lower := by
  rw [List.map_take, List.map_take, h]

/-- The digits that a number can take are the same. -/
theorem Numeral.segments_eq_of_lower_eq (n : Numeral) (h : input.map lower = input'.map lower) :
    n.segments input = n.segments input' := by
  have hdigits : ∀ k, (input.take k).takeWhile isAsciiDigit =
      (input'.take k).takeWhile isAsciiDigit := fun k =>
    takeWhile_eq_of_lower_eq standsAlone_of_isAsciiDigit (map_lower_take h k)
  have hwidths : n.widths input = n.widths input' := by
    rw [widths, widths, hdigits]
  have htake : ∀ width ∈ n.widths input', input.take width = input'.take width := by
    intro width hwidth
    have hall := (mem_widths.mp hwidth).2.2
    have hall' := (mem_widths.mp (hwidths ▸ hwidth)).2.2
    rw [← List.takeWhile_eq_self_iff.mpr hall, ← List.takeWhile_eq_self_iff.mpr hall', hdigits]
  have hchoices : n.choices input = n.choices input' := by
    rw [choices, choices, hwidths]
    exact List.filterMap_congr fun width hwidth => by rw [htake width hwidth]
  rw [segments_eq, segments_eq, hchoices]

/-- The names at the front of a text by its lower case and theirs. -/
theorem nameSegments_eq_lower (names : List String) (reading : Nat → Reading)
    (input : List Char) :
    nameSegments names reading input =
      (names.map fun name => name.toList.map lower).zipIdx.filterMap fun (letters, i) =>
        if !letters.isEmpty && letters.isPrefixOf (input.map lower) then
          some (letters.length, reading i)
        else none := by
  rw [nameSegments, List.zipIdx_map, List.filterMap_map]
  refine List.filterMap_congr fun (name, i) _ => ?_
  have hbegins : beginsName name.toList input =
      (name.toList.map lower).isPrefixOf (input.map lower) := by
    rw [Bool.eq_iff_iff, beginsName_iff, List.isPrefixOf_iff_prefix]
  simp only [Function.comp_apply, Prod.map_apply, id_eq, hbegins, List.isEmpty_map,
    List.length_map]

theorem nameSegments_eq_of_lower_eq {names names' : List String} (hnames : SameNames names names')
    (reading : Nat → Reading) (h : input.map lower = input'.map lower) :
    nameSegments names reading input = nameSegments names' reading input' := by
  rw [nameSegments_eq_lower, nameSegments_eq_lower, hnames, h]

section Matching

variable {locale locale' : Locale} (hlocale : locale.SameUpToCase locale')
include hlocale

theorem Directive.sameNames (d : Directive) : SameNames (d.names locale) (d.names locale') := by
  cases d with
  | meridiem => exact hlocale.meridiem
  | monthName => exact hlocale.months
  | shortMonthName => exact hlocale.shortMonths
  | weekdayName => exact hlocale.weekdays
  | shortWeekdayName => exact hlocale.shortWeekdays
  | _ => rfl

theorem Directive.segments_eq_of_lower_eq (d : Directive)
    (h : input.map lower = input'.map lower) :
    d.segments locale input = d.segments locale' input' := by
  cases hd : d.numeral? with
  | some n =>
    rw [segments_of_numeral? hd, segments_of_numeral? hd]
    exact n.segments_eq_of_lower_eq h
  | none =>
    rw [segments_of_names hd, segments_of_names hd]
    exact nameSegments_eq_of_lower_eq (d.sameNames hlocale) d.meaning h

/-! ## Matching -/

/-- **Matching looks at letters in any case.** -/
theorem matchPieces?_eq_of_lower_eq (pieces : List Piece) (fields : Fields)
    (h : input.map lower = input'.map lower) :
    matchPieces? locale pieces input fields = matchPieces? locale' pieces input' fields := by
  induction pieces generalizing input input' fields with
  | nil =>
    have hempty : input.isEmpty = input'.isEmpty := by
      rw [← List.isEmpty_map (f := lower), h, List.isEmpty_map]
    rw [matchPieces?, matchPieces?, hempty]
  | cons piece pieces ih =>
    cases piece with
    | space =>
      have hblanks := takeWhile_eq_of_lower_eq standsAlone_of_isBlank h
      have hrest := map_lower_drop h (input'.takeWhile isBlank).length
      rw [drop_length_takeWhile, ← hblanks, drop_length_takeWhile] at hrest
      rw [matchPieces?, matchPieces?, hblanks, ih fields hrest]
    | literal l =>
      cases input with
      | nil => rw [List.map_eq_nil_iff.mp h.symm]; rfl
      | cons c cs =>
        cases input' with
        | nil => cases h
        | cons c' cs' =>
          rw [List.map_cons, List.map_cons, List.cons_eq_cons] at h
          have hsame : sameLetter c l = sameLetter c' l := by
            rw [Bool.eq_iff_iff, sameLetter_iff, sameLetter_iff, h.1]
          rw [matchPieces?, matchPieces?, hsame, ih fields h.2]
    | directive d =>
      rw [matchPieces?, matchPieces?, d.segments_eq_of_lower_eq hlocale h]
      simp only [fun width reading => ih (fields.add reading) (map_lower_drop h width)]

/-- Formats do not depend on names. -/
theorem compile?_eq_of_sameUpToCase (format : String) :
    Piece.compile? locale format = Piece.compile? locale' format := by
  have husual : Piece.usualFormat? locale = Piece.usualFormat? locale' := by
    funext letter
    rw [Piece.usualFormat?, Piece.usualFormat?, hlocale.dateFormat, hlocale.timeFormat]
  rw [Piece.compile?, Piece.compile?, husual]

/-- **Letter case never matters to reading.** Texts of which each character has the same lower
case, read with names of which each character has the same lower case, state the same in every
format. -/
theorem read?_eq_of_sameUpToCase (format : String) {text text' : String}
    (h : text.toList.map lower = text'.toList.map lower) :
    read? locale format text = read? locale' format text' := by
  rw [read?, read?, compile?_eq_of_sameUpToCase hlocale]
  simp only [matchPieces?_eq_of_lower_eq hlocale _ _ h]

end Matching

/-- The sign for kelvins and the dotted capital, of which the lower case is two characters, in
the text and in the names. -/
theorem read?_eq_of_sameUpToCase_kelvin :
    let locale : Locale := { Locale.english with months := ["leden", "İkřen"] }
    let locale' : Locale := { Locale.english with months := ["LEDEN", "İ\u212aŘeN"] }
    locale.SameUpToCase locale' ∧
      "07. İ\u212aŘEN 2024, 9 pM".toList.map lower = "07. İkřen 2024, 9 Pm".toList.map lower ∧
      read? locale "%d. %B %Y, %I %p" "07. İ\u212aŘEN 2024, 9 pM" =
        read? locale' "%d. %B %Y, %I %p" "07. İkřen 2024, 9 Pm" ∧
      (read? locale' "%d. %B %Y, %I %p" "07. İkřen 2024, 9 Pm").isSome = true := by
  intro locale locale'
  have hlocale : locale.SameUpToCase locale' :=
    ⟨by decide +kernel, rfl, rfl, rfl, rfl, rfl, rfl⟩
  have htext : "07. İ\u212aŘEN 2024, 9 pM".toList.map lower =
      "07. İkřen 2024, 9 Pm".toList.map lower := by decide +kernel
  exact ⟨hlocale, htext, read?_eq_of_sameUpToCase hlocale _ htext, by decide +kernel⟩

end Datetime

end Almanac
