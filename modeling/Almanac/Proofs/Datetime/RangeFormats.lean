import Mathlib.Tactic.FinCases
import Almanac.Datetime.Normalizer
import Almanac.Proofs.Datetime.Layout

/-!
# Formats of ranges

A template that declares ranges of dates, and perhaps ranges of times, in the usual formats
has few candidates (`candidates_dates`, `candidates_dates_times`). To work them out, a range
macro with any delimiter is followed through the combination of dates with times
(`reorderWith_separated`), the replacement of dashes, and compaction (`compactChars_range`).
All these steps look for characters and pieces of text; that they find the ones that are
meant is what `IsDelimiter`, `IsRangeStart` and `IsRangeEnd` are for.
-/

namespace Almanac.Datetime

open Almanac.Text

/-! ## Delimiters -/

/-- What can stand between the two ends of a range: a text without white space that neither
the usual formats nor the numbers of a date can be confused with. -/
structure IsDelimiter (s : List Char) : Prop where
  nonempty : s ≠ []
  plain : ∀ c ∈ s, isBlank c = false ∧ isAsciiDigit c = false ∧
    c ∉ ['.', ':', '%', '\x7b', '\x7d']
  apart : occurs s usualMoment.toList = false

instance (s : List Char) : Decidable (IsDelimiter s) :=
  decidable_of_iff
    (s ≠ [] ∧ (s.all fun c => decide (isBlank c = false ∧ isAsciiDigit c = false ∧
      c ∉ ['.', ':', '%', '\x7b', '\x7d'])) = true ∧ occurs s usualMoment.toList = false)
    ⟨fun h => ⟨h.1, fun c hc => of_decide_eq_true (List.all_eq_true.mp h.2.1 c hc), h.2.2⟩,
      fun h => ⟨h.nonempty, List.all_eq_true.mpr fun c hc => decide_eq_true (h.plain c hc),
        h.apart⟩⟩

/-- A text with white space around it. -/
def IsSpaced (s d : List Char) : Prop :=
  ∃ front back, d = front ++ s ++ back ∧ (∀ c ∈ front, isBlank c = true) ∧
    ∀ c ∈ back, isBlank c = true

theorem isSpaced_self (s : List Char) : IsSpaced s s :=
  ⟨[], [], (List.append_nil s).symm, List.forall_mem_nil _, List.forall_mem_nil _⟩

theorem plainDashes_eq_self {cs : List Char} (h : '–' ∉ cs) : plainDashes cs = cs := by
  conv_rhs => rw [← List.map_id cs]
  refine List.map_congr_left fun c hc => if_neg ?_
  rintro rfl
  exact h hc

section Delimiter

variable {s : List Char} (hs : IsDelimiter s)
include hs

theorem IsDelimiter.isBlank_eq_false {c : Char} (hc : c ∈ s) : isBlank c = false :=
  (hs.plain c hc).1

theorem IsDelimiter.not_mem {c : Char} (hc : c ∈ ['.', ':', '%', '\x7b', '\x7d']) : c ∉ s :=
  fun hmem => (hs.plain c hmem).2.2 hc

theorem IsDelimiter.not_mem_of_isBlank {c : Char} (hc : isBlank c = true) : c ∉ s := by
  intro hmem
  rw [hs.isBlank_eq_false hmem] at hc
  cases hc

/-- A delimiter has no percent sign, nor has the white space around it. -/
theorem IsDelimiter.percent_not_mem {d : List Char} (hd : IsSpaced s d) : '%' ∉ d := by
  obtain ⟨before, after, rfl, hbefore, hafter⟩ := hd
  have hblank : ¬ isBlank '%' = true := by decide
  simp only [List.mem_append, not_or]
  exact ⟨⟨fun h => hblank (hbefore _ h), hs.not_mem (by decide)⟩, fun h => hblank (hafter _ h)⟩

theorem IsDelimiter.isTrimmed : IsTrimmed s :=
  isTrimmed_of_solid hs.nonempty fun _ => hs.isBlank_eq_false

theorem IsDelimiter.plainDashes : IsDelimiter (plainDashes s) := by
  have hmem : ∀ c ∈ Datetime.plainDashes s, c = '-' ∨ c ∈ s := by
    intro c hc
    obtain ⟨d, hd, rfl⟩ := List.mem_map.mp hc
    split
    · exact .inl rfl
    · exact .inr hd
  refine ⟨by simpa [Datetime.plainDashes] using hs.nonempty, fun c hc => ?_, ?_⟩
  · rcases hmem c hc with rfl | h
    · decide
    · exact hs.plain c h
  · by_cases hdash : '–' ∈ s
    · have hplain : '-' ∈ Datetime.plainDashes s := List.mem_map.mpr ⟨'–', hdash, rfl⟩
      exact occurs_eq_false hplain (by decide)
    · rw [plainDashes_eq_self hdash]
      exact hs.apart

end Delimiter

/-! ## What stands around a range macro -/

/-- What may stand before a range macro: the layout keeps it, and neither delimiters nor the
macro are found in it. -/
structure IsRangeStart (front : List Char) : Prop where
  layout : ∀ cs, layoutFrom isTight true false (front ++ '%' :: cs) =
    front ++ '%' :: layoutFrom isTight false false cs
  line : '\n' ∉ front
  dashes : '–' ∉ front
  plain : occurs ['%', 'r'] (front ++ ['%']) = false
  trimmed : dropBlank front = front
  apart : ∀ s, IsDelimiter s → occurs s front = false

/-- What may stand behind a range macro. -/
structure IsRangeEnd (back : List Char) : Prop where
  layout : layoutFrom isTight false false back = back
  line : '\n' ∉ back
  dashes : '–' ∉ back
  plain : occurs macroOpening back = false ∧ '\x7b' ∉ back ∧ '\x7d' ∉ back
  trimmed : dropBlankEnd back = back
  apart : ∀ s, IsDelimiter s → occurs s back = false

theorem usualMoment_toList : usualMoment.toList = usualDate.toList ++ ' ' :: usualTime.toList := by
  decide

namespace IsDelimiter

variable {s : List Char} (hs : IsDelimiter s)
include hs

theorem occurs_nil : occurs s [] = false := List.isEmpty_eq_false_iff.mpr hs.nonempty

/-- A delimiter occurs in no usual format. -/
theorem occurs_usualMoment_parts :
    occurs s usualDate.toList = false ∧ occurs s usualTime.toList = false := by
  have h := hs.apart
  rw [usualMoment_toList, occurs_glue (hs.not_mem_of_isBlank (by decide)) hs.nonempty] at h
  exact Bool.or_eq_false_iff.mp h

theorem occurs_space (cs : List Char) : occurs s (' ' :: cs) = occurs s cs := by
  have hblank : ' ' ∉ s := hs.not_mem_of_isBlank (by decide)
  have h := occurs_glue hblank hs.nonempty [] cs
  rwa [hs.occurs_nil] at h

theorem occurs_append_space (cs : List Char) : occurs s (cs ++ [' ']) = occurs s cs := by
  rw [occurs_glue (hs.not_mem_of_isBlank (by decide)) hs.nonempty, hs.occurs_nil, Bool.or_false]

end IsDelimiter

theorem isRangeStart_usualDate : IsRangeStart usualDate.toList where
  layout _ := rfl
  line := by decide
  dashes := by decide
  plain := by decide
  trimmed := by decide
  apart _ hs := hs.occurs_usualMoment_parts.1

/-- The usual format of a moment can stand before a range macro, with a space between them. -/
theorem isRangeStart_usualMoment : IsRangeStart (usualMoment.toList ++ [' ']) where
  layout _ := rfl
  line := by decide
  dashes := by decide
  plain := by decide
  trimmed := by decide
  apart _ hs := (hs.occurs_append_space _).trans hs.apart

theorem isRangeEnd_usualDate : IsRangeEnd usualDate.toList :=
  ⟨rfl, by decide, by decide, by decide, by decide, fun _ hs => hs.occurs_usualMoment_parts.1⟩

theorem isRangeEnd_usualTime : IsRangeEnd usualTime.toList :=
  ⟨rfl, by decide, by decide, by decide, by decide, fun _ hs => hs.occurs_usualMoment_parts.2⟩

theorem isRangeEnd_usualMoment : IsRangeEnd usualMoment.toList :=
  ⟨rfl, by decide, by decide, by decide, by decide, fun _ hs => hs.apart⟩

theorem isRangeEnd_space_usualDate : IsRangeEnd (' ' :: usualDate.toList) :=
  ⟨rfl, by decide, by decide, by decide, by decide, fun _ hs =>
    (hs.occurs_space _).trans hs.occurs_usualMoment_parts.1⟩

theorem isRangeEnd_space_usualMoment : IsRangeEnd (' ' :: usualMoment.toList) :=
  ⟨rfl, by decide, by decide, by decide, by decide, fun _ hs => (hs.occurs_space _).trans hs.apart⟩

/-! ## Compaction -/

section Compaction

variable {s d front back : List Char} (hs : IsDelimiter s) (hd : IsSpaced s d)
  (hfront : IsRangeStart front) (hback : IsRangeEnd back)

include hs hd hback

omit hd in
/-- The macro of a range is found with what is before and behind it. -/
theorem IsDelimiter.splitMacro?_range (hd : IsSpaced s d) (hline : '\n' ∉ d)
    (hfront : '\n' ∉ front) :
    splitMacro? (front ++ rangeMacro d ++ back) = some ⟨front, d, back⟩ :=
  splitMacro?_rangeMacro hfront ⟨hline, hs.percent_not_mem hd⟩ hback.line hback.plain.2.2
    hback.plain.1

include hfront

/-- The layout keeps what stands around the macro, and at most one space on each side of
the delimiter. -/
theorem layout_range :
    ∃ d', IsSpaced s d' ∧ '\n' ∉ d' ∧ layout (front ++ rangeMacro d ++ back) =
      front ++ rangeMacro d' ++ back := by
  obtain ⟨before, after, rfl, hbefore, hafter⟩ := hd
  have hsplit : front ++ rangeMacro (before ++ s ++ after) ++ back =
      front ++ '%' :: (['r', 'a', 'n', 'g', 'e', '\x7b'] ++
        (before ++ (s ++ (after ++ '\x7d' :: back)))) := by
    simp [rangeMacro, macroOpening]
  have hword : ∀ c ∈ ['r', 'a', 'n', 'g', 'e', '\x7b'], isBlank c = false ∧ isTight c = false := by
    intro c hc
    fin_cases hc <;> decide
  have hclosing : isBlank '\x7d' = false := by decide
  obtain ⟨space, glued, hsolid⟩ := @layoutFrom_solid isTight false (false || !before.isEmpty) s
    hs.nonempty (fun c hc => hs.isBlank_eq_false hc) (after ++ '\x7d' :: back)
  rw [layout, hsplit, hfront.layout, layoutFrom_word (List.cons_ne_nil _ _) hword,
    layoutFrom_blanks hbefore, hsolid, layoutFrom_blanks hafter, layoutFrom_char hclosing,
    show isTight '\x7d' = false from rfl, hback.layout]
  generalize ((false || !after.isEmpty) && !glued && !false) = space'
  refine ⟨(if space then [' '] else []) ++ s ++ (if space' then [' '] else []),
    ⟨_, _, rfl, isBlank_of_mem_gap space, isBlank_of_mem_gap space'⟩, ?_, ?_⟩
  · have hline : '\n' ∉ s := hs.not_mem_of_isBlank (by decide)
    cases space <;> cases space' <;> simp [hline]
  · simp [rangeMacro, macroOpening]

omit hfront hback in
/-- Stripping the space around a delimiter leaves the delimiter. -/
theorem stripSides_delimiter : stripSides s false false d = s := by
  obtain ⟨before, after, rfl, hbefore, hafter⟩ := hd
  obtain ⟨c, rest, hcons⟩ := List.ne_nil_iff_exists_cons.mp hs.nonempty
  have hc : c ∈ s := hcons ▸ List.mem_cons_self
  have hnot : ∀ {cs : List Char}, (∀ b ∈ cs, isBlank b = true) → c ∉ cs := by
    intro cs hcs hmem
    exact hs.not_mem_of_isBlank (hcs c hmem) hc
  have hsplit : splitFirst s (before ++ (s ++ after)) = some (before, after) := by
    rw [hcons]
    exact splitFirst_append_piece (hnot hbefore) after
  have hafterNone : splitFirst s after = none :=
    splitFirst_eq_none_iff.mpr (occurs_eq_false hc (hnot hafter))
  rw [List.append_assoc, stripSides_of_some hs.nonempty false false hsplit,
    stripSides_of_none true false hafterNone]
  simp [trimSides, dropBlankEnd_eq_nil hbefore, dropBlank_eq_nil hafter]

/-- White space around the delimiter in a macro goes. -/
theorem stripAround_delimiter :
    stripAround s (front ++ rangeMacro d ++ back) = front ++ rangeMacro s ++ back := by
  have hsplit : ∀ d, front ++ rangeMacro d ++ back =
      front ++ '%' :: (['r', 'a', 'n', 'g', 'e'] ++ '\x7b' :: (d ++ '\x7d' :: back)) := by
    simp [rangeMacro, macroOpening]
  have hword : ∀ c ∈ ['r', 'a', 'n', 'g', 'e'], isBlank c = false := by
    intro c hc
    fin_cases hc <;> decide
  have hoccurs : occurs s (front ++ rangeMacro d ++ back) = true := by
    obtain ⟨before, after, rfl, -, -⟩ := hd
    have h := occurs_self_append (front ++ macroOpening ++ before) s (after ++ '\x7d' :: back)
    simpa [rangeMacro] using h
  have hpercent : '%' ∉ s := hs.not_mem (by decide)
  have hopening : '\x7b' ∉ s := hs.not_mem (by decide)
  have hclosing : '\x7d' ∉ s := hs.not_mem (by decide)
  have hbefore : stripSides s true false front = front := by
    rw [stripSides_of_none true false (splitFirst_eq_none_iff.mpr (hfront.apart s hs))]
    exact hfront.trimmed
  have hbehind : stripSides s false true back = back := by
    rw [stripSides_of_none false true (splitFirst_eq_none_iff.mpr (hback.apart s hs))]
    exact hback.trimmed
  rw [stripAround_of_occurs hs.nonempty hoccurs, hsplit, hsplit,
    stripSides_glue hpercent (by decide) hs.nonempty,
    stripSides_glue hopening (by decide) hs.nonempty,
    stripSides_glue hclosing (by decide) hs.nonempty,
    hbefore, stripSides_eq_self hs.nonempty hword, stripSides_delimiter hs hd, hbehind]

omit hs hd in
theorem stripAround_rangeMacro :
    stripAround (rangeMacro s) (front ++ rangeMacro s ++ back) =
      trimChars front ++ rangeMacro s ++ trimChars back := by
  have hne : rangeMacro s ≠ [] := by simp [rangeMacro, macroOpening]
  have hopening : '\x7b' ∈ rangeMacro s := by simp [rangeMacro, macroOpening]
  have hsign : rangeMacro s ++ back =
      '%' :: (['r', 'a', 'n', 'g', 'e', '\x7b'] ++ s ++ ['\x7d'] ++ back) := by
    simp [rangeMacro, macroOpening]
  have hpair : splitFirst (rangeMacro s) (front ++ (rangeMacro s ++ back)) =
      (splitFirst (rangeMacro s) (rangeMacro s ++ back)).map fun parts =>
        (front ++ parts.1, parts.2) := by
    rw [hsign]
    exact splitFirst_append_pair hfront.plain _
  have hsplit : splitFirst (rangeMacro s) (front ++ (rangeMacro s ++ back)) =
      some (front, back) := by
    rw [hpair, splitFirst_self hne, Option.map_some, List.append_nil]
  have hbehind : splitFirst (rangeMacro s) back = none :=
    splitFirst_eq_none_iff.mpr (occurs_eq_false hopening hback.plain.2.1)
  rw [List.append_assoc, stripAround_of_occurs hne (occurs_self_append front (rangeMacro s) back),
    stripSides_of_some hne true true hsplit, stripSides_of_none true true hbehind]
  rfl

/-- In the compact layout no white space stands around the macro and its delimiter. -/
theorem compactChars_range :
    compactChars (front ++ rangeMacro d ++ back) =
      trimChars front ++ rangeMacro s ++ trimChars back := by
  obtain ⟨d', hd', hline, hlayout⟩ := layout_range hs hd hfront hback
  have hsign : splitMacro? (layout (front ++ rangeMacro d ++ back)) = some ⟨front, d', back⟩ := by
    rw [hlayout]
    exact hs.splitMacro?_range hback hd' hline hfront.line
  have htrim : trimChars d' = s := by
    obtain ⟨before, after, rfl, hbefore, hafter⟩ := hd'
    exact hs.isTrimmed.trimChars_surrounded hbefore hafter
  rw [compactChars_of_some hsign, htrim, hlayout, stripAround_delimiter hs hd' hfront hback,
    stripAround_rangeMacro hfront hback]

end Compaction

/-! ## Formats of ranges -/

/-- The format of a range whose ends have one format. -/
def rangeFormat (d : List Char) (ends : String) : List Char :=
  ends.toList ++ rangeMacro d ++ ends.toList

theorem isTrimmed_usual : IsTrimmed usualDate.toList ∧ IsTrimmed usualTime.toList := by
  decide

theorem isTrimmed_rangeFormat {ends : String} (h : IsTrimmed ends.toList) (d : List Char) :
    IsTrimmed (rangeFormat d ends) := h.append h (rangeMacro d)

/-- A separator is found behind a text in which it does not begin. -/
theorem splitFirst_dateTimeSeparator {date : List Char}
    (h : occurs ['%', ';'] (date ++ ['%']) = false) (time : List Char) :
    splitFirst dateTimeSeparator (date ++ dateTimeSeparator ++ time) = some (date, time) := by
  have hself : splitFirst ['%', ';'] ('%' :: ';' :: time) = some ([], time) :=
    splitFirst_self (List.cons_ne_nil _ _) time
  rw [List.append_assoc]
  show splitFirst ['%', ';'] (date ++ '%' :: ';' :: time) = _
  rw [splitFirst_append_pair h, hself, Option.map_some, List.append_nil]

/-- A date and a time with the separator between them are put together by the parts into
which they are split. -/
theorem reorderWith_parts (split? : List Char → Option Split) {date : List Char}
    (h : occurs ['%', ';'] (date ++ ['%']) = false) (time : List Char) :
    reorderWith split? (date ++ dateTimeSeparator ++ time) =
      match split? (trimChars date), split? (trimChars time) with
      | some dates, some times =>
        dates.start ++ ' ' :: times.start ++ ' ' :: (dates.joiner ++ ' ' ::
          (dates.finish ++ ' ' :: times.finish))
      | some dates, none =>
        dates.start ++ ' ' :: trimChars time ++ ' ' :: (dates.joiner ++ ' ' :: dates.finish)
      | none, some times => trimChars date ++ ' ' :: (times.start ++ '-' :: times.finish)
      | none, none => trimChars date ++ ' ' :: trimChars time := by
  rw [reorderWith, splitFirst_dateTimeSeparator h, Option.getD_some]
  dsimp only
  cases split? (trimChars date) <;> cases split? (trimChars time) <;> simp [List.intercalate]

/-- A format or value of a date and a time is put in order by the cuts of its two parts. -/
theorem reorderWith_separated (split? : List Char → Option Split) {date time : List Char}
    (hdate : IsTrimmed date) (htime : IsTrimmed time)
    (h : occurs ['%', ';'] (date ++ ['%']) = false) :
    reorderWith split? (date ++ dateTimeSeparator ++ time) =
      match split? date, split? time with
      | some dates, some times =>
        dates.start ++ ' ' :: times.start ++ ' ' :: (dates.joiner ++ ' ' ::
          (dates.finish ++ ' ' :: times.finish))
      | some dates, none =>
        dates.start ++ ' ' :: time ++ ' ' :: (dates.joiner ++ ' ' :: dates.finish)
      | none, some times => date ++ ' ' :: (times.start ++ '-' :: times.finish)
      | none, none => date ++ ' ' :: time := by
  rw [reorderWith_parts split? h, hdate.trimChars_eq_self, htime.trimChars_eq_self]

section Formats

variable {s d : List Char} (hs : IsDelimiter s) (hd : IsSpaced s d) (hline : '\n' ∉ d)
include hs hd hline

theorem splitAtMacro?_rangeFormat {ends : String} (htrim : IsTrimmed ends.toList)
    (hend : IsRangeEnd ends.toList) :
    splitAtMacro? (rangeFormat d ends) = some ⟨ends.toList, rangeMacro d, ends.toList⟩ := by
  rw [splitAtMacro?, rangeFormat, hs.splitMacro?_range hend hd hline hend.line, Option.map_some,
    htrim.trimChars_eq_self]

omit hline in
theorem occurs_rangeFormat : occurs ['%', ';'] (rangeFormat d usualDate ++ ['%']) = false := by
  have hparts : rangeFormat d usualDate ++ ['%'] =
      (usualDate.toList ++ ['%']) ++ 'r' :: ((['a', 'n', 'g', 'e', '\x7b'] ++ d) ++
        '\x7d' :: (usualDate.toList ++ ['%'])) := by
    simp [rangeFormat, rangeMacro, macroOpening]
  have hdate : occurs ['%', ';'] (usualDate.toList ++ ['%']) = false := by decide
  have hpercent : '%' ∉ ['a', 'n', 'g', 'e', '\x7b'] ++ d := by
    simpa using hs.percent_not_mem hd
  rw [hparts, occurs_glue (b := 'r') (by decide) (by decide),
    occurs_glue (b := '\x7d') (by decide) (by decide), hdate,
    occurs_eq_false List.mem_cons_self hpercent]
  rfl

/-- A time behind a range of dates goes with the first of them. -/
theorem combineFormats_range_usualTime :
    combineFormats (rangeFormat d usualDate) usualTime.toList =
      (usualMoment.toList ++ [' ']) ++ rangeMacro d ++ (' ' :: usualDate.toList) := by
  obtain ⟨hdate, htime⟩ := isTrimmed_usual
  have hnone : splitAtMacro? usualTime.toList = none := by decide
  rw [combineFormats, reorderWith_separated _ (isTrimmed_rangeFormat hdate d) htime
    (occurs_rangeFormat hs hd), splitAtMacro?_rangeFormat hs hd hline hdate isRangeEnd_usualDate,
    hnone]
  simp [usualMoment_toList]

/-- Of two ranges the times go with the dates, the first with the first and the second with the
second. -/
theorem combineFormats_ranges {d' : List Char} (hd' : IsSpaced s d') (hline' : '\n' ∉ d') :
    combineFormats (rangeFormat d usualDate) (rangeFormat d' usualTime) =
      (usualMoment.toList ++ [' ']) ++ rangeMacro d ++ (' ' :: usualMoment.toList) := by
  obtain ⟨hdate, htime⟩ := isTrimmed_usual
  rw [combineFormats, reorderWith_separated _ (isTrimmed_rangeFormat hdate d)
    (isTrimmed_rangeFormat htime d') (occurs_rangeFormat hs hd),
    splitAtMacro?_rangeFormat hs hd hline hdate isRangeEnd_usualDate,
    splitAtMacro?_rangeFormat hs hd' hline' htime isRangeEnd_usualTime]
  simp [usualMoment_toList]

/-- A range of times goes with the date as it is. -/
theorem combineFormats_usualDate_range :
    combineFormats usualDate.toList (rangeFormat d usualTime) = "%d.%m.%Y %H:%M-%H:%M".toList := by
  obtain ⟨hdate, htime⟩ := isTrimmed_usual
  have hnone : splitAtMacro? usualDate.toList = none := by decide
  have hplain : occurs ['%', ';'] (usualDate.toList ++ ['%']) = false := by decide
  rw [combineFormats, reorderWith_separated _ hdate (isTrimmed_rangeFormat htime d) hplain,
    hnone, splitAtMacro?_rangeFormat hs hd hline htime isRangeEnd_usualTime]
  rfl

end Formats

/-! ## Candidates -/

/-- A format without a macro and with nothing to lay out is a candidate as it is. -/
theorem ofFormat_single {format : String} (hdashes : '–' ∉ format.toList)
    (hlayout : layout format.toList = format.toList) (hnone : splitMacro? format.toList = none) :
    Candidate.ofFormat (compactChars (plainDashes format.toList)) = .single format := by
  rw [plainDashes_eq_self hdashes, compactChars_of_none (by rw [hlayout, hnone]), hlayout,
    Candidate.ofFormat, hnone, String.ofList_toList]

theorem compactChars_usual :
    compactChars usualDate.toList = usualDate.toList ∧
      compactChars usualMoment.toList = usualMoment.toList := by
  have hdate : layout usualDate.toList = usualDate.toList := rfl
  have hmoment : layout usualMoment.toList = usualMoment.toList := rfl
  constructor
  · rw [compactChars_of_none (by decide), hdate]
  · rw [compactChars_of_none (by decide), hmoment]

section Candidates

variable {s d : List Char} (hs : IsDelimiter s) (hd : IsSpaced s d)
include hs hd

omit hs in
theorem isSpaced_plainDashes : IsSpaced (plainDashes s) (plainDashes d) := by
  obtain ⟨before, after, rfl, hbefore, hafter⟩ := hd
  have hplain : ∀ {cs : List Char}, (∀ c ∈ cs, isBlank c = true) → plainDashes cs = cs := by
    intro cs hcs
    refine plainDashes_eq_self fun h => ?_
    exact absurd (hcs _ h) (by decide)
  refine ⟨before, after, ?_, hbefore, hafter⟩
  rw [plainDashes, List.map_append, List.map_append, ← plainDashes, ← plainDashes, ← plainDashes,
    hplain hbefore, hplain hafter]

/-- Compaction leaves a delimiter without the space around it. -/
theorem compactChars_delimiter : compactChars d = s := by
  have hlayout : layout d = s := by
    obtain ⟨before, after, rfl, hbefore, hafter⟩ := hd
    obtain ⟨glued, hrun⟩ :=
      @layoutFrom_run isTight true s (fun c hc => hs.isBlank_eq_false hc) after
    rw [layout, List.append_assoc, layoutFrom_blanks hbefore, layoutFrom_glued, hrun,
      layoutFrom_eq_nil hafter, List.append_nil]
  have hpercent : '%' ∉ layout d := hlayout ▸ hs.not_mem (by decide)
  rw [compactChars_of_not_percent hpercent, hlayout]

omit hs hd in
/-- Making dashes plain changes the delimiter of a range alone. -/
theorem plainDashes_range {front back : List Char} (hfront : '–' ∉ front) (hback : '–' ∉ back) :
    plainDashes (front ++ rangeMacro d ++ back) = front ++ rangeMacro (plainDashes d) ++ back := by
  have hsign : plainDashes (rangeMacro d) = rangeMacro (plainDashes d) := by
    simp [plainDashes, rangeMacro, macroOpening]
  rw [← hsign]
  conv_rhs => rw [← plainDashes_eq_self hfront, ← plainDashes_eq_self hback]
  simp only [plainDashes, List.map_append]

/-- The candidate for a range with what stands around the macro. -/
theorem ofFormat_range {front back : List Char} (hfront : IsRangeStart front)
    (hback : IsRangeEnd back) {start finish : String} (hstart : trimChars front = start.toList)
    (hfinish : trimChars back = finish.toList)
    (hcompact : compactChars start.toList = start.toList ∧
      compactChars finish.toList = finish.toList)
    (hline : '\n' ∉ start.toList) (hend : IsRangeEnd finish.toList) :
    Candidate.ofFormat (compactChars (plainDashes (front ++ rangeMacro d ++ back))) =
      .range start (plainDashes s) finish := by
  have hs' := hs.plainDashes
  have hself := isSpaced_self (plainDashes s)
  have hdelimiter : compactChars (plainDashes s) = plainDashes s := compactChars_delimiter hs' hself
  rw [plainDashes_range hfront.dashes hback.dashes,
    compactChars_range hs' (isSpaced_plainDashes hd) hfront hback, hstart, hfinish,
    Candidate.ofFormat,
    hs'.splitMacro?_range hend hself (hs'.not_mem_of_isBlank (by decide)) hline]
  dsimp only
  rw [hcompact.1, hcompact.2, hdelimiter, String.ofList_toList, String.ofList_toList]

theorem ofFormat_dates :
    Candidate.ofFormat (compactChars (plainDashes (rangeFormat d usualDate))) =
      .range usualDate (plainDashes s) usualDate := by
  have htrim := isTrimmed_usual.1.trimChars_eq_self
  exact ofFormat_range hs hd isRangeStart_usualDate isRangeEnd_usualDate htrim htrim
    ⟨compactChars_usual.1, compactChars_usual.1⟩ (by decide) isRangeEnd_usualDate

theorem ofFormat_dates_usualTime (hline : '\n' ∉ d) :
    Candidate.ofFormat
        (compactChars (plainDashes (combineFormats (rangeFormat d usualDate) usualTime.toList))) =
      .range usualMoment (plainDashes s) usualDate := by
  rw [combineFormats_range_usualTime hs hd hline]
  exact ofFormat_range hs hd isRangeStart_usualMoment isRangeEnd_space_usualDate (by decide)
    (by decide) ⟨compactChars_usual.2, compactChars_usual.1⟩ (by decide) isRangeEnd_usualDate

theorem ofFormat_dates_times (hline : '\n' ∉ d) {d' : List Char} (hd' : IsSpaced s d')
    (hline' : '\n' ∉ d') :
    Candidate.ofFormat (compactChars (plainDashes
        (combineFormats (rangeFormat d usualDate) (rangeFormat d' usualTime)))) =
      .range usualMoment (plainDashes s) usualMoment := by
  rw [combineFormats_ranges hs hd hline hd' hline']
  exact ofFormat_range hs hd isRangeStart_usualMoment isRangeEnd_space_usualMoment (by decide)
    (by decide) ⟨compactChars_usual.2, compactChars_usual.2⟩ (by decide) isRangeEnd_usualMoment

end Candidates

/-- The format of a range of times on one day. -/
def usualSpan : String := "%d.%m.%Y %H:%M-%H:%M"

theorem ofFormat_usual :
    Candidate.ofFormat (compactChars (plainDashes usualDate.toList)) = .single usualDate ∧
      Candidate.ofFormat (compactChars (plainDashes usualMoment.toList)) = .single usualMoment ∧
      Candidate.ofFormat (compactChars (plainDashes usualSpan.toList)) = .single usualSpan :=
  ⟨ofFormat_single (by decide) rfl (by decide), ofFormat_single (by decide) rfl (by decide),
    ofFormat_single (by decide) rfl (by decide)⟩

theorem combineFormats_usual :
    combineFormats usualDate.toList usualTime.toList = usualMoment.toList := by
  decide

/-- The candidates of a template with ranges of dates. -/
def dateCandidates (s : List Char) : List Candidate :=
  [.range usualDate s usualDate, .range usualMoment s usualDate, .single usualDate,
    .single usualMoment]

/-- The candidates of a template with ranges of dates and ranges of times. -/
def dateTimeCandidates (s : List Char) : List Candidate :=
  [.range usualDate s usualDate, .range usualMoment s usualMoment,
    .range usualMoment s usualDate, .single usualDate, .single usualSpan, .single usualMoment]

/-- The formats that a template with one format of dates combines. -/
theorem combined_date (date : List Char) (times : List String) :
    Formats.combined ⟨none, [String.ofList date], times⟩ =
      date :: (times ++ [usualTime]).map (fun time => combineFormats date time.toList) ++
        (usualDate.toList ::
          (times ++ [usualTime]).map fun time => combineFormats usualDate.toList time.toList) ++
        [usualDate.toList] := by
  simp [Formats.combined]

/-- All candidates of a template with one format of ranges of dates. -/
theorem candidates_dates {s d : List Char} (hs : IsDelimiter s) (hd : IsSpaced s d)
    (hline : '\n' ∉ d) :
    Formats.candidates ⟨none, [String.ofList (rangeFormat d usualDate)], []⟩ =
      dateCandidates (plainDashes s) := by
  simp only [Formats.candidates, combined_date, List.nil_append, List.cons_append, List.map_cons,
    List.map_nil, ofFormat_dates hs hd, ofFormat_dates_usualTime hs hd hline, combineFormats_usual,
    ofFormat_usual.1, ofFormat_usual.2.1]
  simp [List.eraseDups_cons, dateCandidates, usualDate, usualMoment]

/-- All candidates of a template with formats of ranges of dates and of times. -/
theorem candidates_dates_times {s d d' : List Char} (hs : IsDelimiter s) (hd : IsSpaced s d)
    (hline : '\n' ∉ d) (hd' : IsSpaced s d') (hline' : '\n' ∉ d') :
    Formats.candidates ⟨none, [String.ofList (rangeFormat d usualDate)],
        [String.ofList (rangeFormat d' usualTime)]⟩ = dateTimeCandidates (plainDashes s) := by
  have hspan : combineFormats usualDate.toList (rangeFormat d' usualTime) = usualSpan.toList :=
    combineFormats_usualDate_range hs hd' hline'
  simp only [Formats.candidates, combined_date, List.nil_append, List.cons_append, List.map_cons,
    List.map_nil, String.toList_ofList, ofFormat_dates hs hd, ofFormat_dates_usualTime hs hd hline,
    ofFormat_dates_times hs hd hline hd' hline', combineFormats_usual, hspan, ofFormat_usual.1,
    ofFormat_usual.2.1, ofFormat_usual.2.2]
  simp [List.eraseDups_cons, dateTimeCandidates, usualDate, usualMoment, usualSpan]

/-- Values are split at the delimiter of the dates. -/
theorem delimiter?_dates {s d : List Char} (hs : IsDelimiter s) (hd : IsSpaced s d)
    (hline : '\n' ∉ d) (times : List String) :
    Formats.delimiter? ⟨none, [String.ofList (rangeFormat d usualDate)], times⟩ =
      some (plainDashes s) := by
  have hdash : '–' ∉ usualDate.toList := by decide
  have hline' : '\n' ∉ plainDashes d := by
    intro h
    obtain ⟨c, hc, heq⟩ := List.mem_map.mp h
    split at heq
    · cases heq
    · exact hline (heq ▸ hc)
  have hsign := hs.plainDashes.splitMacro?_range isRangeEnd_usualDate (isSpaced_plainDashes hd)
    hline' isRangeStart_usualDate.line
  have hdelimiter : macroDelimiter? (plainDashes (rangeFormat d usualDate)) =
      some (plainDashes s) := by
    rw [rangeFormat, plainDashes_range hdash hdash, macroDelimiter?, hsign, Option.map_some,
      compactChars_delimiter hs.plainDashes (isSpaced_plainDashes hd)]
  simp [Formats.delimiter?, hdelimiter]

end Almanac.Datetime
