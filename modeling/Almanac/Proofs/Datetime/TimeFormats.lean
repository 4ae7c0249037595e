import Almanac.Proofs.Datetime.PieceLayout

/-!
# Formats of dates with ranges of times

A template declares a format of dates and one of ranges of times. The format of dates has no
range macro, so the format of both is that of the date with the two times behind it
(`IsDateFormat.combineFormats`), and every candidate is a single format in the layout of formats
(`mem_candidates_iff`). Values are split at the delimiter that stands in the macro
(`delimiter?_times`), and between two times it is found where it is meant
(`splitAtDelimiter?_times`).
-/

namespace Almanac.Datetime

open Almanac.Text

/-! ## Delimiters -/

/-- A delimiter of times, with white space around it perhaps: a text that is not blank, that the
layout does not change further, and that cannot be confused with times and macros. -/
structure IsTimeDelimiter (d : List Char) : Prop where
  nonblank : trimChars d ≠ []
  compact : jointLayout d = trimChars d
  line : '\n' ∉ d
  plain : ∀ c ∈ d, isAsciiDigit c = false ∧ c ≠ ':' ∧ c ≠ '%'

instance (d : List Char) : Decidable (IsTimeDelimiter d) :=
  decidable_of_iff (_ ∧ _ ∧ _ ∧ _)
    ⟨fun h => ⟨h.1, h.2.1, h.2.2.1, h.2.2.2⟩, fun h => ⟨h.nonblank, h.compact, h.line, h.plain⟩⟩

/-- The range of times that a format of times states. -/
def usualTimes : String := "%H:%M-%H:%M"

/-- The pieces that read a range of times. -/
def timesPieces : List Piece := timePieces ++ .literal '-' :: timePieces

theorem isSpaced_trimChars (cs : List Char) : IsSpaced (trimChars cs) cs := by
  obtain ⟨before, after, hcs, hbefore, hafter⟩ := exists_trimChars cs
  exact ⟨before, after, hcs, hbefore, hafter⟩

section Delimiter

variable {d : List Char} (hd : IsTimeDelimiter d)
include hd

theorem IsTimeDelimiter.not_percent_mem : '%' ∉ d := fun h => (hd.plain _ h).2.2 rfl

theorem splitMacro?_times :
    splitMacro? (rangeFormat d usualTime) = some ⟨usualTime.toList, d, usualTime.toList⟩ :=
  splitMacro?_rangeMacro (by decide) ⟨hd.line, hd.not_percent_mem⟩ (by decide) (by decide)
    (by decide)

theorem macroDelimiter?_times :
    macroDelimiter? (plainDashes (rangeFormat d usualTime)) =
      some (plainDashes (trimChars d)) := by
  have hdash : '–' ∉ usualTime.toList := by decide
  have hline : '\n' ∉ plainDashes d := by
    rw [plainDashes, List.mem_map]
    rintro ⟨c, hc, heq⟩
    exact hd.line ((plainDash_eq_iff (by decide)).mp heq ▸ hc)
  have hpercent : '%' ∉ plainDashes d := mt percent_mem_plainDashes.mp hd.not_percent_mem
  have hsplit := @splitMacro?_rangeMacro usualTime.toList (plainDashes d) usualTime.toList
    (by decide) ⟨hline, hpercent⟩ (by decide) (by decide) (by decide)
  rw [rangeFormat, plainDashes_range hdash hdash, macroDelimiter?, hsplit, Option.map_some,
    compactChars_plainDashes hd.not_percent_mem, layout_plainDashes, hd.compact]

omit hd in
theorem isAsciiDigit_or_colon {t : TimeOfDay} {ts : List Char} (h : IsTimeText t ts) {c : Char}
    (hc : c ∈ ts) : isAsciiDigit c = true ∨ c = ':' := by
  obtain ⟨hour, minute, hhour, hminute, rfl⟩ := h
  rw [List.mem_append, List.mem_cons] at hc
  rcases hc with hc | rfl | hc
  · exact .inl (hhour.isAsciiDigit hc)
  · exact .inr rfl
  · exact .inl (hminute.isAsciiDigit hc)

/-- A delimiter shares no character with times, whichever way its dashes are written. -/
theorem IsTimeDelimiter.plainDash_not_mem {t : TimeOfDay} {ts : List Char} (h : IsTimeText t ts)
    {c : Char} (hc : c ∈ d) : plainDash c ∉ ts := by
  intro hmem
  obtain ⟨hdigit, hcolon, -⟩ := hd.plain c hc
  rcases isAsciiDigit_or_colon h hmem with htime | htime
  · have hself := (plainDash_eq_iff
      (Piece.isLayoutChar_eq_false_iff.mp (plain_of_isAsciiDigit htime).1).2).mp rfl
    rw [← hself, hdigit] at htime
    cases htime
  · exact hcolon ((plainDash_eq_iff (by decide)).mp htime)

/-- A value with the delimiter between two times is split there. -/
theorem splitAtDelimiter?_times {t u : TimeOfDay} {ts us : List Char} (hts : IsTimeText t ts)
    (hus : IsTimeText u us) :
    splitAtDelimiter? (plainDashes (trimChars d)) (ts ++ plainDashes d ++ us) =
      some ⟨ts, plainDashes (trimChars d), us⟩ := by
  obtain ⟨before, after, hspaced, hbefore, hafter⟩ := isSpaced_plainDashes (isSpaced_trimChars d)
  obtain ⟨l, hlast⟩ : ∃ l, (trimChars d).getLast? = some l :=
    ⟨_, List.getLast?_eq_some_getLast hd.nonblank⟩
  have hblank : isBlank l = false := by
    refine @not_isBlank_getLast?_layoutFrom isJoint true false l d ?_
    rw [← jointLayout, hd.compact, hlast, Option.mem_some_iff]
  have hl : l ∈ d := by
    obtain ⟨before, after, hd, -, -⟩ := isSpaced_trimChars d
    rw [hd]
    simp [List.mem_of_getLast? hlast]
  have hplain : (plainDashes (trimChars d)).getLast? = some (plainDash l) := by
    rw [plainDashes, List.getLast?_map, hlast]
    rfl
  have hback : plainDash l ∉ after ++ us := by
    intro hmem
    rcases List.mem_append.mp hmem with h | h
    · have := hafter _ h
      rw [isBlank_plainDash, hblank] at this
      cases this
    · exact hd.plainDash_not_mem hus hl h
  have hsplit := splitLast_append_of_getLast? hplain hback (ts ++ before)
  have htrimStart : trimChars (ts ++ before) = ts :=
    @IsTrimmed.trimChars_surrounded [] ts before (isMomentText_timeText hts).trimmed
      (List.forall_mem_nil _) hbefore
  have htrimEnd : trimChars (after ++ us) = us := by
    have h := @IsTrimmed.trimChars_surrounded after us [] (isMomentText_timeText hus).trimmed
      hafter (List.forall_mem_nil _)
    rwa [List.append_nil] at h
  have hne : (plainDashes (trimChars d)).isEmpty = false := by
    simpa [plainDashes] using hd.nonblank
  have hparts : ts ++ plainDashes d ++ us =
      (ts ++ before) ++ (plainDashes (trimChars d) ++ (after ++ us)) := by
    rw [hspaced]
    simp only [List.append_assoc]
  rw [splitAtDelimiter?, hne, hparts, hsplit]
  simp [htrimStart, htrimEnd]

end Delimiter

/-! ## Formats -/

/-- A text that is put behind another and a space is laid out as if the other were not trimmed. -/
theorem layoutFrom_trimChars (tight : Char → Bool) (cs rest : List Char) :
    layoutFrom tight true false (trimChars cs ++ ' ' :: rest) =
      layoutFrom tight true false (cs ++ ' ' :: rest) := by
  obtain ⟨before, after, hcs, hbefore, hafter⟩ := exists_trimChars cs
  obtain ⟨out, glued, gap, hout⟩ := @exists_layoutFrom_append tight true false (trimChars cs)
  have hblank : isBlank ' ' = true := by decide
  conv_rhs => rw [hcs, List.append_assoc, List.append_assoc, layoutFrom_blanks hbefore,
    layoutFrom_glued]
  rw [hout, hout, layoutFrom_blanks hafter, layoutFrom_blank hblank, layoutFrom_blank hblank]

/-- The layout of a text with another behind it and a space. -/
theorem layout_trimChars (cs rest : List Char) :
    layout (plainDashes (trimChars cs ++ ' ' :: rest)) =
      layout (plainDashes (cs ++ ' ' :: rest)) := by
  rw [layout_plainDashes, layout_plainDashes, jointLayout, jointLayout, layoutFrom_trimChars]

/-- A format in the layout of formats. -/
def compactFormat (format : List Char) : String := String.ofList (layout (plainDashes format))

/-- A format of dates without a range: it spells pieces, among which are no percent signs, and
its directives are those of dates. -/
structure IsDateFormat (format : List Char) (pieces : List Piece) : Prop where
  spells : Piece.Spells format pieces
  percent : .literal '%' ∉ pieces
  directives : ∀ d, .directive d ∈ pieces → d ∈ dateDirectives

theorem isDateFormat_of_listOf? {format : List Char} {pieces : List Piece}
    (h : Piece.listOf? (fun _ => none) format = some pieces) (hpercent : .literal '%' ∉ pieces)
    (hdirectives : ∀ d ∈ pieces.filterMap Piece.directive?, d ∈ dateDirectives) :
    IsDateFormat format pieces :=
  ⟨Piece.spells_of_listOf? h, hpercent, fun d hd => hdirectives d (Piece.directive_mem_iff.mp hd)⟩

theorem isDateFormat_usualDate : IsDateFormat usualDate.toList datePieces :=
  isDateFormat_of_listOf? rfl (by decide) (by decide)

/-- A format without percent signs of its own holds no range macro. -/
theorem splitMacro?_eq_none {format : List Char} (h : occurs macroOpening format = false) :
    splitMacro? format = none := by
  rw [splitMacro?, findMacro?_eq_none h, ite_self]

theorem occurs_macroOpening {format : List Char} {pieces : List Piece}
    (h : Piece.Spells format pieces) (hpercent : .literal '%' ∉ pieces) :
    occurs macroOpening format = false := by
  have hoccurs := h.occurs_append hpercent (c := 'r') rfl ['a', 'n', 'g', 'e', '\x7b'] []
  rw [List.append_nil] at hoccurs
  exact hoccurs

/-- A format without a range is a candidate as it is, in the layout. -/
theorem ofFormat_of_spells {format : List Char} {pieces : List Piece}
    (h : Piece.Spells format pieces) (hpercent : .literal '%' ∉ pieces) :
    Candidate.ofFormat (compactChars (plainDashes format)) = .single (compactFormat format) := by
  have hnone : splitMacro? (layout (plainDashes format)) = none :=
    splitMacro?_eq_none (occurs_macroOpening (h.layout true false)
      (mt (Piece.literal_mem_of_mem_layoutPieces (by decide)) hpercent))
  rw [compactChars_of_none hnone, Candidate.ofFormat, hnone]
  rfl

section Formats

variable {format : List Char} {pieces : List Piece} (hformat : IsDateFormat format pieces)
include hformat

/-- A format of times behind a format of dates. -/
theorem IsDateFormat.ofFormat_times {times : List Char} {timesPieces : List Piece}
    (htimes : Piece.Spells times timesPieces) (hpercent : .literal '%' ∉ timesPieces) :
    Candidate.ofFormat (compactChars (plainDashes (trimChars format ++ ' ' :: times))) =
      .single (compactFormat (format ++ ' ' :: times)) := by
  have hspace : Piece.Spells (' ' :: times) (.space :: timesPieces) := .blank (by decide) htimes
  have hspells := hformat.spells.append hspace
  have hnone : .literal '%' ∉ pieces ++ .space :: timesPieces := by
    simp [hformat.percent, hpercent]
  rw [compactChars_eq_of_layout (layout_trimChars format times), ofFormat_of_spells hspells hnone]

theorem IsDateFormat.combineFormats (split : List Char) :
    Datetime.combineFormats format split =
      trimChars format ++ ' ' :: match splitAtMacro? (trimChars split) with
        | some times => times.start ++ '-' :: times.finish
        | none => trimChars split := by
  have hpair := hformat.spells.occurs_append hformat.percent (c := ';') rfl [] ['%']
  have hnone : splitAtMacro? (trimChars format) = none := by
    obtain ⟨before, after, hcs, -, -⟩ := exists_trimChars format
    have hinfix : trimChars format <:+: format := ⟨before, after, hcs.symm⟩
    rw [splitAtMacro?, splitMacro?_eq_none (occurs_eq_false_of_isInfix hinfix
      (occurs_macroOpening hformat.spells hformat.percent))]
    rfl
  rw [Datetime.combineFormats, reorderWith_parts _ hpair, hnone]
  cases splitAtMacro? (trimChars split) <;> rfl

end Formats

theorem spells_usualTime : Piece.Spells usualTime.toList timePieces ∧
    Piece.Spells usualTimes.toList timesPieces :=
  ⟨Piece.spells_of_listOf? rfl, Piece.spells_of_listOf? rfl⟩

/-- A format of dates with a range of times behind it. -/
theorem IsDateFormat.spells_times {format : List Char} {pieces : List Piece}
    (h : IsDateFormat format pieces) :
    Piece.Spells (format ++ ' ' :: usualTimes.toList) (pieces ++ .space :: timesPieces) := by
  have hspace : isBlank ' ' = true := by decide
  exact h.spells.append (.blank hspace spells_usualTime.2)

/-- The candidates for a format of dates by itself, with a range of times and with one time. -/
def timeCandidates (format : List Char) : List Candidate :=
  [.single (compactFormat format), .single (compactFormat (format ++ ' ' :: usualTimes.toList)),
    .single (compactFormat (format ++ ' ' :: usualTime.toList))]

section Candidates

variable {format d : List Char} {pieces : List Piece} (hformat : IsDateFormat format pieces)
  (hd : IsTimeDelimiter d)
include hformat hd

/-- What candidates a format of dates makes with the format of a range of times and the usual
format of a time. -/
theorem map_ofFormat :
    (format :: ([String.ofList (rangeFormat d usualTime)] ++ [usualTime]).map (fun time =>
      combineFormats format time.toList)).map (fun format =>
        Candidate.ofFormat (compactChars (plainDashes format))) = timeCandidates format := by
  obtain ⟨htime, htimes⟩ := spells_usualTime
  have htrim := isTrimmed_usual.2
  have hnone : splitAtMacro? usualTime.toList = none := by decide
  have hrange : combineFormats format (rangeFormat d usualTime) =
      trimChars format ++ ' ' :: usualTimes.toList := by
    rw [hformat.combineFormats, (isTrimmed_rangeFormat htrim d).trimChars_eq_self, splitAtMacro?,
      splitMacro?_times hd, Option.map_some, htrim.trimChars_eq_self]
    rfl
  have husual : combineFormats format usualTime.toList =
      trimChars format ++ ' ' :: usualTime.toList := by
    rw [hformat.combineFormats, htrim.trimChars_eq_self, hnone]
  simp only [List.singleton_append, List.map_cons, List.map_nil, String.toList_ofList, hrange,
    husual, ofFormat_of_spells hformat.spells hformat.percent,
    hformat.ofFormat_times htimes (by decide), hformat.ofFormat_times htime (by decide)]
  rfl

theorem mem_candidates_iff {candidate : Candidate} :
    candidate ∈ Formats.candidates
        ⟨none, [String.ofList format], [String.ofList (rangeFormat d usualTime)]⟩ ↔
      candidate ∈ timeCandidates format ∨ candidate ∈ timeCandidates usualDate.toList := by
  have husual : Candidate.ofFormat (compactChars (plainDashes usualDate.toList)) ∈
      timeCandidates usualDate.toList := by
    rw [ofFormat_of_spells isDateFormat_usualDate.spells isDateFormat_usualDate.percent]
    exact List.mem_cons_self
  rw [Formats.candidates, List.mem_eraseDups, combined_date, List.map_append, List.map_append,
    map_ofFormat hformat hd, map_ofFormat isDateFormat_usualDate hd, List.mem_append,
    List.mem_append, List.map_singleton, List.mem_singleton, or_assoc]
  refine or_congr_right (or_iff_left_of_imp ?_)
  rintro rfl
  exact husual

theorem delimiter?_times :
    Formats.delimiter? ⟨none, [String.ofList format],
        [String.ofList (rangeFormat d usualTime)]⟩ = some (plainDashes (trimChars d)) := by
  have hnone : macroDelimiter? (plainDashes format) = none := by
    have hoccurs := occurs_macroOpening hformat.spells hformat.percent
    rw [← occurs_plainDashes (by decide)] at hoccurs
    rw [macroDelimiter?, splitMacro?_eq_none hoccurs]
    rfl
  simp [Formats.delimiter?, hnone, macroDelimiter?_times hd]

end Candidates

end Almanac.Datetime
