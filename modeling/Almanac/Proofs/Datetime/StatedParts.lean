import Almanac.Proofs.Datetime.Occurrences
import Almanac.Proofs.Datetime.PieceLayout

/-!
# Which parts a format states

Of a moment that is read in a format only the parts are kept that the format states, which is
found out from its text: whether a percent sign with one of certain letters occurs in it. In a
format that compiles this is so where a directive states the part, and besides where an escaped
percent sign, which stands for itself, is directly before such a letter (`hasDirective_eq`). A
part that no directive states has its value by default (`default_of_match`), so it is in the
second case alone that such a value is kept (`presence_of_match`).
-/

namespace Almanac

open Text

namespace Datetime

/-! ## Parts -/

namespace Directive

/-- Whether a directive reads a part of the date. -/
def statesDate : Directive → Bool
  | day | month | year | shortYear | monthName | shortMonthName => true
  | hour | halfDayHour | minute | second | fraction | meridiem => false
  | weekdayName | shortWeekdayName => false

/-- Whether a directive reads a part of the time. -/
def statesTime : Directive → Bool
  | hour | halfDayHour | minute | second | fraction | meridiem => true
  | day | month | year | shortYear | monthName | shortMonthName => false
  | weekdayName | shortWeekdayName => false

end Directive

/-- Whether an escaped percent sign stands directly before one of the letters. -/
def escapedBefore (letters : List Char) : List Char → Bool
  | '%' :: letter :: rest =>
    letter = '%' && rest.head?.any letters.contains || escapedBefore letters rest
  | _ :: rest => escapedBefore letters rest
  | [] => false

end Datetime

/-- The usual formats of a locale are one of dates and one of times. -/
structure Locale.HasUsualFormats (locale : Locale) : Prop where
  date_states : ∃ d ∈ Datetime.directivesIn locale.dateFormat.toList, d.statesDate = true
  date_only : ∀ d ∈ Datetime.directivesIn locale.dateFormat.toList, d.statesTime = false
  time_states : ∃ d ∈ Datetime.directivesIn locale.timeFormat.toList, d.statesTime = true
  time_only : ∀ d ∈ Datetime.directivesIn locale.timeFormat.toList, d.statesDate = false

instance (locale : Locale) : Decidable locale.HasUsualFormats :=
  decidable_of_iff (_ ∧ _ ∧ _ ∧ _)
    ⟨fun h => ⟨h.1, h.2.1, h.2.2.1, h.2.2.2⟩,
      fun h => ⟨h.date_states, h.date_only, h.time_states, h.time_only⟩⟩

namespace Datetime

/-! ## The search in the text of a format -/

section Search

variable {letters : List Char}

theorem hasDirective_char {c : Char} (hc : c ≠ '%') (rest : List Char) :
    hasDirective letters (c :: rest) = hasDirective letters rest := by
  rw [hasDirective]
  rintro letter more rfl
  exact absurd rfl hc

theorem escapedBefore_char {c : Char} (hc : c ≠ '%') (rest : List Char) :
    escapedBefore letters (c :: rest) = escapedBefore letters rest := by
  rw [escapedBefore]
  rintro letter more rfl
  exact absurd rfl hc

/-- Behind a percent sign and its letter the search goes on at the letter, which counts only if
it is a percent sign too. -/
theorem hasDirective_percent (letter : Char) (rest : List Char) :
    hasDirective letters ('%' :: letter :: rest) =
      (letters.contains letter || (letter = '%' && rest.head?.any letters.contains) ||
        hasDirective letters rest) := by
  rw [hasDirective, Bool.or_assoc]
  by_cases hletter : letter = '%'
  · subst hletter
    cases rest with
    | nil => rfl
    | cons next more =>
      rw [hasDirective]
      simp
  · rw [hasDirective_char hletter]
    simp [hletter]

/-- The letters that are searched for are those of the directives that state a part, and those
that stand for pieces among which there is such a directive. -/
structure LettersOf (letters : List Char) (states : Directive → Bool)
    (expansion : Char → Option (List Piece)) : Prop where
  percent : letters.contains '%' = false
  directive : ∀ {letter : Char} {d : Directive}, Directive.ofLetter? letter = some d →
    letters.contains letter = states d
  expanded : ∀ {letter : Char} {pieces : List Piece}, expansion letter = some pieces →
    letters.contains letter = (pieces.filterMap Piece.directive?).any states

variable {states : Directive → Bool} {expansion : Char → Option (List Piece)}

/-- **What the search finds** in a format that compiles: a directive that states the part, or an
escaped percent sign before one of the letters. -/
theorem hasDirective_eq (hletters : LettersOf letters states expansion) {format : List Char}
    {pieces : List Piece} (h : Piece.listOf? expansion format = some pieces) :
    hasDirective letters format =
      ((pieces.filterMap Piece.directive?).any states || escapedBefore letters format) := by
  fun_induction Piece.listOf? expansion format generalizing pieces with
  | case1 =>
    cases h
    rfl
  | case2 => cases h
  | case3 letter rest front =>
    rename_i ih
    obtain ⟨found, hfront, hmap⟩ := Option.bind_eq_some_iff.mp h
    obtain ⟨more, hmore, rfl⟩ := Option.map_eq_some_iff.mp hmap
    -- the letter is searched for exactly when the pieces that it stands for state the part
    have hfound : letters.contains letter = (found.filterMap Piece.directive?).any states := by
      simp only [front] at hfront
      split at hfront
      · next hletter =>
        cases hfront
        rw [hletter, hletters.percent]
        rfl
      · split at hfront
        · next d hd =>
          cases hfront
          rw [hletters.directive hd]
          simp [Piece.directive?]
        · exact hletters.expanded hfront
    rw [hasDirective_percent, ih hmore, hfound, escapedBefore, List.filterMap_append,
      List.any_append]
    simp only [Bool.or_assoc, Bool.or_left_comm]
  | case4 c rest hend hletter ih =>
    obtain ⟨more, hmore, rfl⟩ := Option.map_eq_some_iff.mp h
    have hc := Piece.ne_percent hend hletter
    have hnone : Piece.directive? (if isBlank c then .space else .literal c) = none := by
      split <;> rfl
    rw [hasDirective_char hc, escapedBefore_char hc, ih hmore, List.filterMap_cons_none hnone]

end Search

/-! ## The letters of dates and of times -/

theorem filterMap_mergeSpaces (pieces : List Piece) :
    (Piece.mergeSpaces pieces).filterMap Piece.directive? = pieces.filterMap Piece.directive? := by
  induction pieces with
  | nil => rfl
  | cons piece rest ih =>
    by_cases hpiece : piece = .space
    · subst hpiece
      rw [Piece.mergeSpaces_space, List.filterMap_cons_none rfl, ← ih]
      split
      · rfl
      · rw [List.filterMap_cons_none rfl]
    · rw [Piece.mergeSpaces_cons hpiece, List.filterMap_cons, List.filterMap_cons, ih]

section Letters

variable {letters : List Char} {states : Directive → Bool} {locale : Locale}

/-- Letters of directives, and of the usual formats by the directives in these. -/
theorem lettersOf_usual (hpercent : letters.contains '%' = false)
    (hdirective : ∀ p ∈ Directive.letters, letters.contains p.1 = states p.2)
    (hdate : letters.contains 'x' = (directivesIn locale.dateFormat.toList).any states)
    (htime : letters.contains 'X' = (directivesIn locale.timeFormat.toList).any states) :
    LettersOf letters states (Piece.usualFormat? locale) where
  percent := hpercent
  directive h := hdirective _ (Piece.mem_letters h)
  expanded := by
    have hpieces : ∀ {format : List Char} {pieces : List Piece},
        Piece.listOf? (fun _ => none) format = some pieces →
          directivesIn format = pieces.filterMap Piece.directive? := by
      intro format pieces h
      rw [Piece.directivesIn_eq (Piece.spells_of_listOf? h), filterMap_mergeSpaces]
    intro letter pieces h
    unfold Piece.usualFormat? at h
    split at h
    · next hletter => rw [hletter, hdate, hpieces h]
    · split at h
      · next hletter => rw [hletter, htime, hpieces h]
      · cases h

theorem lettersOf_date (hlocale : locale.HasUsualFormats) :
    LettersOf dateLetters Directive.statesDate (Piece.usualFormat? locale) := by
  apply lettersOf_usual
  · decide
  · decide
  · exact (List.any_eq_true.mpr hlocale.date_states).symm
  · refine (List.any_eq_false.mpr ?_).symm
    intro d hd
    rw [hlocale.time_only d hd]
    decide

theorem lettersOf_time (hlocale : locale.HasUsualFormats) :
    LettersOf timeLetters Directive.statesTime (Piece.usualFormat? locale) := by
  apply lettersOf_usual
  · decide
  · decide
  · refine (List.any_eq_false.mpr ?_).symm
    intro d hd
    rw [hlocale.date_only d hd]
    decide
  · exact (List.any_eq_true.mpr hlocale.time_states).symm

/-- What the search finds in a format, in terms of the pieces that it is compiled to. -/
theorem hasDirective_iff (hletters : LettersOf letters states (Piece.usualFormat? locale))
    {format : String} {pieces : List Piece} (h : Piece.compile? locale format = some pieces) :
    hasDirective letters format.toList = true ↔
      (∃ d, states d = true ∧ .directive d ∈ pieces) ∨
        escapedBefore letters format.toList = true := by
  obtain ⟨spelled, hspelled, rfl⟩ := Option.map_eq_some_iff.mp h
  rw [hasDirective_eq hletters hspelled, Bool.or_eq_true, List.any_eq_true,
    ← filterMap_mergeSpaces spelled]
  simp only [Piece.directive_mem_iff, and_comm]

end Letters

/-! ## Values by default -/

section Defaults

variable {locale : Locale} {d : Directive} {input : List Char} {width : Nat} {reading : Reading}

/-- What a directive reads that states no part of a date changes no date. -/
theorem date?_add_of_mem_segments (hd : d.statesDate = false)
    (h : (width, reading) ∈ d.segments locale input) (fields : Fields) :
    (fields.add reading).date? = fields.date? := by
  cases d with
  | day | month | year | shortYear | monthName | shortMonthName => cases hd
  | hour | halfDayHour | minute | second | fraction =>
    obtain ⟨value, -, rfl⟩ := Numeral.exists_of_mem_segments h
    rfl
  | meridiem | weekdayName | shortWeekdayName =>
    simp only [Directive.segments] at h
    obtain ⟨i, rfl⟩ := exists_of_mem_nameSegments h
    rfl

/-- What a directive reads that states no part of a time changes no time. -/
theorem time?_add_of_mem_segments (hd : d.statesTime = false)
    (h : (width, reading) ∈ d.segments locale input) (fields : Fields) :
    (fields.add reading).time? = fields.time? := by
  cases d with
  | hour | halfDayHour | minute | second | fraction | meridiem => cases hd
  | day | month | year | shortYear =>
    obtain ⟨value, -, rfl⟩ := Numeral.exists_of_mem_segments h
    rfl
  | monthName | shortMonthName | weekdayName | shortWeekdayName =>
    simp only [Directive.segments] at h
    obtain ⟨i, rfl⟩ := exists_of_mem_nameSegments h
    rfl

/-- What no directive of the pieces changes is the same in the parts that all pieces read. -/
theorem congr_of_matchPieces? {α : Type} {part : Fields → α} {states : Directive → Bool}
    {pieces : List Piece} {fields result : Fields}
    (hpart : ∀ (d : Directive) (input : List Char) (width : Nat) (reading : Reading),
      states d = false → (width, reading) ∈ d.segments locale input →
        ∀ fields : Fields, part (fields.add reading) = part fields)
    (hnone : ∀ d, states d = true → .directive d ∉ pieces)
    (h : matchPieces? locale pieces input fields = some result) : part result = part fields := by
  refine of_matchPieces? (P := fun f => part f = part fields) ?_ rfl h
  intro d hd input width reading hmem f hf
  have hstates : states d = false := Bool.eq_false_iff.mpr fun hstates => hnone d hstates hd
  exact (hpart d input width reading hstates hmem f).trans hf

/-- The date is the first of January 1900 where no directive states a part of it, and the time is
midnight where none states a part of that. -/
theorem default_of_match {pieces : List Piece} {fields : Fields} {date : Date} {time : TimeOfDay}
    (hmatch : matchPieces? locale pieces input {} = some fields)
    (hmoment : fields.moment? = some (date, time)) :
    ((∀ d, d.statesDate = true → .directive d ∉ pieces) → Date.of? 1900 1 1 = some date) ∧
      ((∀ d, d.statesTime = true → .directive d ∉ pieces) → time = .midnight) := by
  simp only [Fields.moment?, Option.bind_eq_bind, Option.bind_eq_some_iff] at hmoment
  obtain ⟨found, hdate, found', htime, heq⟩ := hmoment
  obtain ⟨rfl, rfl⟩ := Prod.mk.inj (Option.some.inj heq)
  refine ⟨?_, ?_⟩
  · intro hnone
    have hsame : fields.date? = Fields.date? {} :=
      congr_of_matchPieces? (fun _ _ _ _ => date?_add_of_mem_segments) hnone hmatch
    exact hsame.symm.trans hdate
  · intro hnone
    have hsame : fields.time? = Fields.time? {} :=
      congr_of_matchPieces? (fun _ _ _ _ => time?_add_of_mem_segments) hnone hmatch
    exact Option.some.inj (htime.symm.trans (hsame.trans (by decide)))

end Defaults

/-! ## What is kept of a match -/

/-- **The parts that are kept** of a value are those that a directive of its format reads, and those
with a letter directly behind an escaped percent sign. So where no percent sign is escaped before
such a letter the directives alone decide. -/
theorem presence_of_match {locale : Locale} (hlocale : locale.HasUsualFormats)
    {format value : String} (hrange : splitMacro? format.toList = none) {date : Date}
    {time : TimeOfDay} (hread : read? locale format value = some (date, time)) :
    ∃ (pieces : List Piece) (occurrence : Occurrence),
      Piece.compile? locale format = some pieces ∧
      (Candidate.ofFormat format.toList).read? locale value.toList = some occurrence ∧
      (occurrence.startDate.isSome ↔ (∃ d, d.statesDate = true ∧ .directive d ∈ pieces) ∨
        escapedBefore dateLetters format.toList = true) ∧
      (occurrence.startTime.isSome ↔ (∃ d, d.statesTime = true ∧ .directive d ∈ pieces) ∨
        escapedBefore timeLetters format.toList = true) ∧
      (∀ a ∈ occurrence.startDate, a = date ∧
        ((∀ d, d.statesDate = true → .directive d ∉ pieces) → Date.of? 1900 1 1 = some a)) ∧
      (∀ t ∈ occurrence.startTime, t = time ∧
        ((∀ d, d.statesTime = true → .directive d ∉ pieces) → t = .midnight)) ∧
      occurrence.endDate = none ∧ occurrence.endTime = none := by
  have hread' := hread
  simp only [Datetime.read?, Option.bind_eq_bind, Option.bind_eq_some_iff] at hread'
  obtain ⟨pieces, hpieces, fields, hmatch, hmoment⟩ := hread'
  obtain ⟨hdefaultDate, hdefaultTime⟩ := default_of_match hmatch hmoment
  have hcandidate : (Candidate.ofFormat format.toList).read? locale value.toList =
      some { startDate := if hasDirective dateLetters format.toList then some date else none
             startTime := if hasDirective timeLetters format.toList then some time else none } := by
    simp only [Candidate.ofFormat, hrange, Candidate.read?, readStated?, String.ofList_toList,
      hread]
    rfl
  refine ⟨pieces, _, hpieces, hcandidate, ?_, ?_, ?_, ?_, rfl, rfl⟩
  · rw [← hasDirective_iff (lettersOf_date hlocale) hpieces]
    simp
  · rw [← hasDirective_iff (lettersOf_time hlocale) hpieces]
    simp
  · intro a ha
    obtain ⟨-, hdate⟩ := Option.mem_ite_none_right.mp ha
    obtain rfl := Option.some.inj hdate
    exact ⟨rfl, hdefaultDate⟩
  · intro t ht
    obtain ⟨-, htime⟩ := Option.mem_ite_none_right.mp ht
    obtain rfl := Option.some.inj htime
    exact ⟨rfl, hdefaultTime⟩

/-- An escaped percent sign that stands before no letter, and the usual format of dates. -/
theorem presence_of_match_escaped :
    let format := "10%% %x"
    let value := "10% 1.2.2023"
    let a : Date := ⟨2023, 2, 1, by decide, by decide⟩
    Locale.czech.HasUsualFormats ∧ splitMacro? format.toList = none ∧
      read? .czech format value = some (a, .midnight) ∧
      ∃ occurrence, (Candidate.ofFormat format.toList).read? .czech value.toList = some occurrence ∧
        occurrence.startDate = some a ∧ occurrence.startTime = none := by
  intro format value a
  have hlocale : Locale.czech.HasUsualFormats := by decide +kernel
  have hrange : splitMacro? format.toList = none := by decide +kernel
  have hread : read? .czech format value = some (a, .midnight) := by decide +kernel
  obtain ⟨pieces, occurrence, hpieces, hcandidate, hdate, htime, hvalue, -⟩ :=
    presence_of_match hlocale hrange hread
  have hcompile : Piece.compile? .czech format = some [.literal '1', .literal '0', .literal '%',
    .space, .directive .day, .literal '.', .directive .month, .literal '.', .directive .year] := by
    decide +kernel
  obtain rfl := Option.some.inj (hpieces.symm.trans hcompile)
  refine ⟨hlocale, hrange, hread, occurrence, hcandidate, ?_, ?_⟩
  · obtain ⟨found, hfound⟩ := Option.isSome_iff_exists.mp (hdate.mpr (.inl ⟨.day, rfl, by decide⟩))
    rw [hfound, (hvalue found hfound).1]
  · rw [← Option.not_isSome_iff_eq_none, htime]
    rintro (⟨d, hd, hmem⟩ | hescaped)
    · cases d <;> revert hd hmem <;> decide
    · revert hescaped
      decide +kernel

/-- A format of times and one of dates, in which the text behind an escaped percent sign begins
with a letter of dates or times: the day by default counts as stated, and so does midnight. -/
theorem default_counts_as_stated :
    let first : Date := ⟨1900, 1, 1, by decide, by decide⟩
    Locale.czech.HasUsualFormats ∧
    (splitMacro? "%%d %H:%M".toList = none ∧
      (∃ pieces, Piece.compile? .czech "%%d %H:%M" = some pieces ∧
        ∀ d, d.statesDate = true → .directive d ∉ pieces) ∧
      ((Candidate.ofFormat "%%d %H:%M".toList).read? .czech "%d 18:00".toList).bind (·.startDate) =
        some first ∧
      ((Normalizer.of { moments := some ["%%d %H:%M"] } .czech).normalize "%d 18:00").bind
        (·.startDate) = some first) ∧
    splitMacro? "%d.%m.%Y 50%%pivo".toList = none ∧
      (∃ pieces, Piece.compile? .czech "%d.%m.%Y 50%%pivo" = some pieces ∧
        ∀ d, d.statesTime = true → .directive d ∉ pieces) ∧
      ((Candidate.ofFormat "%d.%m.%Y 50%%pivo".toList).read? .czech
        "1.2.2023 50%pivo".toList).bind (·.startTime) = some .midnight := by
  intro first
  refine ⟨by decide +kernel, ⟨by decide +kernel, ?_, by decide +kernel, by decide +kernel⟩,
    by decide +kernel, ?_, by decide +kernel⟩
  · refine ⟨[.literal '%', .literal 'd', .space, .directive .hour, .literal ':',
      .directive .minute], by decide +kernel, ?_⟩
    intro d hd
    cases d <;> revert hd <;> decide
  · refine ⟨[.directive .day, .literal '.', .directive .month, .literal '.', .directive .year,
      .space, .literal '5', .literal '0', .literal '%', .literal 'p', .literal 'i', .literal 'v',
      .literal 'o'], by decide +kernel, ?_⟩
    intro d hd
    cases d <;> revert hd <;> decide

end Datetime

end Almanac
