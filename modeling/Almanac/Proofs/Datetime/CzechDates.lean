import Almanac.Proofs.Datetime.LetterCase
import Almanac.Proofs.Datetime.LetterForms
import Almanac.Proofs.Datetime.SolidChars
import Almanac.Proofs.Datetime.TimeSpan

/-!
# Czech dates in words

A Czech date in words has the name of its month in the nominative or the genitive, and dates are
read with the genitive only. Replacing words leaves everything but the name as it is and rewrites
both forms, whatever the case of their letters, to the letters of the genitive
(`IsCzechMonth.isGenitive`); compaction then leaves one space (`prepare_czechDate`). The format of
the template reads such a value, since letters are read in any case
(`readStated?_plainCzechDate`).

No other candidate reads it, though a template may have any formats of times. The candidates
begin with the format of the template or with the usual one, however they are compacted and
wherever range macros split them. Without the white space a value is a day, a dot, letters and
four digits: a format that goes on behind the year finds nothing there, and a range no delimiter
(`eq_single_of_wordsDate`); a format with a number for the month finds letters
(`not_read?_usualDate`).
-/

namespace Almanac

open Text

namespace Datetime

/-! ## Texts -/

/-- Czech months in the nominative. -/
def czechNominatives : List String :=
  ["leden", "únor", "březen", "duben", "květen", "červen", "červenec", "srpen", "září", "říjen",
    "listopad", "prosinec"]

/-- The name of a Czech month in the nominative or the genitive, each letter in any case. -/
def IsCzechMonth (month : Nat) (cs : List Char) : Prop :=
  ∃ names ∈ [czechNominatives, Locale.czech.months], ∃ name ∈ names[month - 1]?,
    cs.map lower = name.toList.map lower

/-- A day as its number, a dot, the Czech name of its month and its year in four digits, with
white space before the year and perhaps before the month. -/
def IsCzechDate (date : Date) (cs : List Char) : Prop :=
  ∃ day b₁ name b₂, IsNumberText date.day day ∧ IsCzechMonth date.month name ∧
    (∀ c ∈ b₁ ++ b₂, isBlank c = true) ∧ b₂ ≠ [] ∧
    cs = day ++ '.' :: (b₁ ++ (name ++ (b₂ ++ Number.paddedDigits 4 date.year)))

/-- The name of a Czech month in the genitive, each letter in any case. -/
def IsGenitive (month : Nat) (cs : List Char) : Prop :=
  ∃ name ∈ Locale.czech.months[month - 1]?, cs.map lower = name.toList.map lower

/-- Such a day as candidates read it: the month in the genitive, without white space before it
and with one space behind it. -/
def IsPlainCzechDate (date : Date) (cs : List Char) : Prop :=
  ∃ day name, IsNumberText date.day day ∧ IsGenitive date.month name ∧
    cs = day ++ '.' :: (name ++ ' ' :: Number.paddedDigits 4 date.year)

/-! ## Names of months -/

theorem foldsAsLower_czech : ∀ names ∈ [czechNominatives, Locale.czech.months], ∀ name ∈ names,
    ∀ n ∈ name.toList, FoldsAsLower n := by
  have hletters : ∀ n ∈ "abcdeijklnoprstuvzáčěířú".toList, FoldsAsLower n := by
    decide +kernel
  have hnames : ∀ names ∈ [czechNominatives, Locale.czech.months], ∀ name ∈ names,
      ∀ n ∈ name.toList, n ∈ "abcdeijklnoprstuvzáčěířú".toList := by
    decide +kernel
  exact fun names h name hname n hn => hletters n (hnames names h name hname n hn)

/-- Both forms of every month are rewritten to the genitive. -/
theorem applyAll_czech : ∀ names ∈ [czechNominatives, Locale.czech.months],
    names.map (fun name => Replacement.applyAll Locale.czech.replacements name.toList) =
      Locale.czech.months.map String.toList := by
  decide +kernel

theorem IsCzechMonth.isGenitive {month : Nat} {cs : List Char} (h : IsCzechMonth month cs) :
    IsGenitive month (Replacement.applyAll Locale.czech.replacements cs) := by
  obtain ⟨names, hnames, name, hname, hlower⟩ := h
  have hplace := congrArg (·[month - 1]?) (applyAll_czech names hnames)
  simp only [List.getElem?_map, Option.mem_def.mp hname, Option.map_some] at hplace
  obtain ⟨genitive, hgenitive, hwritten⟩ := Option.map_eq_some_iff.mp hplace.symm
  have hforms := forall₂_sameInWords
    (foldsAsLower_czech names hnames name (List.mem_of_getElem? hname)) hlower
  refine ⟨genitive, hgenitive, ?_⟩
  rw [map_lower_eq_of_forall₂ (Replacement.forall₂_applyAll _ hforms), hwritten]

section Genitive

variable {month : Nat} {cs : List Char} (h : IsGenitive month cs)
include h

theorem IsGenitive.ne_nil : cs ≠ [] := by
  obtain ⟨name, hname, hlower⟩ := h
  obtain ⟨c, rest, hletters, -⟩ :=
    Locale.isReadable_czech.months.2.begins_cons (List.mem_of_getElem? hname)
  rw [hletters] at hlower
  rintro rfl
  cases hlower

/-- The letters of a month are no white space, joint, digit or percent sign in any case. -/
theorem IsGenitive.plain {c : Char} (hc : c ∈ cs) :
    isLayoutChar c = false ∧ isAsciiDigit c = false ∧ c ≠ '%' := by
  obtain ⟨name, hname, hlower⟩ := h
  have hplain : ∀ name ∈ Locale.czech.months, ∀ c ∈ name.toList,
      isLayoutChar c = false ∧ isAsciiDigit c = false ∧ (c == '%') = false := by
    decide +kernel
  have hletters := hplain name (List.mem_of_getElem? hname)
  have hlayout : ∀ d : Char, isLayoutChar d = true → StandsAlone d :=
    forall_isLayoutChar (by decide +kernel)
  have hsign : ∀ d : Char, (d == '%') = true → StandsAlone d := by
    intro d hd
    rw [beq_iff_eq.mp hd]
    decide +kernel
  refine ⟨?_, ?_, beq_eq_false_iff_ne.mp ?_⟩
  · exact forall_eq_false_of_lower_eq hlayout hlower (fun c hc => (hletters c hc).1) c hc
  · exact forall_eq_false_of_lower_eq standsAlone_of_isAsciiDigit hlower
      (fun c hc => (hletters c hc).2.1) c hc
  · exact forall_eq_false_of_lower_eq hsign hlower (fun c hc => (hletters c hc).2.2) c hc

end Genitive

/-! ## Preparation -/

theorem applyAll_digits {ds : List Char} (h : ∀ c ∈ ds, isAsciiDigit c = true) :
    Replacement.applyAll Locale.czech.replacements ds = ds := by
  have hdigits : ∀ r ∈ Locale.czech.replacements, r.word.toList.head?.any fun w =>
      (List.range 10).all fun n => !sameFold w (Number.digitChar n) := by
    decide +kernel
  refine Replacement.applyAll_eq_self fun r hr => ?_
  obtain ⟨w, hw, hall⟩ := Option.any_eq_true _ _ |>.mp (hdigits r hr)
  refine ⟨w, hw, fun c hc => ?_⟩
  obtain ⟨hchar, hlt⟩ := Number.digitChar_asciiDigitValue (h c hc)
  have hapart := List.all_eq_true.mp hall _ (List.mem_range.mpr hlt)
  rwa [hchar, Bool.not_eq_true'] at hapart

section Parts

variable {day b₁ name b₂ year : List Char} (hb₁ : ∀ c ∈ b₁, isBlank c = true)
  (hb₂ : ∀ c ∈ b₂, isBlank c = true)
include hb₁ hb₂

/-- Replacing words goes on in the name of the month only. -/
theorem toList_replaceWords_czechDate (hday : ∀ c ∈ day, isAsciiDigit c = true)
    (hyear : ∀ c ∈ year, isAsciiDigit c = true) (hne : b₂ ≠ []) {raw : String}
    (hraw : raw.toList = day ++ '.' :: (b₁ ++ (name ++ (b₂ ++ year)))) :
    (Locale.czech.replaceWords raw).toList = day ++ '.' ::
      (b₁ ++ (Replacement.applyAll Locale.czech.replacements name ++ (b₂ ++ year))) := by
  have hkeeps := Replacement.keepsLayout_applyAll (Locale.replacements_isWord _ List.mem_cons_self)
  have hdot : isJoint '.' = true := rfl
  rw [toList_replaceWords, hraw, hkeeps.behind hb₁ hdot,
    hkeeps.between (isLayoutChar_of_isBlank hb₂) hne, applyAll_digits hday, applyAll_digits hyear]

theorem not_mem_czechDate (hday : ∀ c ∈ day, isAsciiDigit c = true)
    (hyear : ∀ c ∈ year, isAsciiDigit c = true) {c : Char} (hdigit : isAsciiDigit c = false)
    (hblank : isBlank c = false) (hdot : c ≠ '.') (hname : c ∉ name) :
    c ∉ day ++ '.' :: (b₁ ++ (name ++ (b₂ ++ year))) := by
  have hnot {p : Char → Bool} {cs : List Char} (hcs : ∀ c ∈ cs, p c = true)
      (hc : p c = false) : c ∉ cs := fun hmem => by
    rw [hcs c hmem] at hc
    cases hc
  simp only [List.mem_append, List.mem_cons, not_or]
  exact ⟨hnot hday hdigit, hdot, hnot hb₁ hblank, hname, hnot hb₂ hblank, hnot hyear hdigit⟩

/-- White space is dropped behind the dot and made one space before the year. -/
theorem layout_czechDate (hday : LaysOut day day) (hyear : LaysOut year year)
    (hletters : ∀ c ∈ name, isLayoutChar c = false) (hname : name ≠ []) (hne : b₂ ≠ []) :
    layout (day ++ '.' :: (b₁ ++ (name ++ (b₂ ++ year)))) =
      day ++ '.' :: (name ++ ' ' :: year) := by
  have hdot : isBlank '.' = false := by decide
  have hword : ∀ c ∈ name, isBlank c = false ∧ isTight c = false := fun c hc =>
    have hchar := Piece.isLayoutChar_eq_false_iff.mp (hletters c hc)
    ⟨hchar.1, Piece.isTight_eq_false hchar.2⟩
  have hend := hyear false true []
  rw [List.append_nil] at hend
  rw [layout, hday, layoutFrom_tight hdot rfl, layoutFrom_blanks hb₁, layoutFrom_glued,
    layoutFrom_word hname hword, layoutFrom_blanks hb₂, List.isEmpty_eq_false_iff.mpr hne]
  simp [hend, layoutFrom]

end Parts

theorem prepare_czechDate {n : Normalizer} (hlocale : n.locale = .czech) {date : Date}
    {raw : String} (h : IsCzechDate date raw.toList) : IsPlainCzechDate date (n.prepare raw) := by
  obtain ⟨day, b₁, name, b₂, hday, hmonth, hblanks, hne, hraw⟩ := h
  obtain ⟨hb₁, hb₂⟩ := List.forall_mem_append.mp hblanks
  have hdayDigits : ∀ c ∈ day, isAsciiDigit c = true := fun _ => hday.isAsciiDigit
  have hyearDigits : ∀ c ∈ Number.paddedDigits 4 date.year, isAsciiDigit c = true :=
    fun _ => Number.isAsciiDigit_of_mem_paddedDigits
  have hgenitive := hmonth.isGenitive
  have hwritten := toList_replaceWords_czechDate hb₁ hb₂ hdayDigits hyearDigits hne hraw
  generalize Replacement.applyAll Locale.czech.replacements name = written at hgenitive hwritten
  have hsign := not_mem_czechDate hb₁ hb₂ hdayDigits hyearDigits (by decide) (by decide)
    (by decide) fun hmem => (hgenitive.plain hmem).2.2 rfl
  have hdash := not_mem_czechDate hb₁ hb₂ hdayDigits hyearDigits (by decide) (by decide)
    (by decide) fun hmem => absurd (hgenitive.plain (c := '–') hmem).1 (by decide)
  have hlayout := layout_czechDate hb₁ hb₂ hday.laysOut (laysOut_year date.year)
    (fun c hc => (hgenitive.plain hc).1) hgenitive.ne_nil hne
  rw [← hlocale] at hwritten
  have hmark : occurs dateTimeSeparator (n.locale.replaceWords raw).toList = false := by
    rw [hwritten]
    exact occurs_eq_false List.mem_cons_self hsign
  rw [prepare_of_not_occurs hmark, hwritten, compactChars_plainDashes hsign,
    plainDashes_eq_self hdash, hlayout]
  exact ⟨day, written, hday, hgenitive, rfl⟩

/-! ## Reading -/

/-- The letters of a value are those that its directives write, in another case. -/
theorem map_lower_plainCzechDate {date : Date} {name : List Char} (h : IsGenitive date.month name)
    (day : List Char) :
    (day ++ '.' :: (name ++ ' ' :: Number.paddedDigits 4 date.year)).map lower =
      (day ++ '.' :: [.directive .monthName, .space, .directive .year].flatMap
        (Piece.write .czech date .midnight)).map lower := by
  obtain ⟨genitive, hgenitive, hlower⟩ := h
  have hname : Directive.nameAt Locale.czech.months (date.month - 1) = genitive.toList := by
    rw [Directive.nameAt, List.getD_eq_getElem?_getD, Option.mem_def.mp hgenitive,
      Option.getD_some]
  simp [Piece.write, Directive.write, hname, hlower]

/-- A day is read off a value in the format of days in words. -/
theorem readStated?_plainCzechDate {date : Date} {cs : List Char} (h : IsPlainCzechDate date cs)
    (hyear : 1 ≤ date.year ∧ date.year ≤ 9999) :
    readStated? .czech "%d.%B %Y" (String.ofList cs) = some (some date, none) := by
  obtain ⟨day, name, hday, hname, rfl⟩ := h
  have hcompile : Piece.compile? .czech "%d.%B %Y" =
      some (.directive .day :: .literal '.' ::
        [.directive .monthName, .space, .directive .year]) := rfl
  have hdays := date.day_le_31
  have hdot : isAsciiDigit '.' = false := by decide
  have hdaySegments (rest : List Char) : ∃ more, Directive.day.segments .czech
      (day ++ '.' :: rest) = (day.length, .number .day date.day) :: more :=
    hday.segments _ ⟨rfl, rfl⟩ (by omega) date.one_le_day hdays (not_isAsciiDigit_head hdot rest)
  have hmatch : matchPieces? .czech
      (.directive .day :: .literal '.' :: [.directive .monthName, .space, .directive .year])
      (day ++ '.' :: (name ++ ' ' :: Number.paddedDigits 4 date.year)) {} =
        some (readAll date .midnight [.day, .monthName, .year] {}) := by
    rw [matchPieces?_eq_of_lower_eq (.refl _) _ _ (map_lower_plainCzechDate hname day)]
    refine matchPieces?_directive (hdaySegments _) ?_
    rw [List.drop_left]
    refine (matchPieces?_literal '.' _ _ _).trans ?_
    exact matchPieces?_write date .midnight Locale.isReadable_czech hyear
      (fun hshort => absurd hshort (by decide)) (by decide) (by simp) _
  have hread : read? .czech "%d.%B %Y"
      (String.ofList (day ++ '.' :: (name ++ ' ' :: Number.paddedDigits 4 date.year))) =
        some (date, .midnight) := by
    rw [read?, hcompile, String.toList_ofList]
    simp only [Option.bind_eq_bind, Option.bind_some, hmatch]
    exact moment?_eq_some (Date.of?_self date) rfl
  rw [readStated?, hread]
  rfl

/-! ## Other candidates -/

theorem isDateFormat_wordsDate : IsDateFormat "%d. %B %Y".toList
    [.directive .day, .literal '.', .space, .directive .monthName, .space, .directive .year] :=
  isDateFormat_of_listOf? rfl (by decide) (by decide)

theorem ofFormat_wordsDate :
    Candidate.ofFormat (compactChars (plainDashes "%d. %B %Y".toList)) = .single "%d.%B %Y" :=
  ofFormat_of_spells isDateFormat_wordsDate.spells isDateFormat_wordsDate.percent

/-- The candidates of a template with one format of dates begin with it or with the usual one. -/
theorem mem_candidates {format : List Char} {pieces : List Piece}
    (hformat : IsDateFormat format pieces) (htrim : IsTrimmed format) {times : List String}
    {candidate : Candidate}
    (h : candidate ∈ Formats.candidates ⟨none, [String.ofList format], times⟩) :
    ∃ front ∈ [format, usualDate.toList], ∃ tail,
      candidate = .ofFormat (compactChars (plainDashes (front ++ tail))) := by
  have hcombine {front : List Char} {pieces : List Piece} (hfront : IsDateFormat front pieces)
      (htrim : IsTrimmed front) (time : List Char) :
      ∃ tail, combineFormats front time = front ++ tail := by
    rw [hfront.combineFormats, htrim.trimChars_eq_self]
    exact ⟨_, rfl⟩
  rw [Formats.candidates, List.mem_eraseDups, combined_date, List.mem_map] at h
  obtain ⟨combined, hcombined, rfl⟩ := h
  have hfront : ∃ front ∈ [format, usualDate.toList], ∃ tail, combined = front ++ tail := by
    simp only [List.mem_append, List.mem_cons, List.mem_map, List.not_mem_nil, or_false]
      at hcombined
    rcases hcombined with ((rfl | ⟨time, -, rfl⟩) | rfl | ⟨time, -, rfl⟩) | rfl
    · exact ⟨_, List.mem_cons_self, [], (List.append_nil _).symm⟩
    · exact ⟨format, List.mem_cons_self, hcombine hformat htrim _⟩
    · exact ⟨usualDate.toList, by simp, [], (List.append_nil _).symm⟩
    · exact ⟨usualDate.toList, by simp, hcombine isDateFormat_usualDate isTrimmed_usual.1 _⟩
    · exact ⟨usualDate.toList, by simp, [], (List.append_nil _).symm⟩
  obtain ⟨front, hmem, tail, rfl⟩ := hfront
  exact ⟨front, hmem, tail, rfl⟩

theorem Piece.Takes.isGenitive {s : Segment}
    (h : Piece.Takes .czech (.directive .monthName) s) : ∃ month, IsGenitive month s.text := by
  cases h with
  | number hn _ _ _ => cases hn
  | @name _ i name _ _ hname _ hlower => exact ⟨i + 1, name, hname, hlower⟩

theorem solidChars_digits {ds : List Char} (h : ∀ c ∈ ds, isAsciiDigit c = true) :
    solidChars ds = ds :=
  solidChars_eq_self fun c hc => not_isBlank_of_isAsciiDigit (h c hc)

/-- What is cut for a day and a dot. -/
theorem exists_day_of_cut {locale : Locale} {pieces : List Piece} {cut : List Segment}
    (h : List.Forall₂ (Piece.Takes locale) (.directive .day :: .literal '.' :: pieces) cut) :
    ∃ ds more, (∀ c ∈ ds, isAsciiDigit c = true) ∧ List.Forall₂ (Piece.Takes locale) pieces more ∧
      solidChars (cut.flatMap Segment.text) =
        ds ++ '.' :: solidChars (more.flatMap Segment.text) := by
  obtain ⟨day, _, hday, hrest, rfl⟩ := List.forall₂_cons_left_iff.mp h
  obtain ⟨dot, more, hdot, hmore, rfl⟩ := List.forall₂_cons_left_iff.mp hrest
  have hdigits := (hday.digits rfl).1
  have hblank : isBlank '.' = false := by decide
  have htext := hdot.eq_singleton (by decide +kernel)
  refine ⟨day.text, more, hdigits, hmore, ?_⟩
  rw [List.flatMap_cons, List.flatMap_cons, solidChars_append, solidChars_append, htext,
    solidChars_digits hdigits, solidChars_char hblank]
  rfl

theorem IsGenitive.solidChars {month : Nat} {cs : List Char} (h : IsGenitive month cs) :
    solidChars cs = cs :=
  solidChars_eq_self fun _ hc => (Piece.isLayoutChar_eq_false_iff.mp (h.plain hc).1).1

/-- Digits behind letters are told apart from them. -/
theorem eq_of_append_digits {month month' : Nat} {cs cs' ds ds' : List Char}
    (hcs : IsGenitive month cs) (hcs' : IsGenitive month' cs')
    (hds : ∀ c ∈ ds.head?, isAsciiDigit c = true) (hds' : ∀ c ∈ ds'.head?, isAsciiDigit c = true)
    (h : cs ++ ds = cs' ++ ds') : ds = ds' := by
  have hdrop {month : Nat} {cs ds : List Char} (hcs : IsGenitive month cs)
      (hds : ∀ c ∈ ds.head?, isAsciiDigit c = true) :
      (cs ++ ds).dropWhile (fun c => !isAsciiDigit c) = ds := by
    rw [List.dropWhile_append_of_pos fun c hc => by rw [(hcs.plain hc).2.1]; rfl]
    cases ds with
    | nil => rfl
    | cons d ds => rw [List.dropWhile_cons_of_neg (by rw [hds d rfl]; decide)]
  rw [← hdrop hcs hds, h, hdrop hcs' hds']

section Value

variable {date : Date} {value : List Char} (h : IsPlainCzechDate date value)
include h

theorem IsPlainCzechDate.exists_getLast? : ∃ c ∈ value.getLast?, isBlank c = false := by
  obtain ⟨day, name, -, -, rfl⟩ := h
  have hyear : Number.paddedDigits 4 date.year ≠ [] :=
    List.append_ne_nil_of_right_ne_nil _ (Number.digits_ne_nil _)
  have hdigit := Number.isAsciiDigit_of_mem_paddedDigits (List.getLast_mem hyear)
  refine ⟨(Number.paddedDigits 4 date.year).getLast hyear, ?_, not_isBlank_of_isAsciiDigit hdigit⟩
  have hassoc : day ++ '.' :: (name ++ ' ' :: Number.paddedDigits 4 date.year) =
      (day ++ '.' :: (name ++ [' '])) ++ Number.paddedDigits 4 date.year := by simp
  rw [hassoc, List.getLast?_append_of_ne_nil _ hyear]
  exact List.getLast?_eq_some_getLast hyear

/-- A value without its white space is taken apart at the dot. -/
theorem IsPlainCzechDate.of_append {ds rest : List Char} (hds : ∀ c ∈ ds, isAsciiDigit c = true)
    (hvalue : Datetime.solidChars value = ds ++ '.' :: rest) :
    ∃ name, IsGenitive date.month name ∧ rest = name ++ Number.paddedDigits 4 date.year := by
  obtain ⟨day, name, hday, hname, rfl⟩ := h
  have hdot {ds : List Char} (hds : ∀ c ∈ ds, isAsciiDigit c = true) : '.' ∉ ds :=
    fun hmem => absurd (hds _ hmem) (by decide)
  have hsolid :
      Datetime.solidChars (day ++ '.' :: (name ++ ' ' :: Number.paddedDigits 4 date.year)) =
        day ++ '.' :: (name ++ Number.paddedDigits 4 date.year) := by
    rw [solidChars_append, solidChars_char (by decide), solidChars_append,
      solidChars_blank (by decide), solidChars_digits fun _ => hday.isAsciiDigit, hname.solidChars,
      solidChars_digits fun _ => Number.isAsciiDigit_of_mem_paddedDigits]
  rw [hsolid] at hvalue
  exact ⟨name, hname, (append_cons_inj (hdot fun _ => hday.isAsciiDigit) (hdot hds) hvalue).2.symm⟩

/-- Where a candidate that begins with the format of a day and a dot reads a value, what is cut
for the format behind the dot begins the name of the month and the year. -/
theorem exists_cut_behind_day {format front back : List Char} {pieces : List Piece}
    {found : Occurrence} (hformat : Datetime.solidChars format = front ++ back)
    (hfront : Piece.listOf? (Piece.usualFormat? .czech) front =
      some (.directive .day :: .literal '.' :: pieces))
    (hsign : occurs ['%', 'r'] (front ++ ['r']) = false)
    (hread : (Candidate.ofFormat format).read? .czech value = some found) :
    ∃ name cut rest, IsGenitive date.month name ∧
      List.Forall₂ (Piece.Takes .czech) pieces cut ∧
      Datetime.solidChars (cut.flatMap Segment.text) ++ rest =
        name ++ Number.paddedDigits 4 date.year ∧
      (rest = [] → back = []) := by
  obtain ⟨cut, rest, hcut, hvalue, hrest⟩ :=
    exists_cut_of_candidate (by decide) (by decide) hformat hfront hsign h.exists_getLast? hread
  obtain ⟨ds, more, hds, hmore, hsolid⟩ := exists_day_of_cut hcut
  rw [hsolid, List.append_assoc, List.cons_append] at hvalue
  obtain ⟨name, hname, hbehind⟩ := h.of_append hds hvalue
  exact ⟨name, more, rest, hname, hmore, hbehind, hrest⟩

/-- Of the candidates that begin with the format of days in words only this format by itself
reads a value. -/
theorem eq_single_of_wordsDate (hyear : date.year ≤ 9999) {tail : List Char} {found : Occurrence}
    (hread : (Candidate.ofFormat (compactChars (plainDashes ("%d. %B %Y".toList ++ tail)))).read?
      .czech value = some found) :
    Candidate.ofFormat (compactChars (plainDashes ("%d. %B %Y".toList ++ tail))) =
      .single "%d.%B %Y" := by
  have hformat : Datetime.solidChars (compactChars (plainDashes ("%d. %B %Y".toList ++ tail))) =
      "%d.%B%Y".toList ++ plainDashes (Datetime.solidChars tail) := solidChars_format _ _
  have hfront : Piece.listOf? (Piece.usualFormat? .czech) "%d.%B%Y".toList =
      some [.directive .day, .literal '.', .directive .monthName, .directive .year] := rfl
  obtain ⟨written, cut, rest, hwritten, hcut, hbehind, hrest⟩ :=
    exists_cut_behind_day h hformat hfront (by decide) hread
  obtain ⟨name, _, hname, hlast, rfl⟩ := List.forall₂_cons_left_iff.mp hcut
  obtain ⟨year, _, hyearTakes, hend, rfl⟩ := List.forall₂_cons_left_iff.mp hlast
  obtain rfl := List.forall₂_nil_left_iff.mp hend
  obtain ⟨month, hgenitive⟩ := hname.isGenitive
  obtain ⟨hdigits, hlength⟩ := hyearTakes.digits rfl
  rw [List.flatMap_cons, List.flatMap_singleton, solidChars_append, hgenitive.solidChars,
    solidChars_digits hdigits, List.append_assoc] at hbehind
  have hfour : year.text.length = 4 := Nat.le_antisymm hlength.2 hlength.1
  have hyears : year.text ++ rest = Number.paddedDigits 4 date.year := by
    refine eq_of_append_digits hgenitive hwritten ?_ ?_ hbehind
    · obtain ⟨d, ds, hd⟩ := List.exists_cons_of_length_eq_add_one hfour
      rw [hd]
      rintro _ ⟨⟩
      exact hdigits d (hd ▸ List.mem_cons_self)
    · exact fun c hc => Number.isAsciiDigit_of_mem_paddedDigits (List.mem_of_head? hc)
  have hnone : rest = [] := by
    have hlengths := congrArg List.length hyears
    rw [Number.length_paddedDigits (by decide) (by omega), List.length_append] at hlengths
    exact List.length_eq_zero_iff.mp (by omega)
  have htail : ∀ c ∈ tail, isBlank c = true :=
    solidChars_eq_nil_iff.mp (List.map_eq_nil_iff.mp (hrest hnone))
  have hlayout : layout (plainDashes ("%d. %B %Y".toList ++ tail)) =
      layout (plainDashes "%d. %B %Y".toList) := by
    rw [layout_plainDashes, layout_plainDashes, jointLayout_eq_of_step (.atEnd htail)]
  rw [compactChars_eq_of_layout hlayout, ofFormat_wordsDate]

/-- No candidate that begins with the usual format of days reads a value. -/
theorem not_read?_usualDate {tail : List Char} {found : Occurrence} :
    (Candidate.ofFormat (compactChars (plainDashes (usualDate.toList ++ tail)))).read?
      .czech value ≠ some found := by
  intro hread
  have hformat : Datetime.solidChars (compactChars (plainDashes (usualDate.toList ++ tail))) =
      "%d.%m".toList ++ (".%Y".toList ++ plainDashes (Datetime.solidChars tail)) :=
    solidChars_format _ _
  have hfront : Piece.listOf? (Piece.usualFormat? .czech) "%d.%m".toList =
      some [.directive .day, .literal '.', .directive .month] := rfl
  obtain ⟨written, cut, rest, hwritten, hcut, hbehind, -⟩ :=
    exists_cut_behind_day h hformat hfront (by decide) hread
  obtain ⟨month, _, hmonth, hend, rfl⟩ := List.forall₂_cons_left_iff.mp hcut
  obtain rfl := List.forall₂_nil_left_iff.mp hend
  obtain ⟨hdigits, hlength⟩ := hmonth.digits rfl
  rw [List.flatMap_singleton, solidChars_digits hdigits] at hbehind
  obtain ⟨c, cs, hc⟩ := List.exists_cons_of_ne_nil hwritten.ne_nil
  obtain ⟨d, ms, hd⟩ := List.exists_cons_of_length_pos hlength.1
  rw [hc, hd] at hbehind
  obtain rfl : d = c := (List.cons_eq_cons.mp hbehind).1
  have hdigit := hdigits d (hd ▸ List.mem_cons_self)
  rw [(hwritten.plain (hc ▸ List.mem_cons_self)).2.1] at hdigit
  cases hdigit

end Value

end Datetime

open Datetime

/-- **Every Czech date in words is read**, whatever formats of times the template has: the name of
the month in the nominative or the genitive and in any case, the day with or without a leading
zero, and any white space before the month and before the year. -/
theorem normalize_czechDate {template : Template}
    (hmoments : template.eventField? .datetime = none)
    (hdates : template.formats .date = ["%d. %B %Y"]) {date : Date}
    (hyear : 1 ≤ date.year ∧ date.year ≤ 9999) {raw : String} (h : IsCzechDate date raw.toList) :
    (template.normalizer .czech).normalize raw = some ⟨some date, none, none, none⟩ := by
  have hlocale : (template.normalizer .czech).locale = .czech := rfl
  have hcandidates : (template.normalizer .czech).candidates = Formats.candidates
      ⟨none, [String.ofList "%d. %B %Y".toList], template.formats .time⟩ := by
    rw [String.ofList_toList, ← hdates]
    simp [Template.normalizer, Normalizer.of, Template.datetimeFormats, hmoments]
  have hvalue := prepare_czechDate hlocale h
  generalize template.normalizer .czech = n at hlocale hcandidates hvalue
  have hread : Candidate.read? n.locale (.single "%d.%B %Y") (n.prepare raw) =
      some ⟨some date, none, none, none⟩ := by
    rw [hlocale, read?_single_eq, readStated?_plainCzechDate hvalue hyear]
    rfl
  have hmem : .single "%d.%B %Y" ∈ n.candidates := by
    rw [hcandidates, Formats.candidates, List.mem_eraseDups, combined_date, ← ofFormat_wordsDate]
    exact List.mem_map_of_mem (by simp)
  refine normalize_of_mem hmem hread rfl fun candidate hcandidate found hfound => ?_
  rw [hcandidates] at hcandidate
  obtain ⟨front, hfront, tail, rfl⟩ :=
    mem_candidates isDateFormat_wordsDate (by decide) hcandidate
  rw [List.mem_cons, List.mem_singleton] at hfront
  rcases hfront with rfl | rfl
  · have hsingle := eq_single_of_wordsDate hvalue hyear.2 (hlocale ▸ hfound)
    rw [hsingle, hread] at hfound
    exact (Option.some.inj hfound).symm
  · exact absurd (hlocale ▸ hfound) (not_read?_usualDate hvalue)

/-- A month in the nominative that begins with another one, with capitals, and formats of times of
which one is a range with a delimiter that is in the value, one is empty and one is no format. -/
theorem normalize_czechDate_july :
    let template := datedTemplate "%d. %B %Y" ["%range\x7b.\x7d%d", "", "%H%"]
    let date : Date := ⟨987, 7, 5, by decide, by decide⟩
    let raw := "05.\u00a0 ČERveNeC\t0987"
    template.eventField? .datetime = none ∧ template.formats .date = ["%d. %B %Y"] ∧
      (1 ≤ date.year ∧ date.year ≤ 9999) ∧ IsCzechDate date raw.toList ∧
      (template.normalizer .czech).normalize raw = some ⟨some date, none, none, none⟩ := by
  intro template date raw
  have hyear : 1 ≤ date.year ∧ date.year ≤ 9999 := by decide
  have hname : IsCzechMonth date.month "ČERveNeC".toList :=
    ⟨czechNominatives, List.mem_cons_self, "červenec", rfl, by decide +kernel⟩
  have hdate : IsCzechDate date raw.toList :=
    ⟨"05".toList, "\u00a0 ".toList, "ČERveNeC".toList, "\t".toList, by decide +kernel, hname,
      List.all_eq_true.mp rfl, by decide, by decide +kernel⟩
  exact ⟨rfl, rfl, hyear, hdate, normalize_czechDate rfl rfl hyear hdate⟩

end Almanac
