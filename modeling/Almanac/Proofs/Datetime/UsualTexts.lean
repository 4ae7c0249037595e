import Mathlib.Data.List.TakeWhile
import Almanac.Datetime.Normalizer
import Almanac.Proofs.Datetime.Writing

/-!
# Texts in the usual formats

A day is written as day, month and year between dots, a time of day as hour and minute. The
usual formats read such texts (`read?_usualDate`, `read?_usualMoment`). They read no text
with more dots or colons than they have themselves: every character that is neither a digit
nor white space needs a literal of its own (`count_le_of_matchPieces?`).
-/

namespace Almanac.Datetime

open Almanac.Text

/-! ## Numbers of one or two digits -/

/-- A number in digits, with or without a zero before a single digit. -/
def IsNumberText (n : Nat) (cs : List Char) : Prop :=
  cs = Number.digits n ∨ cs = Number.paddedDigits 2 n

instance (n : Nat) (cs : List Char) : Decidable (IsNumberText n cs) :=
  inferInstanceAs (Decidable (_ ∨ _))

namespace IsNumberText

variable {n : Nat} {cs : List Char} (h : IsNumberText n cs)
include h

theorem isAsciiDigit {c : Char} (hc : c ∈ cs) : isAsciiDigit c = true := by
  rcases h with rfl | rfl
  · exact Number.isAsciiDigit_of_mem_digits hc
  · exact Number.isAsciiDigit_of_mem_paddedDigits hc

theorem value : Number.value cs = n := by
  rcases h with rfl | rfl
  · exact Number.value_digits n
  · exact Number.value_paddedDigits 2 n

theorem ne_nil : cs ≠ [] := by
  rcases h with rfl | rfl
  · exact Number.digits_ne_nil n
  · exact List.append_ne_nil_of_right_ne_nil _ (Number.digits_ne_nil n)

theorem length_le (hn : n < 100) : cs.length ≤ 2 := by
  rcases h with rfl | rfl
  · exact Number.length_digits_le (by decide) hn
  · exact Nat.le_of_eq (Number.length_paddedDigits (by decide) hn)

/-- A number text is preferred as a whole where no digit follows. -/
theorem segments (numeral : Numeral) (hwidth : numeral.least = 1 ∧ numeral.most = 2)
    (hn : n < 100) (hlow : numeral.low ≤ n) (hhigh : n ≤ numeral.high) {rest : List Char}
    (hrest : ∀ c ∈ rest.head?, Text.isAsciiDigit c = false) :
    ∃ more, numeral.segments (cs ++ rest) =
      (cs.length, .number numeral.slot (numeral.meaning cs.length n)) :: more := by
  have hdigits : ∀ c ∈ cs, Text.isAsciiDigit c = true := fun _ => h.isAsciiDigit
  have hleast : numeral.least ≤ cs.length := hwidth.1 ▸ List.length_pos_iff.mpr h.ne_nil
  have hmost : cs.length ≤ numeral.most := hwidth.2 ▸ h.length_le hn
  have hvalue := h.value
  obtain ⟨more, hsegments⟩ := numeral.segments_digits hdigits hleast hmost (.inr hrest)
    (hvalue.symm ▸ hlow) (hvalue.symm ▸ hhigh)
  exact ⟨more, hvalue ▸ hsegments⟩

end IsNumberText

/-! ## Days and times -/

/-- A day as its number, its month and its year in four digits, without white space. -/
def IsPlainDate (date : Date) (cs : List Char) : Prop :=
  ∃ day month, IsNumberText date.day day ∧ IsNumberText date.month month ∧
    cs = day ++ '.' :: (month ++ '.' :: Number.paddedDigits 4 date.year)

/-- A time of day as its hour and its minute. -/
def IsTimeText (time : TimeOfDay) (cs : List Char) : Prop :=
  ∃ hour minute, IsNumberText time.hour hour ∧ IsNumberText time.minute minute ∧
    cs = hour ++ ':' :: minute

/-- The pieces that read a day. -/
def datePieces : List Piece :=
  [.directive .day, .literal '.', .directive .month, .literal '.', .directive .year]

/-- The pieces that read a time of day. -/
def timePieces : List Piece := [.directive .hour, .literal ':', .directive .minute]

/-- The usual formats compile to the pieces of a date and of a time. -/
theorem compile?_usual (locale : Locale) :
    Piece.compile? locale usualDate = some datePieces ∧
      Piece.compile? locale usualMoment = some (datePieces ++ .space :: timePieces) :=
  ⟨rfl, rfl⟩

variable {locale : Locale} {date : Date} {time : TimeOfDay} {cs : List Char}

theorem not_isAsciiDigit_head {c : Char} (hc : isAsciiDigit c = false) (cs : List Char) :
    ∀ d ∈ (c :: cs).head?, isAsciiDigit d = false := by
  rintro d ⟨⟩
  exact hc

/-- The pieces of a date read a day without white space, whatever is behind it. -/
theorem matchPieces?_datePieces (h : IsPlainDate date cs)
    (hyear : 1 ≤ date.year ∧ date.year ≤ 9999) {pieces : List Piece} {rest : List Char}
    (fields : Fields) {result : Fields}
    (hrest : matchPieces? locale pieces rest
      (((fields.add (.number .day date.day)).add (.number .month date.month)).add
        (.number .year date.year)) = some result) :
    matchPieces? locale (datePieces ++ pieces) (cs ++ rest) fields = some result := by
  obtain ⟨day, month, hday, hmonth, rfl⟩ := h
  have hdot : ∀ cs, ∀ c ∈ ('.' :: cs).head?, isAsciiDigit c = false :=
    not_isAsciiDigit_head (by decide)
  have hmonths := date.month_bounds
  have hdays := date.day_le_31
  have hdaySegments : ∃ more, Directive.day.segments locale (day ++ '.' :: (month ++ '.' ::
      (Number.paddedDigits 4 date.year ++ rest))) = (day.length, .number .day date.day) :: more :=
    hday.segments _ ⟨rfl, rfl⟩ (by omega) date.one_le_day date.day_le_31 (hdot _)
  have hmonthSegments : ∃ more, Directive.month.segments locale (month ++ '.' ::
      (Number.paddedDigits 4 date.year ++ rest)) =
        (month.length, .number .month date.month) :: more :=
    hmonth.segments _ ⟨rfl, rfl⟩ (by omega) hmonths.1 hmonths.2 (hdot _)
  have hyearSegments : ∃ more, Directive.year.segments locale (Number.paddedDigits 4 date.year ++
      rest) = ((Number.paddedDigits 4 date.year).length, .number .year date.year) :: more :=
    Numeral.segments_padded _ (by decide) hyear.1 hyear.2 rest
  simp only [List.append_assoc, List.cons_append]
  refine matchPieces?_directive hdaySegments ?_
  rw [List.drop_left]
  refine (matchPieces?_literal '.' _ _ _).trans (matchPieces?_directive hmonthSegments ?_)
  rw [List.drop_left]
  refine (matchPieces?_literal '.' _ _ _).trans (matchPieces?_directive hyearSegments ?_)
  rw [List.drop_left]
  exact hrest

/-- The pieces of a time read a time that no digit is behind. -/
theorem matchPieces?_timePieces_append (h : IsTimeText time cs) {pieces : List Piece}
    {rest : List Char} (hrest : ∀ c ∈ rest.head?, isAsciiDigit c = false) {fields result : Fields}
    (hmore : matchPieces? locale pieces rest
      ((fields.add (.number .hour time.hour)).add (.number .minute time.minute)) = some result) :
    matchPieces? locale (timePieces ++ pieces) (cs ++ rest) fields = some result := by
  obtain ⟨hour, minute, hhour, hminute, rfl⟩ := h
  have hhours := time.hour_lt
  have hminutes := time.minute_lt
  have hhourSegments : ∃ more, Directive.hour.segments locale (hour ++ ':' :: (minute ++ rest)) =
      (hour.length, .number .hour time.hour) :: more :=
    hhour.segments _ ⟨rfl, rfl⟩ (by omega) (Nat.zero_le _) (Nat.le_of_lt_succ hhours)
      (not_isAsciiDigit_head (by decide) _)
  have hminuteSegments : ∃ more, Directive.minute.segments locale (minute ++ rest) =
      (minute.length, .number .minute time.minute) :: more :=
    hminute.segments _ ⟨rfl, rfl⟩ (by omega) (Nat.zero_le _) (Nat.le_of_lt_succ hminutes) hrest
  rw [List.append_assoc, List.cons_append]
  refine matchPieces?_directive hhourSegments ?_
  rw [List.drop_left]
  refine (matchPieces?_literal ':' _ _ _).trans (matchPieces?_directive hminuteSegments ?_)
  rw [List.drop_left]
  exact hmore

theorem matchPieces?_timePieces (h : IsTimeText time cs) (fields : Fields) :
    matchPieces? locale timePieces cs fields =
      some ((fields.add (.number .hour time.hour)).add (.number .minute time.minute)) := by
  have hnone : ∀ c ∈ ([] : List Char).head?, isAsciiDigit c = false := nofun
  have hend : ∀ fields, matchPieces? locale [] [] fields = some fields := fun _ => rfl
  have hmatch := matchPieces?_timePieces_append h hnone (hend
    ((fields.add (.number .hour time.hour)).add (.number .minute time.minute)))
  rwa [List.append_nil, List.append_nil] at hmatch

theorem moment?_eq_some {fields : Fields} (hdate : fields.date? = some date)
    (htime : fields.time? = some time) : fields.moment? = some (date, time) := by
  rw [Fields.moment?, hdate, htime]
  rfl

theorem read?_usualDate (h : IsPlainDate date cs) (hyear : 1 ≤ date.year ∧ date.year ≤ 9999) :
    read? locale usualDate (String.ofList cs) = some (date, TimeOfDay.midnight) := by
  have hend : ∀ fields, matchPieces? locale [] [] fields = some fields := fun _ => rfl
  have hmatch := matchPieces?_datePieces h hyear {} (hend _)
  rw [List.append_nil, List.append_nil] at hmatch
  rw [read?, (compile?_usual locale).1, String.toList_ofList]
  simp only [Option.bind_eq_bind, Option.bind_some, hmatch]
  exact moment?_eq_some (Date.of?_self date) rfl

/-- The usual format of a moment reads a day and a time. -/
theorem read?_usualMoment {ts : List Char} (h : IsPlainDate date cs)
    (hyear : 1 ≤ date.year ∧ date.year ≤ 9999) (ht : IsTimeText time ts)
    (hminutes : time.second = 0 ∧ time.micro = 0) :
    read? locale usualMoment (String.ofList (cs ++ ' ' :: ts)) = some (date, time) := by
  have hbegins : ∀ c ∈ ts.head?, isBlank c = false := by
    obtain ⟨hour, minute, hhour, -, rfl⟩ := ht
    obtain ⟨d, ds, rfl⟩ := List.ne_nil_iff_exists_cons.mp hhour.ne_nil
    rintro c ⟨⟩
    exact not_isBlank_of_isAsciiDigit (hhour.isAsciiDigit List.mem_cons_self)
  have hspace : ∀ fields, matchPieces? locale (.space :: timePieces) (' ' :: ts) fields = _ :=
    fun fields =>
      (matchPieces?_space timePieces hbegins fields).trans (matchPieces?_timePieces ht fields)
  have hmatch := matchPieces?_datePieces h hyear {} (hspace _)
  have htime := TimeOfDay.of?_self time
  rw [hminutes.1, hminutes.2] at htime
  rw [read?, (compile?_usual locale).2, String.toList_ofList]
  simp only [Option.bind_eq_bind, Option.bind_some, hmatch]
  exact moment?_eq_some (Date.of?_self date) htime

/-! ## Characters that need a literal -/

/-- A directive that takes digits only. -/
def Directive.IsNumeric (d : Directive) : Prop :=
  ∀ (locale : Locale) (input : List Char) (width : Nat) (reading : Reading),
    (width, reading) ∈ d.segments locale input → ∀ c ∈ input.take width, isAsciiDigit c = true

/-- A segment for a number has digits only. -/
theorem Numeral.isAsciiDigit_of_mem_segments (n : Numeral) {input : List Char} {width : Nat}
    {reading : Reading} (h : (width, reading) ∈ n.segments input) {c : Char}
    (hc : c ∈ input.take width) : isAsciiDigit c = true := by
  unfold Numeral.segments at h
  obtain ⟨w, hw, hsome⟩ := List.mem_filterMap.mp h
  have hwidth : w = width := by
    dsimp only at hsome
    split at hsome
    · cases hsome
      rfl
    · cases hsome
  rw [List.mem_reverse, List.mem_range'_1, hwidth] at hw
  -- the characters that are taken are among the digits at the front
  have havailable := (List.takeWhile_prefix isAsciiDigit).trans (List.take_prefix n.most input)
  have htaken := List.prefix_of_prefix_length_le (List.take_prefix width input) havailable
    (by rw [List.length_take]; omega)
  exact List.mem_takeWhile_imp (htaken.subset hc)

/-- The directives of the usual formats. -/
def usualDirectives : List Directive := [.day, .month, .year, .hour, .minute]

theorem isNumeric_of_mem_usualDirectives {d : Directive} (h : d ∈ usualDirectives) :
    d.IsNumeric := by
  intro locale input width reading hmem c hc
  simp only [usualDirectives, List.mem_cons, List.not_mem_nil, or_false] at h
  rcases h with rfl | rfl | rfl | rfl | rfl <;>
    exact Numeral.isAsciiDigit_of_mem_segments _ hmem hc

/-- A directive that never takes a character. -/
def Directive.Avoids (locale : Locale) (c : Char) (d : Directive) : Prop :=
  ∀ (input : List Char) (width : Nat) (reading : Reading),
    (width, reading) ∈ d.segments locale input → c ∉ input.take width

/-- A directive for a number reads nothing but digits. -/
theorem Directive.IsNumeric.avoids {d : Directive} (h : d.IsNumeric) (locale : Locale) {c : Char}
    (hdigit : isAsciiDigit c = false) : d.Avoids locale c := by
  intro input width reading hmem hc
  rw [h locale input width reading hmem c hc] at hdigit
  cases hdigit

/-- Whether a piece is a literal that reads a character. -/
def Piece.reads (c : Char) : Piece → Bool
  | .literal l => sameLetter c l
  | _ => false

/-- A character that is not white space and that no directive takes is read by literals only. -/
theorem count_le_of_matchPieces? {c : Char} (hblank : isBlank c = false) {pieces : List Piece}
    (havoids : ∀ d, .directive d ∈ pieces → d.Avoids locale c) {input : List Char}
    {fields result : Fields} (h : matchPieces? locale pieces input fields = some result) :
    input.count c ≤ pieces.countP (Piece.reads c) := by
  induction pieces generalizing input fields with
  | nil =>
    rw [matchPieces?] at h
    split at h
    · next hempty => simp [List.isEmpty_iff.mp hempty]
    · cases h
  | cons piece pieces ih =>
    have hrest : ∀ {input : List Char} {fields : Fields},
        matchPieces? locale pieces input fields = some result →
          input.count c ≤ pieces.countP (Piece.reads c) :=
      ih fun d hd => havoids d (List.mem_cons_of_mem _ hd)
    cases piece with
    | literal l =>
      cases input with
      | nil => simp
      | cons found input =>
        rw [matchPieces?] at h
        split at h
        · next hsame =>
          have hcount := hrest h
          by_cases heq : found = c
          · subst heq
            have hreads : Piece.reads found (.literal l) = true := hsame
            rw [List.count_cons_self, List.countP_cons_of_pos hreads]
            omega
          · rw [List.count_cons_of_ne heq]
            exact hcount.trans (List.Sublist.countP_le (List.sublist_cons_self _ _))
        · cases h
    | space =>
      rw [matchPieces?] at h
      split at h
      · cases h
      · have hsplit : input.count c = (input.dropWhile isBlank).count c := by
          have hzero : (input.takeWhile isBlank).count c = 0 := by
            refine List.count_eq_zero.mpr fun hmem => ?_
            rw [List.mem_takeWhile_imp hmem] at hblank
            cases hblank
          conv_lhs => rw [← List.takeWhile_append_dropWhile (p := isBlank) (l := input)]
          rw [List.count_append, hzero, Nat.zero_add]
        rw [hsplit]
        exact (hrest h).trans (List.Sublist.countP_le (List.sublist_cons_self _ _))
    | directive d =>
      rw [matchPieces?] at h
      obtain ⟨⟨width, reading⟩, hmem, hmatch⟩ := List.exists_of_findSome?_eq_some h
      have hzero : (input.take width).count c = 0 :=
        List.count_eq_zero.mpr (havoids d List.mem_cons_self input width reading hmem)
      have hsplit : input.count c = (input.drop width).count c := by
        conv_lhs => rw [← List.take_append_drop width input]
        rw [List.count_append, hzero, Nat.zero_add]
      rw [hsplit]
      exact (hrest hmatch).trans (List.Sublist.countP_le (List.sublist_cons_self _ _))

/-- A text with too many of such a character is not read. -/
theorem readStated?_eq_none_of_avoids {c : Char} (hblank : isBlank c = false) {format : String}
    {pieces : List Piece} (hcompile : Piece.compile? locale format = some pieces)
    (havoids : ∀ d, .directive d ∈ pieces → d.Avoids locale c) {input : List Char}
    (hcount : pieces.countP (Piece.reads c) < input.count c) :
    readStated? locale format (String.ofList input) = none := by
  have hmatch : matchPieces? locale pieces input {} = none := by
    rw [← Option.not_isSome_iff_eq_none, Option.isSome_iff_exists]
    rintro ⟨result, h⟩
    exact absurd (count_le_of_matchPieces? hblank havoids h) (Nat.not_le.mpr hcount)
  rw [readStated?, read?, hcompile, String.toList_ofList]
  simp only [Option.bind_eq_bind, Option.bind_some, hmatch]
  rfl

/-- A format of numbers states nothing of a text that has a character more often than the format. -/
theorem readStated?_eq_none {c : Char} (hblank : isBlank c = false)
    (hdigit : isAsciiDigit c = false) {format : String} {pieces : List Piece}
    (hcompile : Piece.compile? locale format = some pieces)
    (hdirectives : ∀ d ∈ pieces.filterMap Piece.directive?, d ∈ usualDirectives)
    {input : List Char} (hcount : pieces.countP (Piece.reads c) < input.count c) :
    readStated? locale format (String.ofList input) = none := by
  have hnumeric : ∀ d, .directive d ∈ pieces → d.IsNumeric := fun d hd =>
    isNumeric_of_mem_usualDirectives (hdirectives d (List.mem_filterMap.mpr ⟨_, hd, rfl⟩))
  exact readStated?_eq_none_of_avoids hblank hcompile
    (fun d hd => (hnumeric d hd).avoids locale hdigit) hcount

end Almanac.Datetime
