import Mathlib.Data.List.Chain
import Almanac.Proofs.Datetime.Segments

/-!
# Writing dates and times

A moment is written in a format character by character: a directive by the part of the
moment that it stands for, numbers with zeros in front and names as the locale has them, a
run of white space by one space, and any other character by itself. The letters `x` and `X`
stand for the usual formats of the locale. This says what the text is without the pieces
into which a format is taken apart; `writeFormat_eq` says that the pieces give the same.
-/

namespace Almanac

open Text

/-! ## Parts of a moment -/

namespace Date

/-- How many days there are up to a day, from the first day of the year 1 on. -/
def dayNumber (d : Date) : Nat :=
  let years := d.year - 1
  365 * years + years / 4 - years / 100 + years / 400 +
    ((List.range' 1 (d.month - 1)).map (Calendar.daysInMonth d.year)).sum + d.day

/-- The day of the week, Monday being zero. -/
def weekday (d : Date) : Nat := (d.dayNumber + 6) % 7

theorem weekday_lt (d : Date) : d.weekday < 7 := Nat.mod_lt _ (by decide)

theorem month_bounds (d : Date) : 1 ≤ d.month ∧ d.month ≤ 12 := by
  have h := Nat.le_trans d.one_le_day d.day_le
  unfold Calendar.daysInMonth at h
  split at h <;> omega

theorem day_le_31 (d : Date) : d.day ≤ 31 := by
  have h := d.day_le
  unfold Calendar.daysInMonth at h
  split at h
  · split at h <;> omega
  all_goals omega

end Date

namespace TimeOfDay

/-- The hour on a clock of twelve hours. -/
def clockHour (t : TimeOfDay) : Nat := if t.hour % 12 = 0 then 12 else t.hour % 12

/-- The hours of a clock go from 1 to 12. -/
theorem clockHour_bounds (t : TimeOfDay) : 1 ≤ t.clockHour ∧ t.clockHour ≤ 12 := by
  unfold clockHour
  split <;> omega

theorem of?_self (t : TimeOfDay) : of? t.hour t.minute t.second t.micro = some t :=
  dif_pos ⟨t.hour_lt, t.minute_lt, t.second_lt, t.micro_lt⟩

end TimeOfDay

namespace Datetime

/-- The number that a part of a moment has. -/
def Slot.part (date : Date) (time : TimeOfDay) : Slot → Nat
  | .year => date.year
  | .month => date.month
  | .day => date.day
  | .hour => time.hour
  | .halfDayHour => time.clockHour
  | .minute => time.minute
  | .second => time.second
  | .micro => time.micro

namespace Directive

/-- The part of a moment that a directive states as a number. -/
def slot? : Directive → Option Slot
  | day => some .day
  | month | monthName | shortMonthName => some .month
  | year | shortYear => some .year
  | hour => some .hour
  | halfDayHour => some .halfDayHour
  | minute => some .minute
  | second => some .second
  | fraction => some .micro
  | meridiem | weekdayName | shortWeekdayName => none

/-- A name by its place in a list. -/
def nameAt (names : List String) (i : Nat) : List Char := (names.getD i "").toList

/-- What a directive writes. -/
def write (locale : Locale) (date : Date) (time : TimeOfDay) : Directive → List Char
  | day => Number.paddedDigits 2 date.day
  | month => Number.paddedDigits 2 date.month
  | year => Number.paddedDigits 4 date.year
  | shortYear => Number.paddedDigits 2 (date.year % 100)
  | hour => Number.paddedDigits 2 time.hour
  | halfDayHour => Number.paddedDigits 2 time.clockHour
  | minute => Number.paddedDigits 2 time.minute
  | second => Number.paddedDigits 2 time.second
  | fraction => Number.paddedDigits 6 time.micro
  | meridiem => nameAt locale.meridiem (if time.hour < 12 then 0 else 1)
  | monthName => nameAt locale.months (date.month - 1)
  | shortMonthName => nameAt locale.shortMonths (date.month - 1)
  | weekdayName => nameAt locale.weekdays date.weekday
  | shortWeekdayName => nameAt locale.shortWeekdays date.weekday

end Directive

/-! ## Formats as texts -/

section Texts

variable (locale : Locale) (date : Date) (time : TimeOfDay)

/-- A format with the usual formats in the places of their letters. -/
def expand : List Char → List Char
  | '%' :: letter :: rest =>
    (if letter = 'x' then locale.dateFormat.toList
      else if letter = 'X' then locale.timeFormat.toList
      else ['%', letter]) ++ expand rest
  | c :: rest => c :: expand rest
  | [] => []

/-- What a percent sign and a letter write. -/
def writeLetter (letter : Char) : List Char :=
  match Directive.ofLetter? letter with
  | some directive => directive.write locale date time
  | none => [letter]

/-- What a character writes, from whether it is white space and whether some follows: the
last of a run of white space stands for the run. -/
@[irreducible] def writeChar (blank more : Bool) (c : Char) : List Char :=
  if !blank then [c] else if more then [] else [' ']

/-- What is written in a format of directives, literal characters and white space. -/
def writePlain : List Char → List Char
  | '%' :: letter :: rest => writeLetter locale date time letter ++ writePlain rest
  | c :: rest => writeChar (isBlank c) (rest.head?.any isBlank) c ++ writePlain rest
  | [] => []

/-- The directives in a format. -/
def directivesIn : List Char → List Directive
  | '%' :: letter :: rest => (Directive.ofLetter? letter).toList ++ directivesIn rest
  | _ :: rest => directivesIn rest
  | [] => []

/-- A moment written in a format. -/
def writeFormat (format : String) : String :=
  String.ofList (writePlain locale date time (expand locale format.toList))

/-- The directives that a format holds, itself or in a usual format. -/
def directivesOf (format : String) : List Directive := directivesIn (expand locale format.toList)

end Texts

/-! ## Formats as pieces -/

namespace Piece

/-- What a piece writes. -/
def write (locale : Locale) (date : Date) (time : TimeOfDay) : Piece → List Char
  | literal c => [c]
  | space => [' ']
  | directive d => d.write locale date time

/-- The directive that a piece is. -/
def directive? : Piece → Option Directive
  | directive d => some d
  | _ => none

/-- Which pieces a format of directives, literal characters and white space spells. -/
inductive Spells : List Char → List Piece → Prop
  | nil : Spells [] []
  | percent {rest : List Char} {pieces : List Piece} :
      Spells rest pieces → Spells ('%' :: '%' :: rest) (literal '%' :: pieces)
  | directive {letter : Char} {d : Directive} {rest : List Char} {pieces : List Piece} :
      Directive.ofLetter? letter = some d → Spells rest pieces →
        Spells ('%' :: letter :: rest) (directive d :: pieces)
  | blank {c : Char} {rest : List Char} {pieces : List Piece} :
      isBlank c = true → Spells rest pieces → Spells (c :: rest) (space :: pieces)
  | literal {c : Char} {rest : List Char} {pieces : List Piece} :
      c ≠ '%' → isBlank c = false → Spells rest pieces → Spells (c :: rest) (literal c :: pieces)

theorem Spells.append {front back : List Char} {pieces more : List Piece}
    (h : Spells front pieces) (hback : Spells back more) :
    Spells (front ++ back) (pieces ++ more) := by
  induction h with
  | nil => exact hback
  | percent _ ih => exact .percent ih
  | directive hd _ ih => exact .directive hd ih
  | blank hc _ ih => exact .blank hc ih
  | literal hc hb _ ih => exact .literal hc hb ih

/-- A character that is not a percent sign spells white space or itself. -/
theorem Spells.char {c : Char} {rest : List Char} {pieces : List Piece} (hc : c ≠ '%')
    (h : Spells rest pieces) :
    Spells (c :: rest) ((if isBlank c then space else .literal c) :: pieces) := by
  cases hb : isBlank c with
  | true => exact .blank hb h
  | false => exact .literal hc hb h

theorem ne_percent {c : Char} {rest : List Char} (hend : c = '%' → rest = [] → False)
    (hletter : ∀ (letter : Char) (more : List Char), c = '%' → rest = letter :: more → False) :
    c ≠ '%' := by
  intro hc
  cases rest with
  | nil => exact hend hc rfl
  | cons letter rest => exact hletter letter rest hc rfl

theorem listOf?_char {c : Char} (hc : c ≠ '%') (expansion : Char → Option (List Piece))
    (rest : List Char) :
    listOf? expansion (c :: rest) =
      (listOf? expansion rest).map ((if isBlank c then space else .literal c) :: ·) := by
  rw [listOf?]
  · rintro rfl -
    exact hc rfl
  · rintro letter rest rfl -
    exact hc rfl

/-- A format that is read without usual formats is spelled by its pieces. -/
theorem spells_of_listOf? {format : List Char} {pieces : List Piece}
    (h : listOf? (fun _ => none) format = some pieces) : Spells format pieces := by
  fun_induction listOf? (fun _ => none) format generalizing pieces with
  | case1 =>
    cases h
    exact .nil
  | case2 => cases h
  | case3 letter rest front =>
    rename_i ih
    obtain ⟨found, hfront, hmap⟩ := Option.bind_eq_some_iff.mp h
    simp only [front] at hfront
    obtain ⟨more, hmore, rfl⟩ := Option.map_eq_some_iff.mp hmap
    have hrest := ih hmore
    split at hfront
    · next hletter =>
      cases hfront
      exact hletter ▸ .percent hrest
    · split at hfront
      · next d hd =>
        cases hfront
        exact .directive hd hrest
      · cases hfront
  | case4 c rest hend hletter ih =>
    obtain ⟨more, hmore, rfl⟩ := Option.map_eq_some_iff.mp h
    have hc := ne_percent hend hletter
    exact .char hc (ih hmore)

/-- A format in which the usual ones are written out is spelled by the pieces that it is read as. -/
theorem spells_expand {locale : Locale} {format : List Char} {pieces : List Piece}
    (h : listOf? (usualFormat? locale) format = some pieces) :
    Spells (expand locale format) pieces := by
  fun_induction listOf? (usualFormat? locale) format generalizing pieces with
  | case1 =>
    cases h
    exact .nil
  | case2 => cases h
  | case3 letter rest front =>
    rename_i ih
    obtain ⟨found, hfront, hmap⟩ := Option.bind_eq_some_iff.mp h
    simp only [front] at hfront
    obtain ⟨more, hmore, rfl⟩ := Option.map_eq_some_iff.mp hmap
    have hrest := ih hmore
    rw [expand]
    refine .append ?_ hrest
    split at hfront
    · next hletter =>
      cases hfront
      rw [hletter]
      exact .percent .nil
    · split at hfront
      · next d hd =>
        cases hfront
        have hx : letter ≠ 'x' := by
          rintro rfl
          cases hd
        have hX : letter ≠ 'X' := by
          rintro rfl
          cases hd
        rw [if_neg hx, if_neg hX]
        exact .directive hd .nil
      · unfold usualFormat? at hfront
        split at hfront
        · next hx =>
          rw [if_pos hx]
          exact spells_of_listOf? hfront
        · next hx =>
          split at hfront
          · next hX =>
            rw [if_neg hx, if_pos hX]
            exact spells_of_listOf? hfront
          · cases hfront
  | case4 c rest hend hletter ih =>
    obtain ⟨more, hmore, rfl⟩ := Option.map_eq_some_iff.mp h
    have hc := ne_percent hend hletter
    have hexpand : expand locale (c :: rest) = c :: expand locale rest := by
      rw [expand]
      rintro letter rest rfl
      exact absurd rfl hc
    rw [hexpand]
    exact .char hc (ih hmore)

/-! ## Neighbouring spaces -/

theorem mergeSpaces_space (pieces : List Piece) :
    mergeSpaces (space :: pieces) =
      if (mergeSpaces pieces).head? = some space then mergeSpaces pieces
      else space :: mergeSpaces pieces := by
  rw [mergeSpaces]
  cases mergeSpaces pieces with
  | nil => rfl
  | cons piece more => cases piece <;> simp

theorem mergeSpaces_cons {piece : Piece} (h : piece ≠ space) (pieces : List Piece) :
    mergeSpaces (piece :: pieces) = piece :: mergeSpaces pieces := by
  cases piece with
  | space => exact absurd rfl h
  | _ => rfl

theorem head?_mergeSpaces (pieces : List Piece) : (mergeSpaces pieces).head? = pieces.head? := by
  cases pieces with
  | nil => rfl
  | cons piece pieces =>
    by_cases h : piece = space
    · rw [h, mergeSpaces_space]
      split
      · next hhead => rw [hhead, List.head?_cons]
      · rfl
    · rw [mergeSpaces_cons h, List.head?_cons, List.head?_cons]

theorem mem_of_mem_mergeSpaces {p : Piece} {pieces : List Piece} (h : p ∈ mergeSpaces pieces) :
    p ∈ pieces := by
  induction pieces with
  | nil => exact h
  | cons piece pieces ih =>
    by_cases hpiece : piece = space
    · rw [hpiece, mergeSpaces_space] at h
      split at h
      · exact List.mem_cons_of_mem _ (ih h)
      · rcases List.mem_cons.mp h with rfl | h
        · exact hpiece ▸ List.mem_cons_self
        · exact List.mem_cons_of_mem _ (ih h)
    · rw [mergeSpaces_cons hpiece] at h
      rcases List.mem_cons.mp h with rfl | h
      · exact List.mem_cons_self
      · exact List.mem_cons_of_mem _ (ih h)

theorem isChain_mergeSpaces (pieces : List Piece) :
    (mergeSpaces pieces).IsChain fun a b => ¬ (a = space ∧ b = space) := by
  induction pieces with
  | nil => exact .nil
  | cons piece pieces ih =>
    by_cases hpiece : piece = space
    · rw [hpiece, mergeSpaces_space]
      split
      · exact ih
      · next hhead =>
        refine List.isChain_cons.mpr ⟨fun b hb hspace => ?_, ih⟩
        exact hhead (hspace.2 ▸ hb)
    · rw [mergeSpaces_cons hpiece]
      exact List.isChain_cons.mpr ⟨fun b _ hspace => hpiece hspace.1, ih⟩

/-! ## A format and its pieces write the same -/

/-- A format begins with white space just when its pieces begin with a space. -/
theorem Spells.head?_any {format : List Char} {pieces : List Piece} (h : Spells format pieces) :
    format.head?.any isBlank = true ↔ pieces.head? = some space := by
  have hpercent : isBlank '%' = false := by decide
  cases h with
  | nil => simp
  | percent _ => simp [hpercent]
  | directive _ _ => simp [hpercent]
  | blank hc _ => simp [hc]
  | literal _ hc _ => simp [hc]

theorem Spells.not_isBlank_of_literal {format : List Char} {pieces : List Piece}
    (h : Spells format pieces) {c : Char} (hc : .literal c ∈ pieces) : isBlank c = false := by
  induction h with
  | nil => cases hc
  | percent _ ih =>
    rcases List.mem_cons.mp hc with heq | hc
    · cases heq
      decide
    · exact ih hc
  | directive _ _ ih => exact ih ((List.mem_cons.mp hc).resolve_left (by simp))
  | blank _ _ ih => exact ih ((List.mem_cons.mp hc).resolve_left (by simp))
  | literal _ hblank _ ih =>
    rcases List.mem_cons.mp hc with heq | hc
    · cases heq
      exact hblank
    · exact ih hc

theorem writePlain_char {locale : Locale} {date : Date} {time : TimeOfDay} {c : Char}
    (hc : c ≠ '%') (rest : List Char) :
    writePlain locale date time (c :: rest) =
      writeChar (isBlank c) (rest.head?.any isBlank) c ++ writePlain locale date time rest := by
  rw [writePlain]
  rintro letter rest rfl
  exact absurd rfl hc

theorem directivesIn_char {c : Char} (hc : c ≠ '%') (rest : List Char) :
    directivesIn (c :: rest) = directivesIn rest := by
  rw [directivesIn]
  rintro letter rest rfl
  exact absurd rfl hc

theorem ne_percent_of_isBlank {c : Char} (hc : isBlank c = true) : c ≠ '%' := by
  rintro rfl
  exact absurd hc (by decide)

/-- A moment is written piece by piece, after spaces are merged. -/
theorem writePlain_eq {locale : Locale} {date : Date} {time : TimeOfDay} {format : List Char}
    {pieces : List Piece} (h : Spells format pieces) :
    writePlain locale date time format =
      (mergeSpaces pieces).flatMap (Piece.write locale date time) := by
  induction h with
  | nil => rfl
  | percent _ ih =>
    rw [mergeSpaces_cons (by simp), List.flatMap_cons, ← ih, writePlain]
    rfl
  | directive hd _ ih =>
    rw [mergeSpaces_cons (by simp), List.flatMap_cons, ← ih, writePlain, writeLetter, hd]
    rfl
  | @blank c rest pieces hc hrest ih =>
    rw [mergeSpaces_space, writePlain_char (ne_percent_of_isBlank hc), ih, writeChar, hc]
    simp only [Bool.not_true, Bool.false_eq_true, if_false, hrest.head?_any, head?_mergeSpaces]
    split
    · rfl
    · rfl
  | literal hpercent hc _ ih =>
    rw [mergeSpaces_cons (by simp), List.flatMap_cons, ← ih, writePlain_char hpercent, writeChar,
      hc]
    rfl

/-- The directives of a format are those among its pieces. -/
theorem directivesIn_eq {format : List Char} {pieces : List Piece} (h : Spells format pieces) :
    directivesIn format = (mergeSpaces pieces).filterMap directive? := by
  induction h with
  | nil => rfl
  | percent _ ih =>
    rw [mergeSpaces_cons (by simp), List.filterMap_cons, ← ih, directivesIn]
    rfl
  | directive hd _ ih =>
    rw [mergeSpaces_cons (by simp), List.filterMap_cons, ← ih, directivesIn, hd]
    rfl
  | blank hc _ ih =>
    rw [mergeSpaces_space, directivesIn_char (ne_percent_of_isBlank hc), ih]
    split
    · rfl
    · rfl
  | literal hpercent _ _ ih =>
    rw [mergeSpaces_cons (by simp), List.filterMap_cons, ← ih, directivesIn_char hpercent]
    rfl

end Piece

/-- The pieces of a format write what the format writes, no two neighbours among them are
spaces, and their literal characters are not white space. -/
theorem writeFormat_eq {locale : Locale} {format : String} {pieces : List Piece}
    (h : Piece.compile? locale format = some pieces) (date : Date) (time : TimeOfDay) :
    writeFormat locale date time format =
        String.ofList (pieces.flatMap (Piece.write locale date time)) ∧
      directivesOf locale format = pieces.filterMap Piece.directive? ∧
      pieces.IsChain (fun a b => ¬ (a = .space ∧ b = .space)) ∧
      ∀ c, .literal c ∈ pieces → isBlank c = false := by
  obtain ⟨spelled, hspelled, rfl⟩ := Option.map_eq_some_iff.mp h
  have hspells := Piece.spells_expand hspelled
  refine ⟨?_, Piece.directivesIn_eq hspells, Piece.isChain_mergeSpaces spelled, fun c hc => ?_⟩
  · rw [writeFormat, Piece.writePlain_eq hspells]
  · exact hspells.not_isBlank_of_literal (Piece.mem_of_mem_mergeSpaces hc)

end Datetime

end Almanac
