import Almanac.Proofs.Datetime.Writing

/-!
# Reading what was written

A moment written in a format is read back as far as the format states it: `read?_writeFormat`.
Every directive prefers the segment that it wrote (`segments_write`), so the first way
through the pieces is the intended one (`matchPieces?_write`). A part that several
directives state keeps its first value, which is the value of all of them (`get_readAll`).
-/

namespace Almanac

open Text

namespace Locale

/-- The names of a language are complete, and those of each kind can be told apart. -/
structure IsReadable (locale : Locale) : Prop where
  months : locale.months.length = 12 ∧ Datetime.AreReadable locale.months
  shortMonths : locale.shortMonths.length = 12 ∧ Datetime.AreReadable locale.shortMonths
  weekdays : locale.weekdays.length = 7 ∧ Datetime.AreReadable locale.weekdays
  shortWeekdays : locale.shortWeekdays.length = 7 ∧ Datetime.AreReadable locale.shortWeekdays
  meridiem : locale.meridiem.length = 2 ∧ Datetime.AreReadable locale.meridiem

theorem isReadable_czech : czech.IsReadable :=
  ⟨by decide, by decide, by decide, by decide, by decide⟩

theorem isReadable_english : english.IsReadable :=
  ⟨by decide, by decide, by decide, by decide, by decide⟩

end Locale

namespace Datetime

/-! ## What directives state -/

/-- Whether one of the directives states a part. -/
def states (ds : List Directive) (slot : Slot) : Bool := ds.any fun d => d.slot? == some slot

/-- The day that directives state of a date, with the first of January 1900 for the parts
that they do not state, if there is such a day. -/
def statedDate? (ds : List Directive) (date : Date) : Option Date :=
  Date.of? (if states ds .year then date.year else 1900)
    (if states ds .month then date.month else 1) (if states ds .day then date.day else 1)

/-- The hour that directives state: as such, or by the clock of twelve hours, which is a
morning's unless the half of the day is stated too. -/
def statedHour (ds : List Directive) (time : TimeOfDay) : Nat :=
  if states ds .hour then time.hour
  else if states ds .halfDayHour then
    time.clockHour % 12 + if .meridiem ∈ ds ∧ 12 ≤ time.hour then 12 else 0
  else 0

theorem statedHour_lt (ds : List Directive) (time : TimeOfDay) : statedHour ds time < 24 := by
  have hhour := time.hour_lt
  have hclock : time.clockHour % 12 < 12 := Nat.mod_lt _ (by decide)
  unfold statedHour
  split
  · exact hhour
  · split
    · split <;> omega
    · decide

/-- The time that directives state, with midnight for the parts that they do not state. -/
def statedTime (ds : List Directive) (time : TimeOfDay) : TimeOfDay where
  hour := statedHour ds time
  minute := if states ds .minute then time.minute else 0
  second := if states ds .second then time.second else 0
  micro := if states ds .micro then time.micro else 0
  hour_lt := statedHour_lt ds time
  minute_lt := by
    have := time.minute_lt
    split <;> omega
  second_lt := by
    have := time.second_lt
    split <;> omega
  micro_lt := by
    have := time.micro_lt
    split <;> omega

section Moment

variable {locale : Locale} (date : Date) (time : TimeOfDay)

/-! ## One directive -/

/-- What a directive reads off the text that it wrote. -/
def Directive.reading (date : Date) (time : TimeOfDay) (d : Directive) : Reading :=
  match d.slot? with
  | some slot => .number slot (slot.part date time)
  | none => if d = meridiem then .meridiem (decide (12 ≤ time.hour)) else .ignored

/-- The name that is written is cut in full first. -/
theorem nameSegments_write {names : List String} {count : Nat}
    (hnames : names.length = count ∧ AreReadable names) (reading : Nat → Reading) {i : Nat}
    (hi : i < count) (rest : List Char) :
    ∃ more, nameSegments names reading (Directive.nameAt names i ++ rest) =
      ((Directive.nameAt names i).length, reading i) :: more := by
  have hget : names[i]? = some (names.getD i "") := by
    rw [List.getD_eq_getElem?_getD, List.getElem?_eq_getElem (hnames.1 ▸ hi), Option.getD_some]
  exact nameSegments_name hnames.2 reading hget rest

/-- A year that two digits stand for is read back from them. -/
theorem fullYear_mod {year : Nat} (h : 1969 ≤ year ∧ year ≤ 2068) :
    fullYear (year % 100) = year := by
  unfold fullYear
  split <;> omega

/-- A directive prefers to read what it wrote. -/
theorem segments_write (hlocale : locale.IsReadable) (hyear : 1 ≤ date.year ∧ date.year ≤ 9999)
    (d : Directive) (hshort : d = .shortYear → 1969 ≤ date.year ∧ date.year ≤ 2068)
    (rest : List Char) :
    ∃ more, d.segments locale (d.write locale date time ++ rest) =
      ((d.write locale date time).length, d.reading date time) :: more := by
  have hmonth := date.month_bounds
  have hplace : date.month - 1 < 12 := by omega
  have hmonth' : date.month - 1 + 1 = date.month := by omega
  have hhalf : (if time.hour < 12 then 0 else 1) < 2 := by split <;> decide
  have hhour := Nat.le_of_lt_succ time.hour_lt
  have hminute := Nat.le_of_lt_succ time.minute_lt
  have hsecond := Nat.le_of_lt_succ time.second_lt
  have hmicro := Nat.le_of_lt_succ time.micro_lt
  cases d with
  | day =>
    exact Numeral.segments_padded _ (by decide) date.one_le_day
      date.day_le_31 rest
  | month =>
    exact Numeral.segments_padded _ (by decide) hmonth.1 hmonth.2 rest
  | year =>
    exact Numeral.segments_padded _ (by decide) hyear.1 hyear.2 rest
  | shortYear =>
    have hread : Directive.reading date time .shortYear =
        .number .year (fullYear (date.year % 100)) := by
      rw [fullYear_mod (hshort rfl)]
      rfl
    rw [hread]
    exact Numeral.segments_padded _ (by decide) (Nat.zero_le _)
      (Nat.le_of_lt_succ (Nat.mod_lt _ (by decide))) rest
  | hour =>
    exact Numeral.segments_padded _ (by decide) (Nat.zero_le _) hhour rest
  | halfDayHour =>
    exact Numeral.segments_padded _ (by decide) time.clockHour_bounds.1
      time.clockHour_bounds.2 rest
  | minute =>
    exact Numeral.segments_padded _ (by decide) (Nat.zero_le _) hminute
      rest
  | second =>
    exact Numeral.segments_padded _ (by decide) (Nat.zero_le _) hsecond
      rest
  | fraction =>
    have hread : Directive.reading date time .fraction =
        .number .micro (microseconds 6 time.micro) := by
      rw [show microseconds 6 time.micro = time.micro from Nat.mul_one _]
      rfl
    rw [hread]
    exact Numeral.segments_padded _ (by decide) (Nat.zero_le _) hmicro rest
  | meridiem =>
    have hread : Directive.reading date time .meridiem =
        .meridiem ((if time.hour < 12 then 0 else 1) == 1) := by
      show Reading.meridiem (decide (12 ≤ time.hour)) = _
      split
      · next h => rw [decide_eq_false (Nat.not_le.mpr h)]; rfl
      · next h => rw [decide_eq_true (Nat.not_lt.mp h)]; rfl
    rw [hread]
    exact nameSegments_write hlocale.meridiem (fun i => .meridiem (i == 1)) hhalf rest
  | monthName =>
    have hsegments :=
      nameSegments_write hlocale.months (fun i => .number .month (i + 1)) hplace rest
    rwa [hmonth'] at hsegments
  | shortMonthName =>
    have hsegments :=
      nameSegments_write hlocale.shortMonths (fun i => .number .month (i + 1)) hplace rest
    rwa [hmonth'] at hsegments
  | weekdayName =>
    exact nameSegments_write hlocale.weekdays (fun _ => .ignored) date.weekday_lt rest
  | shortWeekdayName =>
    exact nameSegments_write hlocale.shortWeekdays (fun _ => .ignored) date.weekday_lt rest

/-! ## All pieces -/

theorem paddedDigits_begins (width n : Nat) :
    ∃ c cs, Number.paddedDigits width n = c :: cs ∧ isBlank c = false := by
  have hne : Number.paddedDigits width n ≠ [] :=
    List.append_ne_nil_of_right_ne_nil _ (Number.digits_ne_nil n)
  obtain ⟨c, cs, hcs⟩ := List.ne_nil_iff_exists_cons.mp hne
  have hc : c ∈ Number.paddedDigits width n := hcs ▸ List.mem_cons_self
  exact ⟨c, cs, hcs, not_isBlank_of_isAsciiDigit (Number.isAsciiDigit_of_mem_paddedDigits hc)⟩

/-- A name that is written does not begin with white space. -/
theorem nameAt_begins {names : List String} {count i : Nat}
    (hnames : names.length = count ∧ AreReadable names) (hi : i < count) :
    ∃ c cs, Directive.nameAt names i = c :: cs ∧ isBlank c = false := by
  have hlt : i < names.length := hnames.1 ▸ hi
  have hget : names.getD i "" = names[i] := by
    rw [List.getD_eq_getElem?_getD, List.getElem?_eq_getElem hlt, Option.getD_some]
  rw [Directive.nameAt, hget]
  exact hnames.2.begins_cons (List.getElem_mem hlt)

/-- What a directive writes begins with a character that is not white space. -/
theorem write_begins (hlocale : locale.IsReadable) (d : Directive) :
    ∃ c cs, d.write locale date time = c :: cs ∧ isBlank c = false := by
  have hmonth : date.month - 1 < 12 := by
    have := date.month_bounds
    omega
  cases d with
  | meridiem =>
    have hhalf : (if time.hour < 12 then 0 else 1) < 2 := by split <;> decide
    exact nameAt_begins hlocale.meridiem hhalf
  | monthName => exact nameAt_begins hlocale.months hmonth
  | shortMonthName => exact nameAt_begins hlocale.shortMonths hmonth
  | weekdayName => exact nameAt_begins hlocale.weekdays date.weekday_lt
  | shortWeekdayName => exact nameAt_begins hlocale.shortWeekdays date.weekday_lt
  | _ => exact paddedDigits_begins _ _

/-- The parts that directives read off what they wrote, added to those read before. -/
def readAll (date : Date) (time : TimeOfDay) (ds : List Directive) (fields : Fields) : Fields :=
  ds.foldl (fun f d => f.add (d.reading date time)) fields

/-- What is written does not begin with white space unless the format does. -/
theorem flatMap_write_begins (hlocale : locale.IsReadable) {pieces : List Piece}
    (hhead : pieces.head? ≠ some .space)
    (hliteral : ∀ c, .literal c ∈ pieces → isBlank c = false) :
    ∀ c ∈ (pieces.flatMap (Piece.write locale date time)).head?, isBlank c = false := by
  intro c hc
  cases pieces with
  | nil => cases hc
  | cons piece pieces =>
    rw [List.flatMap_cons] at hc
    cases piece with
    | literal l =>
      obtain rfl : l = c := Option.some.inj hc
      exact hliteral l List.mem_cons_self
    | space => exact absurd rfl hhead
    | directive d =>
      obtain ⟨first, more, hwrite, hblank⟩ := write_begins date time hlocale d
      rw [Piece.write, hwrite] at hc
      obtain rfl : first = c := Option.some.inj hc
      exact hblank

/-- The first way through the pieces is the one by which they were written, whatever is read
behind them. -/
theorem matchPieces?_write_append (hlocale : locale.IsReadable)
    (hyear : 1 ≤ date.year ∧ date.year ≤ 9999) {pieces : List Piece}
    (hshort : .shortYear ∈ pieces.filterMap Piece.directive? →
      1969 ≤ date.year ∧ date.year ≤ 2068)
    (hapart : pieces.IsChain fun a b => ¬ (a = .space ∧ b = .space))
    (hliteral : ∀ c, .literal c ∈ pieces → isBlank c = false) {more : List Piece}
    {rest : List Char} (hbegins : ∀ c ∈ rest.head?, isBlank c = false) {fields result : Fields}
    (hmore : matchPieces? locale more rest
      (readAll date time (pieces.filterMap Piece.directive?) fields) = some result) :
    matchPieces? locale (pieces ++ more)
      (pieces.flatMap (Piece.write locale date time) ++ rest) fields = some result := by
  induction pieces generalizing fields with
  | nil => exact hmore
  | cons piece pieces ih =>
    have hsublist := (List.sublist_cons_self piece pieces).filterMap Piece.directive?
    have hrest : ∀ {fields : Fields}, matchPieces? locale more rest
        (readAll date time (pieces.filterMap Piece.directive?) fields) = some result → _ :=
      ih (fun h => hshort (hsublist.subset h)) hapart.tail
        fun c hc => hliteral c (List.mem_cons_of_mem _ hc)
    rw [List.flatMap_cons, List.cons_append, List.append_assoc]
    cases piece with
    | literal c =>
      exact (matchPieces?_literal c _ _ fields).trans (hrest hmore)
    | space =>
      have hhead : pieces.head? ≠ some .space := fun h =>
        (List.isChain_cons.mp hapart).1 _ h ⟨rfl, rfl⟩
      have hwritten := flatMap_write_begins date time hlocale hhead
        fun c hc => hliteral c (List.mem_cons_of_mem _ hc)
      have hnext : ∀ c ∈ (pieces.flatMap (Piece.write locale date time) ++ rest).head?,
          isBlank c = false := by
        cases hcs : pieces.flatMap (Piece.write locale date time) with
        | nil => exact hbegins
        | cons c cs =>
          rw [hcs] at hwritten
          exact hwritten
      exact (matchPieces?_space _ hnext fields).trans (hrest hmore)
    | directive d =>
      refine matchPieces?_directive (segments_write date time hlocale hyear d ?_ _) ?_
      · rintro rfl
        exact hshort (by simp [Piece.directive?])
      · rw [Piece.write, List.drop_left]
        exact hrest hmore

/-- What the pieces of a format write is matched by them, and every directive reads its part. -/
theorem matchPieces?_write (hlocale : locale.IsReadable)
    (hyear : 1 ≤ date.year ∧ date.year ≤ 9999) {pieces : List Piece}
    (hshort : .shortYear ∈ pieces.filterMap Piece.directive? →
      1969 ≤ date.year ∧ date.year ≤ 2068)
    (hapart : pieces.IsChain fun a b => ¬ (a = .space ∧ b = .space))
    (hliteral : ∀ c, .literal c ∈ pieces → isBlank c = false) (fields : Fields) :
    matchPieces? locale pieces (pieces.flatMap (Piece.write locale date time)) fields =
      some (readAll date time (pieces.filterMap Piece.directive?) fields) := by
  have hend : ∀ fields, matchPieces? locale [] [] fields = some fields := fun _ => rfl
  have hnone : ∀ c ∈ ([] : List Char).head?, isBlank c = false := nofun
  have h := matchPieces?_write_append date time hlocale hyear hshort hapart hliteral hnone
    (hend (readAll date time (pieces.filterMap Piece.directive?) fields))
  rwa [List.append_nil, List.append_nil] at h

/-! ## The parts read -/

/-- A part by its slot. -/
def Fields.get (f : Fields) : Slot → Option Nat
  | .year => f.year
  | .month => f.month
  | .day => f.day
  | .hour => f.hour
  | .halfDayHour => f.halfDayHour
  | .minute => f.minute
  | .second => f.second
  | .micro => f.micro

theorem Fields.get_add_number (f : Fields) (read slot : Slot) (v : Nat) :
    (f.add (.number read v)).get slot = (f.get slot).or (if read = slot then some v else none) := by
  cases read <;> cases slot <;> first | rfl | exact (Option.or_none).symm

theorem get_add_reading (f : Fields) (d : Directive) (slot : Slot) :
    (f.add (d.reading date time)).get slot =
      (f.get slot).or (if d.slot? = some slot then some (slot.part date time) else none) := by
  unfold Directive.reading
  cases hslot : d.slot? with
  | some read =>
    rw [Fields.get_add_number]
    by_cases h : read = slot
    · rw [h, if_pos rfl, if_pos rfl]
    · have h' : ¬ some read = some slot := fun heq => h (Option.some.inj heq)
      rw [if_neg h, if_neg h']
  | none =>
    simp only [reduceCtorEq, if_false, Option.or_none]
    split
    · cases slot <;> rfl
    · rfl

/-- A part is what was read before, else what the directives state. -/
theorem get_readAll (ds : List Directive) (fields : Fields) (slot : Slot) :
    (readAll date time ds fields).get slot =
      (fields.get slot).or (if states ds slot then some (slot.part date time) else none) := by
  induction ds generalizing fields with
  | nil => exact (Option.or_none).symm
  | cons d ds ih =>
    have hstates : states (d :: ds) slot = (d.slot? == some slot || states ds slot) := rfl
    show (readAll date time ds (fields.add (d.reading date time))).get slot = _
    rw [ih, get_add_reading, Option.or_assoc, hstates]
    congr 1
    by_cases h : d.slot? = some slot
    · simp [h]
    · simp [h]

theorem afternoon_add_reading (f : Fields) (d : Directive) :
    (f.add (d.reading date time)).afternoon =
      f.afternoon.or (if d = .meridiem then some (decide (12 ≤ time.hour)) else none) := by
  cases d <;> first | rfl | exact (Option.or_none).symm

/-- The half of the day is what was read before, else what the directives state. -/
theorem afternoon_readAll (ds : List Directive) (fields : Fields) :
    (readAll date time ds fields).afternoon =
      fields.afternoon.or (if .meridiem ∈ ds then some (decide (12 ≤ time.hour)) else none) := by
  induction ds generalizing fields with
  | nil => exact (Option.or_none).symm
  | cons d ds ih =>
    show (readAll date time ds (fields.add (d.reading date time))).afternoon = _
    rw [ih, afternoon_add_reading, Option.or_assoc]
    congr 1
    by_cases h : d = .meridiem
    · simp [h]
    · simp [h, Ne.symm h]

/-- The hour that is read is the hour that the directives state. -/
theorem hourOfDay_readAll (ds : List Directive) :
    (readAll date time ds {}).hourOfDay = statedHour ds time := by
  have hhour : (readAll date time ds {}).hour =
      if states ds .hour then some time.hour else none :=
    get_readAll date time ds {} .hour
  have hclock : (readAll date time ds {}).halfDayHour =
      if states ds .halfDayHour then some time.clockHour else none :=
    get_readAll date time ds {} .halfDayHour
  have hafternoon : (readAll date time ds {}).afternoon =
      if .meridiem ∈ ds then some (decide (12 ≤ time.hour)) else none :=
    (afternoon_readAll date time ds {}).trans rfl
  rw [Fields.hourOfDay, statedHour, hhour, hclock, hafternoon]
  by_cases h₁ : states ds .hour = true
  · rw [if_pos h₁, if_pos h₁]
  · rw [if_neg h₁, if_neg h₁]
    by_cases h₂ : states ds .halfDayHour = true
    · rw [if_pos h₂, if_pos h₂]
      by_cases h₃ : .meridiem ∈ ds
      · simp [h₃]
      · simp [h₃]
    · rw [if_neg h₂, if_neg h₂]

theorem getD_readAll (ds : List Directive) (slot : Slot) (default : Nat) :
    ((readAll date time ds {}).get slot).getD default =
      if states ds slot then slot.part date time else default := by
  have hempty : Fields.get {} slot = none := by cases slot <;> rfl
  rw [get_readAll, hempty, Option.none_or]
  split <;> rfl

/-- The parts that are read make up the date and the time that the directives state. -/
theorem moment?_readAll (ds : List Directive) :
    (readAll date time ds {}).moment? =
      (statedDate? ds date).map fun date' => (date', statedTime ds time) := by
  have hdate : (readAll date time ds {}).date? = statedDate? ds date := by
    have hyear : (readAll date time ds {}).year.getD 1900 = _ := getD_readAll date time ds .year _
    have hmonth : (readAll date time ds {}).month.getD 1 = _ := getD_readAll date time ds .month _
    have hday : (readAll date time ds {}).day.getD 1 = _ := getD_readAll date time ds .day _
    rw [Fields.date?, hyear, hmonth, hday]
    rfl
  have htime : (readAll date time ds {}).time? = some (statedTime ds time) := by
    have hminute : (readAll date time ds {}).minute.getD 0 = _ :=
      getD_readAll date time ds .minute _
    have hsecond : (readAll date time ds {}).second.getD 0 = _ :=
      getD_readAll date time ds .second _
    have hmicro : (readAll date time ds {}).micro.getD 0 = _ := getD_readAll date time ds .micro _
    rw [Fields.time?, hourOfDay_readAll, hminute, hsecond, hmicro]
    exact TimeOfDay.of?_self (statedTime ds time)
  rw [Fields.moment?, hdate, htime]
  cases statedDate? ds date <;> rfl

/-- **A moment that is written in a format is read back as the format states it.** -/
theorem read?_writeFormat (hlocale : locale.IsReadable)
    (hyear : 1 ≤ date.year ∧ date.year ≤ 9999) {format : String}
    (hformat : (Piece.compile? locale format).isSome)
    (hshort : .shortYear ∈ directivesOf locale format → 1969 ≤ date.year ∧ date.year ≤ 2068) :
    read? locale format (writeFormat locale date time format) =
      (statedDate? (directivesOf locale format) date).map fun date' =>
        (date', statedTime (directivesOf locale format) time) := by
  obtain ⟨pieces, hpieces⟩ := Option.isSome_iff_exists.mp hformat
  obtain ⟨hwrite, hdirectives, hapart, hliteral⟩ := writeFormat_eq hpieces date time
  rw [hdirectives] at hshort ⊢
  rw [← moment?_readAll, read?, hpieces, hwrite, String.toList_ofList]
  simp only [Option.bind_eq_bind, Option.bind_some,
    matchPieces?_write date time hlocale hyear hshort hapart hliteral]

end Moment

/-- Names run into numbers, two years and two hours are stated, and one format hides in
another; a leap day without its year is none. -/
theorem read?_writeFormat_leap_day :
    let date : Date := ⟨2024, 2, 29, by decide, by decide⟩
    let time : TimeOfDay := ⟨23, 5, 0, 42, by decide, by decide, by decide, by decide⟩
    let format := "%A%d%B%y, %X %p%I %f %x"
    Locale.czech.IsReadable ∧ (1 ≤ date.year ∧ date.year ≤ 9999) ∧
      (Piece.compile? .czech format).isSome ∧ (Piece.compile? .czech "%d. %B").isSome ∧
      (1969 ≤ date.year ∧ date.year ≤ 2068) ∧
      writeFormat .czech date time format =
        "čtvrtek29února24, 23:05:00 odp.11 000042 29.02.2024" ∧
      read? .czech format "čtvrtek29února24, 23:05:00 odp.11 000042 29.02.2024" =
        some (date, time) ∧
      read? .czech "%d. %B" (writeFormat .czech date time "%d. %B") = none := by
  intro date time format
  have hwrite : writeFormat .czech date time format =
      "čtvrtek29února24, 23:05:00 odp.11 000042 29.02.2024" := by decide +kernel
  have hyear : 1 ≤ date.year ∧ date.year ≤ 9999 := by decide
  have hshort : 1969 ≤ date.year ∧ date.year ≤ 2068 := by decide
  have hformat : (Piece.compile? .czech format).isSome := by decide
  have hday : (Piece.compile? .czech "%d. %B").isSome := by decide
  refine ⟨Locale.isReadable_czech, hyear, hformat, hday, hshort, hwrite, ?_, ?_⟩
  · rw [← hwrite, read?_writeFormat date time Locale.isReadable_czech hyear hformat fun _ => hshort]
    decide +kernel
  · rw [read?_writeFormat date time Locale.isReadable_czech hyear hday fun _ => hshort]
    decide +kernel

end Datetime

end Almanac
