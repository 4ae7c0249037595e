import Almanac.Proofs.Datetime.FirstCut

/-!
# Matching by position, with every step checked

Here a format is matched at positions of the input, as a program on an array would do it: each
call is given a position, characters are read as slices between two positions, digits are added
up one by one, and the parts that are read are made into a date and a time. A step that would go
wrong is a fault: a position or a slice past the end of the input, a number of more than six
digits on the way, a fraction of a second of more than 999999 microseconds, parts that make up
no time of day.

No fault ever happens, and the result is that of `read?` (`checkedRead_eq`), since a call at a
position does what `matchPieces?` does on the characters from there on (`matchFrom_eq`).
-/

namespace Almanac

open Text

theorem Date.of?_eq_none_iff_not_exists {year month day : Nat} :
    Date.of? year month day = none ↔
      ¬ ∃ date : Date, date.year = year ∧ date.month = month ∧ date.day = day := by
  rw [Date.of?_eq_none_iff, not_iff_not]
  constructor
  · exact fun h => ⟨⟨year, month, day, h.1, h.2⟩, rfl, rfl, rfl⟩
  · rintro ⟨date, rfl, rfl, rfl⟩
    exact ⟨date.one_le_day, date.day_le⟩

namespace Datetime

/-! ## Checked steps -/

/-- A step of matching that goes wrong. -/
inductive Fault where
  /-- A call at a position past the end of the input. -/
  | position
  /-- A slice that does not lie inside the input. -/
  | slice
  /-- A number that gets too large while its digits are added up. -/
  | number
  /-- A fraction of a second that is a second or more. -/
  | fraction
  /-- Parts that make up no time of day. -/
  | time
  deriving Repr, DecidableEq

/-- Every number that is added up stays below this, and so well inside 32 bits. -/
def numberLimit : Nat := 10 ^ 6

/-- The characters between two positions. -/
def slice (input : List Char) (start stop : Nat) : Except Fault (List Char) :=
  if start ≤ stop ∧ stop ≤ input.length then .ok ((input.take stop).drop start)
  else .error .slice

/-- A number with more digits added behind it, one by one. -/
def addDigits : Nat → List Char → Except Fault Nat
  | number, [] => .ok number
  | number, d :: ds =>
    let longer := number * 10 + asciiDigitValue d
    if longer < numberLimit then addDigits longer ds else .error .number

/-- What a number of so many digits stands for. -/
def Numeral.checkedReading (n : Numeral) (width value : Nat) : Except Fault Reading :=
  if n.slot = .micro ∧ 999999 < n.meaning width value then .error .fraction
  else .ok (.number n.slot (n.meaning width value))

/-- The first result of several attempts, which are made in order until one has a result. -/
def firstResult {α β : Type} (attempt : α → Except Fault (Option β)) :
    List α → Except Fault (Option β)
  | [] => .ok none
  | a :: rest => do
    match ← attempt a with
    | some result => return some result
    | none => firstResult attempt rest

/-- Matches pieces with the input from a position on. -/
def matchFrom (locale : Locale) (input : List Char) (pieces : List Piece) (pos : Nat)
    (fields : Fields) : Except Fault (Option Fields) :=
  if input.length < pos then .error .position
  else
    match pieces with
    | [] => .ok (if pos = input.length then some fields else none)
    | .space :: rest => do
      let behind ← slice input pos input.length
      let blanks := (behind.takeWhile isBlank).length
      if blanks = 0 then return none else matchFrom locale input rest (pos + blanks) fields
    | .literal expected :: rest =>
      match input[pos]? with
      | none => .ok none
      | some found =>
        if sameLetter found expected then matchFrom locale input rest (pos + 1) fields
        else .ok none
    | .directive d :: rest => do
      let behind ← slice input pos input.length
      match d.numeral? with
      | some n =>
        firstResult (fun width => do
          let ds ← slice input pos (pos + width)
          let value ← addDigits 0 ds
          if n.low ≤ value && value ≤ n.high then
            let reading ← n.checkedReading width value
            matchFrom locale input rest (pos + width) (fields.add reading)
          else return none) (n.widths behind)
      | none =>
        firstResult (fun (name, i) =>
          let letters := name.toList
          if !letters.isEmpty && beginsName letters behind then
            matchFrom locale input rest (pos + letters.length) (fields.add (d.meaning i))
          else .ok none) (d.names locale).zipIdx

/-- The date and time that parts make up, if there is such a day. -/
def checkedMoment (fields : Fields) : Except Fault (Option (Date × TimeOfDay)) :=
  match fields.date?, fields.time? with
  | none, _ => .ok none
  | some _, none => .error .time
  | some date, some time => .ok (some (date, time))

/-- The date and time that a text states in a format, by position. -/
def checkedRead (locale : Locale) (format input : String) :
    Except Fault (Option (Date × TimeOfDay)) :=
  match Piece.compile? locale format with
  | none => .ok none
  | some pieces => do
    match ← matchFrom locale input.toList pieces 0 {} with
    | none => return none
    | some fields => checkedMoment fields

/-! ## No step goes wrong -/

section Steps

variable {input : List Char} {pos width : Nat}

theorem slice_end (h : pos ≤ input.length) :
    slice input pos input.length = .ok (input.drop pos) := by
  rw [slice, if_pos ⟨h, Nat.le_refl _⟩, List.take_length]

theorem slice_width (h : pos + width ≤ input.length) :
    slice input pos (pos + width) = .ok ((input.drop pos).take width) := by
  rw [slice, if_pos ⟨Nat.le_add_right _ _, h⟩, List.drop_take, Nat.add_sub_cancel_left]

/-- A number gets larger with every digit, so that all is well if it is small in the end. -/
theorem addDigits_eq (ds : List Char) {number : Nat}
    (h : ds.foldl (fun acc c => acc * 10 + asciiDigitValue c) number < numberLimit) :
    addDigits number ds = .ok (ds.foldl (fun acc c => acc * 10 + asciiDigitValue c) number) := by
  have hgrows : ∀ (ds : List Char) (number : Nat),
      number ≤ ds.foldl (fun acc c => acc * 10 + asciiDigitValue c) number := by
    intro ds
    induction ds with
    | nil => exact fun number => Nat.le_refl number
    | cons d ds ih =>
      intro number
      have hlonger := ih (number * 10 + asciiDigitValue d)
      rw [List.foldl_cons]
      omega
  induction ds generalizing number with
  | nil => rfl
  | cons d ds ih =>
    rw [List.foldl_cons] at h ⊢
    rw [addDigits, if_pos (Nat.lt_of_le_of_lt (hgrows ds _) h), ih h]

theorem most_le_of_numeral? {d : Directive} {n : Numeral} (h : d.numeral? = some n) :
    n.most ≤ 6 := by
  cases d <;> cases h <;> decide

theorem addDigits_value {ds : List Char} (hdigits : ∀ c ∈ ds, isAsciiDigit c = true)
    (hlength : ds.length ≤ 6) : addDigits 0 ds = .ok (Number.value ds) := by
  have hlt : Number.value ds < numberLimit :=
    (Number.value_lt hdigits).trans_le (Nat.pow_le_pow_right (by decide) hlength)
  exact addDigits_eq ds hlt

theorem checkedReading_eq {d : Directive} {n : Numeral} (h : d.numeral? = some n)
    {ds : List Char} (hdigits : ∀ c ∈ ds, isAsciiDigit c = true) (hlength : ds.length ≤ 6) :
    n.checkedReading ds.length (Number.value ds) =
      .ok (.number n.slot (n.meaning ds.length (Number.value ds))) := by
  refine if_neg fun hfraction => ?_
  cases d with
  | fraction =>
    cases h
    exact absurd (microseconds_le hdigits hlength) (Nat.not_le.mpr hfraction.2)
  | _ => cases h <;> cases hfraction.1

theorem ok_bind {α β : Type} (a : α) (f : α → Except Fault β) : (Except.ok a >>= f) = f a := rfl

/-- Attempts that all go well find what the choices among them lead to first. -/
theorem firstResult_eq {α β γ : Type} {attempt : α → Except Fault (Option β)}
    {choice? : α → Option γ} {result? : γ → Option β} {choices : List α}
    (h : ∀ a ∈ choices, attempt a = .ok ((choice? a).bind result?)) :
    firstResult attempt choices = .ok ((choices.filterMap choice?).findSome? result?) := by
  induction choices with
  | nil => rfl
  | cons a rest ih =>
    obtain ⟨ha, hrest⟩ := List.forall_mem_cons.mp h
    rw [firstResult, ha, ok_bind, List.filterMap_cons]
    cases choice? a with
    | none => exact ih hrest
    | some c =>
      rw [Option.bind_some, List.findSome?_cons]
      cases result? c with
      | none => exact ih hrest
      | some result => rfl

end Steps

section Matching

variable {locale : Locale} {input : List Char}

/-- **A call at a position inside the input matches the characters from there on**, and every
call that it makes is at a position inside the input too. -/
theorem matchFrom_eq (pieces : List Piece) {pos : Nat} (hpos : pos ≤ input.length)
    (fields : Fields) :
    matchFrom locale input pieces pos fields =
      .ok (matchPieces? locale pieces (input.drop pos) fields) := by
  have hlength : (input.drop pos).length = input.length - pos := List.length_drop
  induction pieces generalizing pos fields with
  | nil =>
    have hend : pos = input.length ↔ (input.drop pos).isEmpty = true := by
      rw [List.isEmpty_iff_length_eq_zero]
      omega
    rw [matchFrom, if_neg (Nat.not_lt.mpr hpos), matchPieces?]
    simp only [hend]
  | cons piece rest ih =>
    -- what a piece takes of the characters behind a position does not lead past the end
    have hnext : ∀ {width : Nat} (fields : Fields), width ≤ (input.drop pos).length →
        matchFrom locale input rest (pos + width) fields =
          .ok (matchPieces? locale rest ((input.drop pos).drop width) fields) := by
      intro width fields hwidth
      rw [ih (by omega) fields List.length_drop, List.drop_drop]
    rw [matchFrom.eq_def, if_neg (Nat.not_lt.mpr hpos)]
    cases piece with
    | space =>
      have hwidth : ((input.drop pos).takeWhile isBlank).length ≤ (input.drop pos).length :=
        (List.takeWhile_prefix isBlank).length_le
      dsimp only
      rw [slice_end hpos, ok_bind, hnext fields hwidth, drop_length_takeWhile, matchPieces?]
      simp only [List.length_eq_zero_iff, List.isEmpty_iff]
      split <;> rfl
    | literal l =>
      dsimp only
      rw [← List.head?_drop]
      cases hbehind : input.drop pos with
      | nil => rfl
      | cons found behind =>
        have hwidth : 1 ≤ (input.drop pos).length := by simp [hbehind]
        have hrest := hnext fields hwidth
        rw [hbehind, List.drop_succ_cons, List.drop_zero] at hrest
        rw [List.head?_cons, matchPieces?]
        dsimp only
        rw [hrest]
        split <;> rfl
    | directive d =>
      dsimp only
      rw [slice_end hpos, ok_bind, matchPieces?]
      cases hd : d.numeral? with
      | some n =>
        rw [Directive.segments_of_numeral? hd]
        refine firstResult_eq fun width hwidth => ?_
        obtain ⟨⟨-, hmost⟩, hinside, hdigits⟩ := Numeral.mem_widths.mp hwidth
        have htake : ((input.drop pos).take width).length = width := List.length_take_of_le hinside
        have hsix : ((input.drop pos).take width).length ≤ 6 :=
          htake.le.trans (hmost.trans (most_le_of_numeral? hd))
        have hreading := checkedReading_eq hd hdigits hsix
        rw [htake] at hreading
        dsimp only
        rw [slice_width (by omega), ok_bind, addDigits_value hdigits hsix, ok_bind, hreading,
          ok_bind, hnext _ hinside]
        split <;> rfl
      | none =>
        rw [Directive.segments_of_names hd]
        refine firstResult_eq ?_
        rintro ⟨name, i⟩ -
        dsimp only
        split
        · next hbegins =>
          rw [Bool.and_eq_true] at hbegins
          exact hnext _ (length_le_of_beginsName hbegins.2)
        · rfl

end Matching

/-! ## Texts -/

/-- The parts that are read off a text make up a time. -/
theorem exists_time_of_matchPieces? {locale : Locale} {pieces : List Piece} {input : List Char}
    {fields : Fields} (h : matchPieces? locale pieces input {} = some fields) :
    ∃ time, fields.time? = some time := by
  obtain ⟨cut, hfirst, rfl⟩ := matchPieces?_eq_some_iff.mp h
  rw [Fields.foldl_add]
  exact exists_time hfirst.1.1.1

theorem time_bounds {fields : Fields} {time : TimeOfDay} (h : fields.time? = some time) :
    fields.hourOfDay < 24 ∧ fields.minute.getD 0 < 60 ∧ fields.second.getD 0 < 60 ∧
      fields.micro.getD 0 < 1000000 := by
  rw [Fields.time?, TimeOfDay.of?] at h
  split at h
  · next hbounds => exact hbounds
  · cases h

/-- **Reading is safe**: no step of reading a text by position goes wrong, whatever the locale, the
format and the text, and what is read is what `read?` reads. Nothing is read of a text that matches
exactly when its parts are no day of the calendar. -/
theorem checkedRead_eq (locale : Locale) (format input : String) :
    checkedRead locale format input = .ok (read? locale format input) ∧
      ∀ pieces fields, Piece.compile? locale format = some pieces →
        matchPieces? locale pieces input.toList {} = some fields →
        (fields.hourOfDay < 24 ∧ fields.minute.getD 0 < 60 ∧ fields.second.getD 0 < 60 ∧
          fields.micro.getD 0 < 1000000) ∧
        (read? locale format input = none ↔
          ¬ ∃ date : Date, date.year = fields.year.getD 1900 ∧
            date.month = fields.month.getD 1 ∧ date.day = fields.day.getD 1) := by
  have hread : ∀ pieces, Piece.compile? locale format = some pieces →
      read? locale format input =
        (matchPieces? locale pieces input.toList {}).bind Fields.moment? := by
    intro pieces hcompile
    rw [read?, hcompile]
    rfl
  constructor
  · rw [checkedRead]
    cases hcompile : Piece.compile? locale format with
    | none =>
      rw [read?, hcompile]
      rfl
    | some pieces =>
      dsimp only
      rw [matchFrom_eq pieces (Nat.zero_le _), ok_bind, List.drop_zero, hread pieces hcompile]
      cases hmatch : matchPieces? locale pieces input.toList {} with
      | none => rfl
      | some fields =>
        obtain ⟨time, htime⟩ := exists_time_of_matchPieces? hmatch
        rw [Option.bind_some, Fields.moment?]
        dsimp only
        rw [checkedMoment, htime]
        cases fields.date? <;> rfl
  · intro pieces fields hcompile hmatch
    obtain ⟨time, htime⟩ := exists_time_of_matchPieces? hmatch
    refine ⟨time_bounds htime, ?_⟩
    rw [hread pieces hcompile, hmatch, Option.bind_some, ← Date.of?_eq_none_iff_not_exists,
      Fields.moment?, htime, ← Fields.date?]
    cases fields.date? <;> simp

/-- An hour of twelve in the morning is midnight, and the day before the first of March is one
only in a leap year. -/
theorem checkedRead_eq_leap_day :
    let format := "%I:%M:%S.%f %p %d.%m.%Y"
    let pieces : List Piece :=
      [.directive .halfDayHour, .literal ':', .directive .minute, .literal ':',
        .directive .second, .literal '.', .directive .fraction, .space, .directive .meridiem,
        .space, .directive .day, .literal '.', .directive .month, .literal '.', .directive .year]
    let fields : Fields :=
      { halfDayHour := some 12, minute := some 59, second := some 59, micro := some 999999,
        afternoon := some false, day := some 29, month := some 2, year := some 2023 }
    Piece.compile? .english format = some pieces ∧
      matchPieces? .english pieces "12:59:59.999999 am 29.2.2023".toList {} = some fields ∧
      checkedRead .english format "12:59:59.999999 am 29.2.2023" =
        .ok (read? .english format "12:59:59.999999 am 29.2.2023") ∧
      fields.hourOfDay < 24 ∧
      (read? .english format "12:59:59.999999 am 29.2.2023" = none ↔
        ¬ ∃ date : Date, date.year = 2023 ∧ date.month = 2 ∧ date.day = 29) := by
  intro format pieces fields
  have hcompile : Piece.compile? .english format = some pieces := by decide
  have hmatch : matchPieces? .english pieces "12:59:59.999999 am 29.2.2023".toList {} =
      some fields := by decide +kernel
  obtain ⟨hchecked, hparts⟩ := checkedRead_eq .english format "12:59:59.999999 am 29.2.2023"
  obtain ⟨htime, hdate⟩ := hparts pieces fields hcompile hmatch
  exact ⟨hcompile, hmatch, hchecked, htime.1, hdate⟩

end Datetime

end Almanac
