import Almanac.Proofs.Datetime.Cuts
import Almanac.Proofs.Text.Characters

/-!
# Reading off the first cut

Where no name begins with white space, a space cannot leave white space behind for the next
piece, so that every cut of a text into segments takes its spaces whole
(`isWholeCut_iff_isCut`). Matching then succeeds exactly when there is a cut at all, and reads
the first one: each part has the value that is read first (`foldl_add`). These parts always
make up a time (`exists_time`), and a text states a moment exactly when they make up a date
as well (`read?_of_first_cut`).
-/

namespace Almanac

open Text

theorem Number.value_lt {ds : List Char} (h : ∀ c ∈ ds, isAsciiDigit c = true) :
    Number.value ds < 10 ^ ds.length := by
  induction ds using List.reverseRecOn with
  | nil => decide
  | append_singleton ds c ih =>
    rw [List.forall_mem_append, List.forall_mem_singleton] at h
    have hlt := ih h.1
    have hdigit := (digitChar_asciiDigitValue h.2).2
    rw [value_append_singleton, List.length_append, List.length_singleton, Nat.pow_succ]
    omega

/-- Whether no name of a language begins with white space. -/
def Locale.IsUnspaced (locale : Locale) : Prop :=
  ∀ name ∈ locale.months ++ locale.shortMonths ++ locale.weekdays ++ locale.shortWeekdays ++
    locale.meridiem, name.toList.head?.all (!isBlank ·) = true

instance (locale : Locale) : Decidable locale.IsUnspaced := List.decidableBAll _ _

namespace Datetime

/-! ## The first value of every part -/

/-- The number that a reading has for a part. -/
def Reading.number? (slot : Slot) : Reading → Option Nat
  | .number read value => if read = slot then some value else none
  | _ => none

/-- The half of the day that a reading states. -/
def Reading.afternoon? : Reading → Option Bool
  | .meridiem afternoon => some afternoon
  | _ => none

/-- The parts by the readings, each with the first value that it has among them. -/
def Fields.ofReadings (rs : List Reading) : Fields where
  year := rs.findSome? (Reading.number? .year)
  month := rs.findSome? (Reading.number? .month)
  day := rs.findSome? (Reading.number? .day)
  hour := rs.findSome? (Reading.number? .hour)
  halfDayHour := rs.findSome? (Reading.number? .halfDayHour)
  minute := rs.findSome? (Reading.number? .minute)
  second := rs.findSome? (Reading.number? .second)
  micro := rs.findSome? (Reading.number? .micro)
  afternoon := rs.findSome? Reading.afternoon?

theorem Fields.get_ofReadings (rs : List Reading) (slot : Slot) :
    (Fields.ofReadings rs).get slot = rs.findSome? (Reading.number? slot) := by
  cases slot <;> rfl

theorem Fields.ext_get {f g : Fields} (h : ∀ slot, f.get slot = g.get slot)
    (hafternoon : f.afternoon = g.afternoon) : f = g := by
  have hyear : f.year = g.year := h .year
  have hmonth : f.month = g.month := h .month
  have hday : f.day = g.day := h .day
  have hhour : f.hour = g.hour := h .hour
  have hhalf : f.halfDayHour = g.halfDayHour := h .halfDayHour
  have hminute : f.minute = g.minute := h .minute
  have hsecond : f.second = g.second := h .second
  have hmicro : f.micro = g.micro := h .micro
  cases f
  cases g
  simp_all

theorem Fields.get_add (f : Fields) (r : Reading) (slot : Slot) :
    (f.add r).get slot = (f.get slot).or (r.number? slot) := by
  cases r with
  | number read value => exact f.get_add_number read slot value
  | meridiem afternoon => cases slot <;> exact Option.or_none.symm
  | ignored => exact Option.or_none.symm

theorem Fields.afternoon_add (f : Fields) (r : Reading) :
    (f.add r).afternoon = f.afternoon.or r.afternoon? := by
  cases r with
  | number read value => cases read <;> exact Option.or_none.symm
  | meridiem afternoon => rfl
  | ignored => exact Option.or_none.symm

/-- A part that is read again keeps its first value. -/
theorem Fields.foldl_add (rs : List Reading) : rs.foldl Fields.add {} = Fields.ofReadings rs := by
  have hget : ∀ (rs : List Reading) (f : Fields) (slot : Slot),
      (rs.foldl Fields.add f).get slot =
        (f.get slot).or (rs.findSome? (Reading.number? slot)) := by
    intro rs
    induction rs with
    | nil => exact fun f slot => Option.or_none.symm
    | cons r rs ih =>
      intro f slot
      rw [List.foldl_cons, ih, Fields.get_add, Option.or_assoc, List.findSome?_cons]
      cases r.number? slot <;> simp
  have hafternoon : ∀ (rs : List Reading) (f : Fields),
      (rs.foldl Fields.add f).afternoon = f.afternoon.or (rs.findSome? Reading.afternoon?) := by
    intro rs
    induction rs with
    | nil => exact fun f => Option.or_none.symm
    | cons r rs ih =>
      intro f
      rw [List.foldl_cons, ih, Fields.afternoon_add, Option.or_assoc, List.findSome?_cons]
      cases r.afternoon? <;> simp
  refine Fields.ext_get (fun slot => ?_) ?_
  · rw [hget, Fields.get_ofReadings]
    cases slot <;> exact Option.none_or
  · rw [hafternoon]
    exact Option.none_or

/-- The parts that the pieces read off a cut. -/
def partsOf (pieces : List Piece) (cut : List Segment) : Fields :=
  Fields.ofReadings (readings pieces cut)

/-! ## Values in their ranges -/

section Ranges

variable {locale : Locale} {pieces : List Piece} {cut : List Segment}

theorem exists_of_mem_readings (h : List.Forall₂ (Piece.Takes locale) pieces cut) {r : Reading}
    (hr : r ∈ readings pieces cut) :
    ∃ piece ∈ pieces, ∃ s, piece.Takes locale s ∧ r = piece.reading s := by
  induction h with
  | nil => cases hr
  | @cons piece s pieces cut hs _ ih =>
    rcases List.mem_cons.mp hr with rfl | hr
    · exact ⟨piece, List.mem_cons_self, s, hs, rfl⟩
    · obtain ⟨piece, hpiece, s, hs, rfl⟩ := ih hr
      exact ⟨piece, List.mem_cons_of_mem _ hpiece, s, hs, rfl⟩

/-- A part that is read has been read off the segment of one of the pieces. -/
theorem exists_of_get_partsOf (h : List.Forall₂ (Piece.Takes locale) pieces cut) {slot : Slot}
    {value : Nat} (hvalue : (partsOf pieces cut).get slot = some value) :
    ∃ d, .directive d ∈ pieces ∧ ∃ s, (Piece.directive d).Takes locale s ∧
      (Piece.directive d).reading s = .number slot value := by
  rw [partsOf, Fields.get_ofReadings] at hvalue
  obtain ⟨r, hr, hnumber⟩ := List.exists_of_findSome?_eq_some hvalue
  obtain ⟨piece, hpiece, s, hs, rfl⟩ := exists_of_mem_readings h hr
  cases piece with
  | directive d =>
    refine ⟨d, hpiece, s, hs, ?_⟩
    cases hread : (Piece.directive d).reading s with
    | number read v =>
      rw [hread, Reading.number?] at hnumber
      split at hnumber
      · next heq => rw [heq, Option.some.inj hnumber]
      · cases hnumber
    | meridiem _ | ignored => rw [hread] at hnumber; cases hnumber
  | literal _ | space => cases hnumber

/-- The least value of a part that is read as a number. -/
def Slot.least : Slot → Nat
  | .year | .month | .day | .halfDayHour => 1
  | .hour | .minute | .second | .micro => 0

/-- The greatest value of a part that is read as a number. -/
def Slot.greatest : Slot → Nat
  | .year => 9999
  | .month => 12
  | .day => 31
  | .hour => 23
  | .halfDayHour => 12
  | .minute => 59
  | .second => 59
  | .micro => 999999

theorem microseconds_le {ds : List Char} (hdigits : ∀ c ∈ ds, isAsciiDigit c = true)
    (hlength : ds.length ≤ 6) : microseconds ds.length (Number.value ds) ≤ 999999 := by
  have hlt : Number.value ds * 10 ^ (6 - ds.length) < 10 ^ ds.length * 10 ^ (6 - ds.length) :=
    Nat.mul_lt_mul_of_pos_right (Number.value_lt hdigits) (Nat.pow_pos (by decide))
  rw [← Nat.pow_add, Nat.add_sub_cancel' hlength] at hlt
  exact Nat.le_of_lt_succ hlt

/-- A number that is read is a value of its part, where a month that is read by its name needs
a locale that has no more than twelve of them. -/
theorem bounds_of_takes {d : Directive} {s : Segment} {slot : Slot} {value : Nat}
    (h : (Piece.directive d).Takes locale s)
    (hread : (Piece.directive d).reading s = .number slot value)
    (hmonths : slot = .month → locale.months.length ≤ 12 ∧ locale.shortMonths.length ≤ 12) :
    slot.least ≤ value ∧ value ≤ slot.greatest := by
  cases h with
  | number hn hdigits hlength hrange =>
    simp only [Piece.reading, hn] at hread
    cases d with
    | shortYear =>
      cases hn
      cases hread
      exact fullYear_bounds hrange.2
    | fraction =>
      cases hn
      cases hread
      exact ⟨Nat.zero_le _, microseconds_le hdigits hlength.2⟩
    | day | month | year | hour | halfDayHour | minute | second =>
      cases hn
      cases hread
      exact hrange
    | _ => cases hn
  | @name _ i name _ hn hname _ _ =>
    simp only [Piece.reading, hn] at hread
    have hi := (List.getElem?_eq_some_iff.mp hname).1
    cases d with
    | monthName =>
      cases hread
      exact ⟨Nat.le_add_left 1 i, Nat.le_trans hi (hmonths rfl).1⟩
    | shortMonthName =>
      cases hread
      exact ⟨Nat.le_add_left 1 i, Nat.le_trans hi (hmonths rfl).2⟩
    | meridiem | weekdayName | shortWeekdayName => cases hread
    | _ => cases hn

theorem bounds_of_get_partsOf (h : List.Forall₂ (Piece.Takes locale) pieces cut) {slot : Slot}
    (hmonths : slot = .month → locale.months.length ≤ 12 ∧ locale.shortMonths.length ≤ 12)
    {value : Nat} (hvalue : (partsOf pieces cut).get slot = some value) :
    slot.least ≤ value ∧ value ≤ slot.greatest := by
  obtain ⟨d, -, s, hs, hread⟩ := exists_of_get_partsOf h hvalue
  exact bounds_of_takes hs hread hmonths

/-- The parts that are read off a cut make up a time. -/
theorem exists_time (h : List.Forall₂ (Piece.Takes locale) pieces cut) :
    ∃ time, (partsOf pieces cut).time? = some time := by
  have hle : ∀ slot value, slot ≠ .month → (partsOf pieces cut).get slot = some value →
      value ≤ slot.greatest := fun slot value hslot hvalue =>
    (bounds_of_get_partsOf h (fun heq => absurd heq hslot) hvalue).2
  have hpart : ∀ slot, slot ≠ .month → ((partsOf pieces cut).get slot).getD 0 ≤ slot.greatest := by
    intro slot hslot
    cases hvalue : (partsOf pieces cut).get slot with
    | none => exact Nat.zero_le _
    | some value => exact hle slot value hslot hvalue
  have hhour : (partsOf pieces cut).hourOfDay < 24 := by
    rw [Fields.hourOfDay]
    cases hhour : (partsOf pieces cut).hour with
    | some hour => exact Nat.lt_succ_of_le (hle .hour hour (by simp) hhour)
    | none =>
      cases (partsOf pieces cut).halfDayHour with
      | some hour =>
        dsimp only
        split <;> omega
      | none => exact Nat.zero_lt_succ _
  have hminute : (partsOf pieces cut).minute.getD 0 ≤ 59 := hpart .minute (by simp)
  have hsecond : (partsOf pieces cut).second.getD 0 ≤ 59 := hpart .second (by simp)
  have hmicro : (partsOf pieces cut).micro.getD 0 ≤ 999999 := hpart .micro (by simp)
  rw [Fields.time?, TimeOfDay.of?, dif_pos ⟨hhour, by omega, by omega, by omega⟩]
  exact ⟨_, rfl⟩

end Ranges

/-! ## Whole spaces -/

section Whole

variable {locale : Locale} {pieces : List Piece} {input : List Char} {cut : List Segment}

theorem Directive.mem_of_mem_names {d : Directive} {name : String} (h : name ∈ d.names locale) :
    name ∈ locale.months ++ locale.shortMonths ++ locale.weekdays ++ locale.shortWeekdays ++
      locale.meridiem := by
  simp only [List.mem_append]
  cases d <;> simp_all [Directive.names]

/-- The characters that a segment of a piece can begin with. -/
inductive Piece.Begins (locale : Locale) : Piece → Char → Prop
  | space {c : Char} : isBlank c = true → Begins locale .space c
  | literal {l c : Char} : lower c = lower l → Begins locale (.literal l) c
  | number {d : Directive} {c : Char} : d.numeral?.isSome → isAsciiDigit c = true →
      Begins locale (.directive d) c
  | name {d : Directive} {name : String} {n c : Char} : name ∈ d.names locale →
      name.toList.head? = some n → lower c = lower n → Begins locale (.directive d) c

/-- No segment is empty. -/
theorem Piece.Takes.begins {piece : Piece} {s : Segment} (h : piece.Takes locale s) :
    ∃ c cs, s.text = c :: cs ∧ piece.Begins locale c := by
  cases h with
  | @space cs hne hblank =>
    obtain ⟨c, cs, rfl⟩ := List.exists_cons_of_ne_nil hne
    exact ⟨c, cs, rfl, .space (hblank c List.mem_cons_self)⟩
  | @literal l c hlower => exact ⟨c, [], rfl, .literal hlower⟩
  | @number d n ds hn hdigits hlength _ =>
    have hne : ds ≠ [] := by
      rintro rfl
      cases d <;> cases hn <;> exact absurd hlength.1 (by decide)
    obtain ⟨c, cs, rfl⟩ := List.exists_cons_of_ne_nil hne
    exact ⟨c, cs, rfl, .number (by rw [hn]; rfl) (hdigits c List.mem_cons_self)⟩
  | @name d i name cs _ hname hne hlower =>
    obtain ⟨n, ns, hns⟩ := List.exists_cons_of_ne_nil hne
    rw [hns] at hlower
    cases cs with
    | nil => cases hlower
    | cons c cs =>
      rw [List.map_cons, List.map_cons, List.cons_eq_cons] at hlower
      exact ⟨c, cs, rfl, .name (List.mem_of_getElem? hname) (by rw [hns]; rfl) hlower.1⟩

/-- The segments of a number are digits. -/
theorem Piece.Takes.digits {d : Directive} {n : Numeral} {s : Segment}
    (h : Piece.Takes locale (.directive d) s) (hn : d.numeral? = some n) :
    (∀ c ∈ s.text, isAsciiDigit c = true) ∧ n.least ≤ s.text.length ∧ s.text.length ≤ n.most := by
  cases h with
  | number hn' hdigits hlength _ =>
    obtain rfl := Option.some.inj (hn.symm.trans hn')
    exact ⟨hdigits, hlength⟩
  | name hn' _ _ _ => exact absurd (hn.symm.trans hn') (by simp)

theorem Piece.Takes.eq_singleton {l : Char} {s : Segment}
    (h : Piece.Takes locale (.literal l) s) (hl : StandsAlone l) : s.text = [l] := by
  cases h with
  | literal hlower => rw [hl.eq_of_lower_eq hlower]

/-- A piece other than a space does not begin with white space. -/
theorem Piece.Begins.not_isBlank {piece : Piece} {c : Char} (h : piece.Begins locale c)
    (hlocale : locale.IsUnspaced) (hspace : piece ≠ .space)
    (hliteral : ∀ l, piece = .literal l → isBlank l = false) : isBlank c = false := by
  cases h with
  | space => exact absurd rfl hspace
  | literal hlower => exact (isBlank_eq_of_lower_eq hlower).trans (hliteral _ rfl)
  | number _ hdigit => exact not_isBlank_of_isAsciiDigit hdigit
  | name hname hhead hlower =>
    have hbegins := hlocale _ (Directive.mem_of_mem_names hname)
    rw [hhead] at hbegins
    exact (isBlank_eq_of_lower_eq hlower).trans (by simpa using hbegins)

/-- Where no name begins with white space, every cut takes its spaces whole. -/
theorem spacesAreWhole_of_forall₂ (hlocale : locale.IsUnspaced)
    (hapart : pieces.IsChain fun a b => ¬ (a = .space ∧ b = .space))
    (hliteral : ∀ c, .literal c ∈ pieces → isBlank c = false)
    (h : List.Forall₂ (Piece.Takes locale) pieces cut) : SpacesAreWhole pieces cut := by
  induction h with
  | nil => trivial
  | @cons piece s pieces cut _ hrest ih =>
    refine spacesAreWhole_cons_iff.mpr
      ⟨?_, ih hapart.tail fun c hc => hliteral c (List.mem_cons_of_mem _ hc)⟩
    rintro rfl c hc
    cases hrest with
    | nil => cases hc
    | @cons next t pieces cut ht _ =>
      have hnext : next ≠ .space := fun h => (List.isChain_cons_cons.mp hapart).1 ⟨rfl, h⟩
      obtain ⟨d, ds, htext, hd⟩ := ht.begins
      rw [List.flatMap_cons, htext] at hc
      obtain rfl := Option.some.inj hc
      exact hd.not_isBlank hlocale hnext fun l hl => hliteral l (hl ▸ by simp)

theorem isWholeCut_iff_isCut (hlocale : locale.IsUnspaced) {format : String}
    (hcompile : Piece.compile? locale format = some pieces) :
    IsWholeCut locale pieces input cut ↔ IsCut locale pieces input cut := by
  obtain ⟨spelled, hspelled, rfl⟩ := Option.map_eq_some_iff.mp hcompile
  refine ⟨And.left, fun h => ⟨h, spacesAreWhole_of_forall₂ hlocale (Piece.isChain_mergeSpaces _)
    (fun c hc => ?_) h.1⟩⟩
  exact (Piece.spells_expand hspelled).not_isBlank_of_literal (Piece.mem_of_mem_mergeSpaces hc)

end Whole

/-! ## Texts -/

section Texts

variable {locale : Locale} {format : String} {pieces : List Piece}

/-- A text states what its first cut does. -/
theorem read?_of_isFirst (hcompile : Piece.compile? locale format = some pieces) {input : String}
    {cut : List Segment} (h : IsFirst (IsWholeCut locale pieces input.toList) cut) :
    read? locale format input = (partsOf pieces cut).moment? := by
  have hmatch : matchPieces? locale pieces input.toList {} = some (partsOf pieces cut) :=
    matchPieces?_eq_some_iff.mpr ⟨cut, h, (Fields.foldl_add _).symm⟩
  rw [read?, hcompile]
  simp only [Option.bind_eq_bind, Option.bind_some, hmatch]

theorem read?_eq_none (hcompile : Piece.compile? locale format = some pieces) {input : String}
    (h : ∀ cut, ¬ IsWholeCut locale pieces input.toList cut) :
    read? locale format input = none := by
  have hmatch : matchPieces? locale pieces input.toList {} = none := matchPieces?_eq_none_iff.mpr h
  rw [read?, hcompile]
  simp only [Option.bind_eq_bind, Option.bind_some, hmatch, Option.bind_none]

/-- A cut makes up a moment exactly when it makes up a date. -/
theorem exists_moment?_eq {input : List Char} {cut : List Segment}
    (h : IsCut locale pieces input cut) :
    ∃ time, (partsOf pieces cut).time? = some time ∧
      (partsOf pieces cut).moment? = (partsOf pieces cut).date?.map fun date => (date, time) := by
  obtain ⟨time, htime⟩ := exists_time h.1
  refine ⟨time, htime, ?_⟩
  rw [Fields.moment?, htime]
  cases (partsOf pieces cut).date? <;> rfl

/-- **Matching finds the first cut.** Where no name begins with white space, a format matches a text
exactly when the text can be cut into segments for it, and what is stated is what the first values
of the first cut make up, nothing if that is no date. -/
theorem read?_of_first_cut (hlocale : locale.IsUnspaced)
    (hcompile : Piece.compile? locale format = some pieces) (input : String) :
    ((matchPieces? locale pieces input.toList {}).isSome ↔
      ∃ cut, IsCut locale pieces input.toList cut) ∧
    (∀ parts, matchPieces? locale pieces input.toList {} = some parts ↔
      ∃ cut, IsFirst (IsCut locale pieces input.toList) cut ∧ parts = partsOf pieces cut) ∧
    (∀ cut, IsFirst (IsCut locale pieces input.toList) cut →
      ∃ time, (partsOf pieces cut).time? = some time ∧
        read? locale format input = (partsOf pieces cut).date?.map fun date => (date, time)) ∧
    ((∀ cut, ¬ IsCut locale pieces input.toList cut) → read? locale format input = none) := by
  have hwhole : IsWholeCut locale pieces input.toList = IsCut locale pieces input.toList :=
    funext fun cut => propext (isWholeCut_iff_isCut hlocale hcompile)
  refine ⟨?_, fun parts => ?_, fun cut hcut => ?_, fun h => ?_⟩
  · rw [← Option.ne_none_iff_isSome, Ne, matchPieces?_eq_none_iff, hwhole, not_forall_not]
  · rw [matchPieces?_eq_some_iff, hwhole]
    simp only [partsOf, Fields.foldl_add]
  · obtain ⟨time, htime, hmoment⟩ := exists_moment?_eq hcut.1
    exact ⟨time, htime, (read?_of_isFirst hcompile (hwhole ▸ hcut)).trans hmoment⟩
  · exact read?_eq_none hcompile (hwhole ▸ h)

/-- A day of one digit before a month of two would do as well, but more digits come first; of
the names that fit the earliest comes first, in any case. -/
theorem read?_of_first_cut_adjacent :
    let locale : Locale := { Locale.english with weekdays := ["Friday", "Fri", "F", "r", "i", "Z"] }
    let pieces : List Piece :=
      [.directive .day, .directive .month, .space, .directive .weekdayName, .directive .hour]
    let parts : Fields := { day := some 11, month := some 1, hour := some 7 }
    locale.IsUnspaced ∧ Piece.compile? locale "%d%m %A%H" = some pieces ∧
      ∃ cut, IsFirst (IsCut locale pieces "111  fRI07".toList) cut ∧ parts = partsOf pieces cut ∧
        ∃ time, parts.time? = some time ∧
          read? locale "%d%m %A%H" "111  fRI07" = parts.date?.map fun date => (date, time) := by
  intro locale pieces parts
  have hlocale : locale.IsUnspaced := by decide
  have hcompile : Piece.compile? locale "%d%m %A%H" = some pieces := by decide
  obtain ⟨-, hparts, hread, -⟩ := read?_of_first_cut hlocale hcompile "111  fRI07"
  obtain ⟨cut, hfirst, heq⟩ := (hparts parts).mp (by decide)
  refine ⟨hlocale, hcompile, cut, hfirst, heq, ?_⟩
  rw [heq]
  exact hread cut hfirst

end Texts

end Datetime

end Almanac
