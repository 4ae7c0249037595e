import Almanac.Proofs.Datetime.UsualSpan
import Almanac.Proofs.Repetitions
import Almanac.Proofs.Session.History

/-!
# What normalized values state

Whatever formats a template declares, what a value is normalized to fits together: there is a
start date, the dates are days of the calendar in years of four digits, and times come with
what they are times of (`isCoherent_of_normalize`). Every raw value is accounted for: it has
its place among the occurrences, or a message of its own among the diagnostics
(`normalizeAll_accounts`).
-/

namespace Almanac

namespace Datetime

variable {locale : Locale}

/-! ## What directives read -/

/-- A number is read with a value in its range. -/
theorem Numeral.exists_of_mem_segments {n : Numeral} {input : List Char} {width : Nat}
    {reading : Reading} (h : (width, reading) ∈ n.segments input) :
    ∃ value, (n.low ≤ value ∧ value ≤ n.high) ∧
      reading = .number n.slot (n.meaning width value) := by
  unfold Numeral.segments at h
  obtain ⟨w, -, hsome⟩ := List.mem_filterMap.mp h
  dsimp only at hsome
  split at hsome
  · next hrange =>
    obtain ⟨rfl, rfl⟩ := Prod.mk.inj (Option.some.inj hsome)
    rw [Bool.and_eq_true, decide_eq_true_eq, decide_eq_true_eq] at hrange
    exact ⟨_, hrange, rfl⟩
  · cases hsome

/-- A name is read as what its place in the list stands for. -/
theorem exists_of_mem_nameSegments {names : List String} {meaning : Nat → Reading}
    {input : List Char} {width : Nat} {reading : Reading}
    (h : (width, reading) ∈ nameSegments names meaning input) : ∃ i, reading = meaning i := by
  obtain ⟨⟨name, i⟩, -, hsome⟩ := List.mem_filterMap.mp h
  dsimp only at hsome
  split at hsome
  · exact ⟨i, (Prod.mk.inj (Option.some.inj hsome)).2.symm⟩
  · cases hsome

/-- A year is read from four digits, or from the two that stand for a year near 2000. -/
theorem year_bounds_of_mem_segments {d : Directive} {input : List Char} {width year : Nat}
    (h : (width, .number .year year) ∈ d.segments locale input) : 1 ≤ year ∧ year ≤ 9999 := by
  cases d with
  | year =>
    obtain ⟨value, hrange, heq⟩ := Numeral.exists_of_mem_segments h
    cases heq
    exact hrange
  | shortYear =>
    obtain ⟨value, hrange, heq⟩ := Numeral.exists_of_mem_segments h
    cases heq
    exact fullYear_bounds hrange.2
  | day | month | hour | halfDayHour | minute | second | fraction =>
    obtain ⟨value, -, heq⟩ := Numeral.exists_of_mem_segments h
    cases heq
  | meridiem | monthName | shortMonthName | weekdayName | shortWeekdayName =>
    simp only [Directive.segments] at h
    obtain ⟨i, heq⟩ := exists_of_mem_nameSegments h
    cases heq

/-! ## What all pieces read -/

/-- Whatever every directive of the pieces keeps holds of the parts that all pieces read. -/
theorem of_matchPieces? {P : Fields → Prop} {pieces : List Piece}
    (hadd : ∀ d : Directive, .directive d ∈ pieces → ∀ (input : List Char) (width : Nat)
      (reading : Reading), (width, reading) ∈ d.segments locale input →
        ∀ fields, P fields → P (fields.add reading))
    {input : List Char} {fields result : Fields} (hfields : P fields)
    (h : matchPieces? locale pieces input fields = some result) : P result := by
  induction pieces generalizing input fields with
  | nil =>
    rw [matchPieces?] at h
    split at h
    · cases h
      exact hfields
    · cases h
  | cons piece pieces ih =>
    have ih := @ih fun d hd => hadd d (List.mem_cons_of_mem _ hd)
    cases piece with
    | literal l =>
      cases input with
      | nil => cases h
      | cons found input =>
        rw [matchPieces?] at h
        split at h
        · exact ih hfields h
        · cases h
    | space =>
      rw [matchPieces?] at h
      split at h
      · cases h
      · exact ih hfields h
    | directive d =>
      rw [matchPieces?] at h
      obtain ⟨⟨width, reading⟩, hmem, hmatch⟩ := List.exists_of_findSome?_eq_some h
      exact ih (hadd d List.mem_cons_self input width reading hmem fields hfields) hmatch

/-- The year that is read, if there is one, has four digits. -/
def Fields.HasUsualYear (f : Fields) : Prop := ∀ year ∈ f.year, 1 ≤ year ∧ year ≤ 9999

theorem Fields.HasUsualYear.add {f : Fields} (h : f.HasUsualYear) {reading : Reading}
    (hreading : ∀ year, reading = .number .year year → 1 ≤ year ∧ year ≤ 9999) :
    (f.add reading).HasUsualYear := by
  cases reading with
  | meridiem afternoon => exact h
  | ignored => exact h
  | number slot value =>
    cases slot with
    | year =>
      -- a year that has been read before stays
      intro year hyear
      cases hf : f.year with
      | some first =>
        obtain rfl : first = year := by simpa [Fields.add, hf] using hyear
        exact h first hf
      | none =>
        obtain rfl : value = year := by simpa [Fields.add, hf] using hyear
        exact hreading value rfl
    | month | day | hour | halfDayHour | minute | second | micro => exact h

/-- The year of a date that is read has four digits. -/
theorem year_bounds_of_read? {format input : String} {date : Date} {time : TimeOfDay}
    (h : read? locale format input = some (date, time)) : 1 ≤ date.year ∧ date.year ≤ 9999 := by
  simp only [read?, Option.bind_eq_bind, Option.bind_eq_some_iff] at h
  obtain ⟨pieces, -, fields, hmatch, hmoment⟩ := h
  have hfields : fields.HasUsualYear := by
    refine of_matchPieces? (P := Fields.HasUsualYear) ?_ ?_ hmatch
    · intro d _ input width reading hmem f hf
      refine hf.add ?_
      rintro year rfl
      exact year_bounds_of_mem_segments hmem
    · intro year hyear
      cases hyear
  simp only [Fields.moment?, Option.bind_eq_bind, Option.bind_eq_some_iff] at hmoment
  obtain ⟨d, hdate, t, -, heq⟩ := hmoment
  obtain ⟨rfl, rfl⟩ := Prod.mk.inj (Option.some.inj heq)
  rw [(Date.parts_of_of? hdate).1]
  cases hyear : fields.year with
  | none => decide
  | some year => exact hfields year hyear

end Datetime

/-! ## What a candidate reads -/

/-- A date is a day of the calendar in a year of four digits. -/
structure Date.IsUsual (d : Date) : Prop where
  year : 1 ≤ d.year ∧ d.year ≤ 9999
  month : 1 ≤ d.month ∧ d.month ≤ 12
  day : 1 ≤ d.day ∧ d.day ≤ Calendar.daysInMonth d.year d.month

namespace Datetime

/-- What an occurrence states fits together. -/
structure Occurrence.IsCoherent (o : Occurrence) : Prop where
  startDate : o.startDate.isSome
  isUsual : ∀ date, o.startDate = some date ∨ o.endDate = some date → date.IsUsual
  startTime : o.endTime.isSome → o.startTime.isSome
  /-- Two dates have both their times or none. -/
  times : o.endDate.isSome → (o.startTime.isSome ↔ o.endTime.isSome)

variable {locale : Locale}

theorem isUsual_of_readStated? {format value : String} {date : Date} {time : Option TimeOfDay}
    (h : readStated? locale format value = some (some date, time)) : date.IsUsual := by
  obtain ⟨⟨d, t⟩, hread, heq⟩ := Option.map_eq_some_iff.mp h
  have hdate : d = date := by
    have hstated := congrArg Prod.fst heq
    dsimp only at hstated
    split at hstated
    · exact Option.some.inj hstated
    · cases hstated
  subst hdate
  exact ⟨year_bounds_of_read? hread, d.month_bounds, d.one_le_day, d.day_le⟩

theorem Candidate.isCoherent_of_read? {candidate : Candidate} {value : List Char}
    {o : Occurrence} (h : candidate.read? locale value = some o) (hstart : o.startDate.isSome) :
    o.IsCoherent := by
  cases candidate with
  | single format =>
    simp only [Candidate.read?, Option.bind_eq_bind, Option.bind_eq_some_iff] at h
    obtain ⟨⟨startDate, startTime⟩, hread, heq⟩ := h
    cases heq
    refine ⟨hstart, ?_, fun h => (by cases h), fun h => (by cases h)⟩
    rintro date (rfl | hend)
    · exact isUsual_of_readStated? hread
    · cases hend
  | range start delimiter finish =>
    simp only [Candidate.read?, Option.bind_eq_bind, Option.bind_eq_some_iff] at h
    obtain ⟨⟨before, after⟩, -, ⟨startDate, startTime⟩, hread, ⟨endDate, endTime⟩, hread', heq⟩ := h
    cases heq
    -- each time stands in for the other, so that both are there or none
    have htimes : (startTime.or endTime).isSome ↔ (endTime.or startTime).isSome := by
      cases startTime <;> cases endTime <;> simp
    refine ⟨hstart, ?_, htimes.mpr, fun _ => htimes⟩
    rintro date (rfl | rfl)
    · exact isUsual_of_readStated? hread
    · exact isUsual_of_readStated? hread'

/-- What a value is normalized to fits together. -/
theorem Normalizer.isCoherent_of_normalize {n : Normalizer} {raw : String} {o : Occurrence}
    (h : n.normalize raw = some o) : o.IsCoherent := by
  obtain ⟨candidate, -, hfilter⟩ := List.exists_of_findSome?_eq_some h
  obtain ⟨hread, hstart⟩ := Option.filter_eq_some_iff.mp hfilter
  exact Candidate.isCoherent_of_read? hread hstart

end Datetime

/-! ## All values -/

/-- Values that cannot be read are told apart by their messages. -/
theorem message_unreadableDatetime_injective :
    Function.Injective fun raw => (Remark.unreadableDatetime raw).message := by
  intro raw raw' h
  have hchars := congrArg String.toList h
  simp only [Remark.message, Text.concat, String.toList_ofList, List.map_cons, List.map_nil,
    List.flatten_cons, List.flatten_nil, List.append_cancel_left_eq, List.append_cancel_right_eq]
    at hchars
  exact String.toList_injective hchars

namespace Session

/-- **Every value is accounted for**: it has its occurrence, in the order of the values, or a
message of its own behind those that are there. Every occurrence has a start date, its dates are
days in the years 1 to 9999, and its times come with what they are times of. -/
theorem normalizeAll_accounts (s : Session) (raws : List String) :
    let reads := (s.template.normalizer s.locale).normalize
    let message (raw : String) : String := (Remark.unreadableDatetime raw).message
    let unread := raws.filter fun raw => (reads raw).isNone
    (s.normalizeAll raws).1 = raws.filterMap reads ∧
      (s.normalizeAll raws).1.length + unread.length = raws.length ∧
      (s.normalizeAll raws).2 =
        { s with diagnostics := ⟨s.diagnostics.messages ++
          (unread.filter fun raw => message raw ∉ s.diagnostics.messages).eraseDups.map message⟩ } ∧
      Function.Injective message ∧
      ∀ o ∈ (s.normalizeAll raws).1, o.IsCoherent := by
  intro reads message unread
  have hoccurrences : (s.normalizeAll raws).1 = raws.filterMap reads := rfl
  refine ⟨hoccurrences, ?_, ?_, message_unreadableDatetime_injective, ?_⟩
  · have hunread : unread.length = raws.countP fun raw => ¬(reads raw).isSome = true := by
      rw [List.countP_eq_length_filter]
      refine congrArg List.length (List.filter_congr fun raw _ => ?_)
      cases reads raw <;> rfl
    rw [hoccurrences, hunread, List.length_filterMap_eq_countP]
    exact (List.length_eq_countP_add_countP fun raw => (reads raw).isSome).symm
  · have hnew : (unread.map message).filter (fun m => !s.diagnostics.contains m) =
        (unread.filter fun raw => message raw ∉ s.diagnostics.messages).map message := by
      rw [List.filter_map]
      congr 1
      refine List.filter_congr fun raw _ => ?_
      simp [Diagnostics.contains]
    have hstate : (s.normalizeAll raws).2 =
        { s with diagnostics := s.diagnostics.pushAll (unread.map message) } := by
      simp only [normalizeAll, note, Template.normalizeAll, List.map_map]
      rfl
    rw [hstate, ← eraseDups_map message_unreadableDatetime_injective, ← hnew,
      ← Diagnostics.messages_pushAll]
  · intro o ho
    obtain ⟨raw, -, hraw⟩ := List.mem_filterMap.mp ho
    exact Datetime.Normalizer.isCoherent_of_normalize hraw

/-- A session that has recorded one value, of a template of ranges of dates. -/
def ranging : Session where
  template :=
    { name := "t"
      event := some { fields := .ofList [("date",
        { selection := {}, formats := ["%d.%m.%Y%range\x7b-\x7d%d.%m.%Y"] })] } }
  diagnostics := ⟨["could not normalize datetime 'y'"]⟩

theorem normalizeAll_accounts_range :
    let o : Datetime.Occurrence :=
      { startDate := Date.of? 2023 2 1, endDate := Date.of? 2023 2 3 }
    let after := ranging.normalizeAll ["x", "1.2.2023 - 3.2.2023", "y", "x"]
    (o ∈ after.1 ∧ o.IsCoherent) ∧
      after.2.diagnostics.messages =
        ["could not normalize datetime 'y'", "could not normalize datetime 'x'"] := by
  intro o after
  have ho : o ∈ after.1 := by decide +kernel
  have haccounts := ranging.normalizeAll_accounts ["x", "1.2.2023 - 3.2.2023", "y", "x"]
  exact ⟨⟨ho, haccounts.2.2.2.2 o ho⟩, by decide +kernel⟩

end Session

end Almanac
