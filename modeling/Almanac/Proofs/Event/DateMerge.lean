import Almanac.Proofs.Event.CleanValues
import Almanac.Proofs.Event.Independence

/-!
# Date and time of a record

A page may give the date and the time of an event apart, or both together as the datetime. The
record has one slot for the three fields. Where the date has a rule, the first date and the first
time decide what is in the slot and nothing else does (`datetime_assemble_of_date`); where it has
none, the slot holds the values of the datetime and the time goes nowhere
(`assemble_congr_of_no_date`).
-/

namespace Almanac

namespace Extraction

/-! ## The slot of the datetime -/

/-- The text of the first value. -/
def firstText (values : List FieldValue) : Option String := values.head?.map FieldValue.toText

/-- A date with a time behind it, if there is one. -/
def joinedText (date : String) (time : Option String) : String :=
  date ++ time.elim "" ("%;" ++ ·)

theorem map_toText_mergeDate (dates times : List FieldValue) :
    (mergeDate dates times).map FieldValue.toText =
      (firstText dates).toList.map fun date => joinedText date (firstText times) := by
  cases dates with
  | nil => rfl
  | cons date more =>
    cases times with
    | nil =>
      have hdate : joinedText date.toText none = date.toText := String.append_empty
      exact congrArg (fun text => [text]) hdate.symm
    | cons time others =>
      have hconcat : Text.concat [date.toText, dateTimeSeparator, time.toText] =
          joinedText date.toText (some time.toText) := by
        apply String.toList_injective
        simp [Text.concat, dateTimeSeparator, joinedText]
      exact congrArg (fun text => [text]) hconcat

section Slot

variable {found : Extracted}

theorem datetime_assemble (found : Extracted) :
    (assemble found).value.datetime = (slotTexts found .datetime).bind (slotText .datetime) :=
  (get_assemble found .datetime).trans (if_pos (by decide))

/-- With a date of its own the slot holds one text or none, made of the first values. -/
theorem datetime_assemble_of_date {dates : List FieldValue} (h : found .date = some dates) :
    (assemble found).value.datetime =
      (firstText dates).map fun date =>
        EventRecord.storeList [joinedText date (firstText ((found .time).getD []))] := by
  have hslot : slotTexts found .datetime =
      some ((firstText dates).toList.map fun date =>
        joinedText date (firstText ((found .time).getD []))) := by
    simp only [slotTexts, datetimeValues, h, Option.map_some, map_toText_mergeDate]
  rw [datetime_assemble, hslot]
  cases firstText dates <;> rfl

/-- Without a date of its own the slot holds what the datetime is found to have. -/
theorem datetime_assemble_of_no_date (h : found .date = none) :
    (assemble found).value.datetimes = ((found .datetime).getD []).map FieldValue.toText ∧
      ((assemble found).value.datetime = none ↔ (found .datetime).getD [] = []) := by
  refine ⟨datetimes_assemble h, ?_⟩
  have hslot : slotTexts found .datetime = (found .datetime).map (·.map FieldValue.toText) := by
    simp only [slotTexts, datetimeValues, h]
  rw [datetime_assemble, (loadField_slotText .datetime rfl _).2, hslot]
  cases found .datetime <;> simp

/-- Without a date of its own a record is the same whatever is found of the time. -/
theorem assemble_congr_of_no_date {found' : Extracted} (h : found .date = none)
    (hsame : ∀ field : EventField, field ≠ .time → found field = found' field) :
    (assemble found).value = (assemble found').value := by
  have hdate : found' .date = none := (hsame .date (by decide)) ▸ h
  have hslot : ∀ slot ∈ EventRecord.fields, slotTexts found slot = slotTexts found' slot := by
    intro slot hslot
    by_cases hdatetime : slot = .datetime
    · subst hdatetime
      simp only [slotTexts, datetimeValues, h, hdate, hsame .datetime (by decide)]
    · refine slotTexts_congr hslot fun field hfield => hsame field ?_
      rintro rfl
      exact hdatetime hfield.symm
  have hget : ∀ slot, (assemble found).value.get slot = (assemble found').value.get slot := by
    intro slot
    rw [get_assemble, get_assemble]
    split
    · next hmem => rw [hslot slot hmem]
    · rfl
  rw [← EventRecord.ofFields_get (assemble found).value,
    ← EventRecord.ofFields_get (assemble found').value, funext hget]

end Slot

end Extraction

open Extraction

/-! ## Sessions -/

namespace Session

/-- What a field of the event page is found to have; nothing where it has no rule. -/
def eventValues (s : Session) (field : EventField) : List FieldValue :=
  match s.document, s.template.event with
  | some doc, some page => (foundOn doc page field).getD []
  | _, _ => []

/-- The session with another rule for a field of the event page, or none. -/
def withField (s : Session) (field : EventField) (rule : Option FieldRule) : Session :=
  { s with template := s.template.setField field rule }

variable {s : Session} {doc : Document}

theorem eventRecord_of_page {page : PageRule} (hdoc : s.document = some doc)
    (hpage : s.template.event = some page) :
    s.eventRecord.1 = .ok (assemble (foundOn doc page)).value ∧
      (∀ field, s.eventValues field = (foundOn doc page field).getD []) ∧
      ∀ field, s.template.eventField? field = none ↔ foundOn doc page field = none := by
  refine ⟨?_, ?_, ?_⟩
  · rw [eventRecord_answer, hpage, hdoc]
  · intro field
    rw [eventValues, hdoc, hpage]
  · intro field
    rw [Template.eventField?, hpage, Option.bind_some, foundOn, Option.map_eq_none_iff]

theorem eventField?_withField (s : Session) {field other : EventField} (h : other ≠ field)
    (rule : Option FieldRule) :
    (s.withField field rule).template.eventField? other = s.template.eventField? other :=
  (s.template.eventField?_setField field rule other).trans (if_neg h)

/-- What a field is found to have does not depend on the rules of the others. -/
theorem eventValues_withField (s : Session) {field other : EventField} (h : other ≠ field)
    (rule : Option FieldRule) :
    (s.withField field rule).eventValues other = s.eventValues other := by
  have hevent : (s.withField field rule).template.event =
      s.template.event.map (·.setField field rule) := rfl
  have hdoc : (s.withField field rule).document = s.document := rfl
  rw [eventValues, eventValues, hevent, hdoc]
  cases s.document with
  | none => rfl
  | some doc =>
    cases s.template.event with
    | none => rfl
    | some page => exact congrArg (·.getD []) (foundOn_setField doc page h rule)

/-- The slot of the datetime where the date has a rule: its text is made of the first values. -/
theorem datetime_of_date (hdoc : s.document = some doc)
    (hdate : (s.template.eventField? .date).isSome) :
    ∃ record, s.eventRecord.1 = .ok record ∧
      record.datetime = (firstText (s.eventValues .date)).map fun date =>
        EventRecord.storeList [joinedText date (firstText (s.eventValues .time))] := by
  cases hpage : s.template.event with
  | none =>
    rw [Template.eventField?, hpage] at hdate
    cases hdate
  | some page =>
    obtain ⟨hrecord, hvalues, hrule⟩ := eventRecord_of_page hdoc hpage
    obtain ⟨dates, hdates⟩ : ∃ dates, foundOn doc page .date = some dates := by
      rw [← Option.isSome_iff_exists, Option.isSome_iff_ne_none, ne_eq, ← hrule .date,
        ← ne_eq, ← Option.isSome_iff_ne_none]
      exact hdate
    refine ⟨_, hrecord, ?_⟩
    rw [datetime_assemble_of_date hdates, hvalues, hvalues, hdates, Option.getD_some]

/-- The values of the slot where the date has no rule: those of the datetime. -/
theorem datetimes_of_no_date (hdoc : s.document = some doc)
    (hdate : s.template.eventField? .date = none) (hpage : s.template.event.isSome) :
    ∃ record, s.eventRecord.1 = .ok record ∧
      record.datetimes = (s.eventValues .datetime).map FieldValue.toText ∧
      (record.datetime = none ↔ s.eventValues .datetime = []) := by
  obtain ⟨page, hpage⟩ := Option.isSome_iff_exists.mp hpage
  obtain ⟨hrecord, hvalues, hrule⟩ := eventRecord_of_page hdoc hpage
  refine ⟨_, hrecord, ?_⟩
  rw [hvalues]
  exact datetime_assemble_of_no_date ((hrule .date).mp hdate)

/-- Where the date has no rule, that of the time does not matter for the record. -/
theorem eventRecord_withField_time (hdate : s.template.eventField? .date = none)
    (rule : Option FieldRule) : (s.withField .time rule).eventRecord.1 = s.eventRecord.1 := by
  have hevent : (s.withField .time rule).template.event =
      s.template.event.map (·.setField .time rule) := rfl
  have hdoc : (s.withField .time rule).document = s.document := rfl
  have hname : (s.withField .time rule).template.name = s.template.name := rfl
  rw [eventRecord_answer, eventRecord_answer, hevent, hdoc, hname]
  cases hpage : s.template.event with
  | none => rfl
  | some page =>
    cases hdocument : s.document with
    | none => rfl
    | some doc =>
      have hfound : foundOn doc page .date = none :=
        ((eventRecord_of_page hdocument hpage).2.2 .date).mp hdate
      refine congrArg Except.ok (assemble_congr_of_no_date hfound ?_).symm
      intro field hfield
      exact (foundOn_setField doc page hfield rule).symm

end Session

/-- **The first values decide**: with a rule for the date, the slot of the datetime holds the first
date and the first time behind it, or is null without a date, whatever else there is. Without one it
holds the values of the datetime, and the rule of the time does not matter. -/
theorem datetime_of_first_values (s : Session) {doc : Document} (hdoc : s.document = some doc) :
    ((s.template.eventField? .date).isSome →
      ∃ record, s.eventRecord.1 = .ok record ∧
        (s.eventValues .date = [] → record.datetime = none) ∧
        (∀ date more, s.eventValues .date = date :: more →
          let text := joinedText date.toText (firstText (s.eventValues .time))
          record.datetime = some (EventRecord.storeList [text]) ∧ record.datetimes = [text]) ∧
        (∀ rule, (s.withField .datetime rule).eventRecord.1.map (·.datetime) =
          .ok record.datetime) ∧
        ∀ other : Session, other.document.isSome → (other.template.eventField? .date).isSome →
          firstText (other.eventValues .date) = firstText (s.eventValues .date) →
          firstText (other.eventValues .time) = firstText (s.eventValues .time) →
          other.eventRecord.1.map (·.datetime) = .ok record.datetime) ∧
    (s.template.eventField? .date = none →
      (∀ rule, (s.withField .time rule).eventRecord.1 = s.eventRecord.1) ∧
      (s.template.event.isSome → ∃ record, s.eventRecord.1 = .ok record ∧
        record.datetimes = (s.eventValues .datetime).map FieldValue.toText ∧
        (record.datetime = none ↔ s.eventValues .datetime = []))) := by
  refine ⟨?_, ?_⟩
  · intro hdate
    obtain ⟨record, hrecord, hslot⟩ := s.datetime_of_date hdoc hdate
    have hother : ∀ other : Session, other.document.isSome →
        (other.template.eventField? .date).isSome →
        firstText (other.eventValues .date) = firstText (s.eventValues .date) →
        firstText (other.eventValues .time) = firstText (s.eventValues .time) →
        other.eventRecord.1.map (·.datetime) = .ok record.datetime := by
      intro other hotherDoc hotherDate hfirstDate hfirstTime
      obtain ⟨otherDoc, hotherDoc⟩ := Option.isSome_iff_exists.mp hotherDoc
      obtain ⟨found, hfound, hfoundSlot⟩ := other.datetime_of_date hotherDoc hotherDate
      rw [hfound, hslot, ← hfirstDate, ← hfirstTime, ← hfoundSlot]
      rfl
    refine ⟨record, hrecord, ?_, ?_, ?_, hother⟩
    · intro hnone
      rw [hslot, hnone]
      rfl
    · intro date more hmore text
      have hstored : record.datetime = some (EventRecord.storeList [text]) := by
        rw [hslot, hmore]
        rfl
      refine ⟨hstored, ?_⟩
      simp [EventRecord.datetimes, EventRecord.loadField, hstored,
        EventRecord.loadList?_storeList]
    · intro rule
      apply hother (s.withField .datetime rule)
      · exact Option.isSome_of_eq_some hdoc
      · rw [s.eventField?_withField (by decide)]
        exact hdate
      · rw [s.eventValues_withField (by decide)]
      · rw [s.eventValues_withField (by decide)]
  · intro hdate
    exact ⟨s.eventRecord_withField_time hdate, fun hpage => s.datetimes_of_no_date hdoc hdate hpage⟩

/-- A rule that takes the elements with a tag. -/
def taggedWith (tag : String) : FieldRule where
  selection := { selectors := [tag] }

/-- A session on a page with dates and times, with or without a rule for the dates. -/
def announcing (dated : Bool) (content : List Markup) : Session where
  template :=
    { name := "t"
      event := some
        { roots := { selectors := ["/"] }
          fields := .ofList ((if dated then [("date", taggedWith "b")] else []) ++
            [("datetime", taggedWith "u"), ("time", taggedWith "i")]) } }
  document := some (.ofMarkup content)

theorem datetime_of_first_values_announced :
    let one (tag text : String) : Markup := .element tag [] [.text text]
    let content := [one "b" "1.2.", one "u" "x", one "i" "18:00", one "u" "y"]
    let apart := announcing true content
    let longer := announcing true (content ++ [one "b" "2.2.", one "i" "20:00", one "u" "z"])
    let whole := announcing false content
    (apart.document = some (.ofMarkup content) ∧ (apart.template.eventField? .date).isSome ∧
      longer.document.isSome ∧ (longer.template.eventField? .date).isSome ∧
      ∃ record, apart.eventRecord.1 = .ok record ∧ record.datetimes = ["1.2.%;18:00"] ∧
        longer.eventRecord.1.map (·.datetime) = .ok record.datetime) ∧
    whole.document = some (.ofMarkup content) ∧ whole.template.eventField? .date = none ∧
      whole.template.event.isSome ∧
      (∀ rule, (whole.withField .time rule).eventRecord.1 = whole.eventRecord.1) ∧
      ∃ record, whole.eventRecord.1 = .ok record ∧ record.datetimes = ["x", "y"] := by
  intro one content apart longer whole
  have hapart : apart.document = some (.ofMarkup content) := rfl
  have hwhole : whole.document = some (.ofMarkup content) := rfl
  have hdated : (apart.template.eventField? .date).isSome := by cbv
  have hlonger : (longer.template.eventField? .date).isSome := by cbv
  have hnone : whole.template.eventField? .date = none := by cbv
  refine ⟨⟨hapart, hdated, rfl, hlonger, ?_⟩, hwhole, hnone, rfl, ?_⟩
  · obtain ⟨record, hrecord, -, htext, -, hsame⟩ :=
      (datetime_of_first_values apart hapart).1 hdated
    have hvalues : apart.eventValues .date = [.text "1.2."] := by cbv
    have htime : firstText (apart.eventValues .time) = some "18:00" := by cbv
    have hdates := (htext _ _ hvalues).2
    rw [htime] at hdates
    refine ⟨record, hrecord, hdates, hsame longer rfl hlonger ?_ ?_⟩
    · rw [hvalues]
      cbv
    · rw [htime]
      cbv
  · obtain ⟨htime, hrecord⟩ := (datetime_of_first_values whole hwhole).2 hnone
    obtain ⟨record, hrecord, hdates, -⟩ := hrecord rfl
    have hvalues : whole.eventValues .datetime = [.text "x", .text "y"] := by cbv
    rw [hvalues] at hdates
    exact ⟨htime, record, hrecord, hdates⟩

end Almanac
