import Almanac.Proofs.Event.StoredLists

/-!
# Fields are read by themselves

What a field of an event page is found to hold depends on its own rule and on the roots of
the page (`foundOn_setField`), and a slot of the record is put together from the fields that
go into it (`get_assemble_congr`): the date, the time and the datetime go into one slot,
every other field into its own. So another rule for one field, or none, leaves all slots but
one as they are.
-/

namespace Almanac

/-! ## Changed dictionaries -/

namespace Dictionary

variable {α : Type}

/-- The values without the one under a key. -/
def erase (d : Dictionary α) (key : String) : Dictionary α where
  entries := d.entries.filter (·.1 != key)
  sorted := d.sorted.filter _

/-- Puts a value under a key, or leaves none there. -/
def set (d : Dictionary α) (key : String) : Option α → Dictionary α
  | some value => d.insert key value
  | none => d.erase key

theorem get?_erase (d : Dictionary α) (key other : String) :
    (d.erase key).get? other = if other = key then none else d.get? other := by
  have hlookup := lookup_filter_key (· != key) other d.entries
  by_cases h : other = key <;> simpa [h, erase, get?] using hlookup

theorem get?_set (d : Dictionary α) (key other : String) (value : Option α) :
    (d.set key value).get? other = if other = key then value else d.get? other := by
  cases value with
  | none => exact get?_erase d key other
  | some value => exact get?_insert d key other value

end Dictionary

/-! ## Changed rules -/

namespace EventField

theorem key_injective : Function.Injective key := by
  intro field other h
  have hfields := congrArg ofKey? h
  rw [ofKey?_key, ofKey?_key] at hfields
  exact Option.some.inj hfields

/-- The slot of the record that a field goes into. -/
def slot : EventField → EventField
  | date | time | datetime => datetime
  | field => field

end EventField

/-- The page with another rule for a field, or none. -/
def PageRule.setField (page : PageRule) (field : EventField) (rule : Option FieldRule) :
    PageRule :=
  { page with fields := page.fields.set field.key rule }

/-- The template with another rule for a field of the event page, or none. -/
def Template.setField (t : Template) (field : EventField) (rule : Option FieldRule) : Template :=
  { t with event := t.event.map (·.setField field rule) }

theorem PageRule.get?_setField (page : PageRule) {field other : EventField} (h : other ≠ field)
    (rule : Option FieldRule) :
    (page.setField field rule).fields.get? other.key = page.fields.get? other.key := by
  have hkey : other.key ≠ field.key := fun heq => h (EventField.key_injective heq)
  simp only [setField, Dictionary.get?_set, if_neg hkey]

/-- Putting a rule in the place of another changes the rule of no other field. -/
theorem Template.eventField?_setField (t : Template) (field : EventField)
    (rule : Option FieldRule) (other : EventField) :
    (t.setField field rule).eventField? other =
      if other = field then t.event.bind fun _ => rule else t.eventField? other := by
  unfold eventField? setField
  cases t.event with
  | none => simp
  | some page =>
    by_cases h : other = field
    · simp [h, PageRule.setField, Dictionary.get?_set]
    · simp [h, page.get?_setField h rule]

namespace Extraction

/-- A field is found to hold the same, whatever the rule of another field. -/
theorem foundOn_setField (doc : Document) (page : PageRule) {field other : EventField}
    (h : other ≠ field) (rule : Option FieldRule) :
    foundOn doc (page.setField field rule) other = foundOn doc page other := by
  have hroots : (page.setField field rule).roots = page.roots := rfl
  simp only [foundOn, page.get?_setField h rule, hroots]

/-! ## Slots of the record -/

/-- The texts of a slot come from the fields that go into it. -/
theorem slotTexts_congr {found found' : Extracted} {slot : EventField}
    (hslot : slot ∈ EventRecord.fields)
    (h : ∀ field : EventField, field.slot = slot → found field = found' field) :
    slotTexts found slot = slotTexts found' slot := by
  cases slot with
  | date => exact absurd hslot (by decide)
  | time => exact absurd hslot (by decide)
  | datetime =>
    -- what the date holds decides whether the datetime counts, and the time is added to it
    simp only [slotTexts, datetimeValues, h .date rfl, h .time rfl, h .datetime rfl]
  | title => simp only [slotTexts, h .title rfl]
  | perex => simp only [slotTexts, h .perex rfl]
  | location => simp only [slotTexts, h .location rfl]
  | gps => simp only [slotTexts, h .gps rfl]
  | organizer => simp only [slotTexts, h .organizer rfl]
  | types => simp only [slotTexts, h .types rfl]

/-- A slot depends on the values of its fields alone. -/
theorem get_assemble_congr {found found' : Extracted} {slot : EventField}
    (h : ∀ field : EventField, field.slot = slot → found field = found' field) :
    (assemble found).value.get slot = (assemble found').value.get slot := by
  rw [get_assemble, get_assemble]
  split
  · next hslot => rw [slotTexts_congr hslot h]
  · rfl

end Extraction

/-- **Fields are independent**: where only the rule of one field is another, or is left out,
an event page gives a record with the same text in every slot but the one of that field, or
fails as it did before. -/
theorem eventRecord_setField (s : Session) (field : EventField) (rule : Option FieldRule)
    {slot : EventField} (hslot : slot ≠ field.slot) :
    let changed : Session := { s with template := s.template.setField field rule }
    (∀ other, changed.template.eventField? other =
        if other = field then s.template.event.bind fun _ => rule
        else s.template.eventField? other) ∧
      changed.eventRecord.1.map (·.get slot) = s.eventRecord.1.map (·.get slot) := by
  intro changed
  refine ⟨s.template.eventField?_setField field rule, ?_⟩
  rw [Extraction.eventRecord_answer, Extraction.eventRecord_answer]
  have hname : changed.template.name = s.template.name := rfl
  have hevent : changed.template.event = s.template.event.map (·.setField field rule) := rfl
  have hdoc : changed.document = s.document := rfl
  rw [hname, hevent, hdoc]
  cases s.template.event with
  | none => rfl
  | some page =>
    cases s.document with
    | none => rfl
    | some doc =>
      refine congrArg Except.ok (Extraction.get_assemble_congr ?_)
      intro other hother
      have hne : other ≠ field := by
        rintro rfl
        exact hslot hother.symm
      exact Extraction.foundOn_setField doc page hne rule

/-- A page whose title is its text and whose date is the text too. -/
def titled : PageRule where
  roots := { selectors := ["/"] }
  fields := .ofList [("date", { selection := { selectors := ["."] } }),
    ("title", { selection := { selectors := ["."] } })]

/-- A session on such a page. -/
def reading : Session where
  template := { name := "t", event := some titled }
  document := some (.ofMarkup [.text "x"])

theorem eventRecord_setField_date :
    EventField.title ≠ EventField.date.slot ∧
      (let broken : FieldRule := { selection := { selectors := ["//["] } }
       let changed : Session :=
        { reading with template := reading.template.setField .date (some broken) }
       changed.eventRecord.1.map (·.get .title) = .ok (some "x")) := by
  have hslot : EventField.title ≠ EventField.date.slot := by decide
  have htitle : reading.eventRecord.1.map (·.get .title) = .ok (some "x") := by cbv
  exact ⟨hslot, (eventRecord_setField reading .date _ hslot).2.trans htitle⟩

end Almanac
