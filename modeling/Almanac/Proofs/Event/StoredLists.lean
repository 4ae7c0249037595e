import Mathlib
import Almanac.Proofs.Dictionary
import Almanac.Proofs.Json.RoundTrip
import Almanac.Session

/-!
# Stored lists

The fields of a record that may have several values are stored as JSON text, and what is
read of the text is the list that was stored, whatever texts are in it
(`loadList?_storeList`); the same holds of the texts of groups (`textMembers?_groupsText`).
So a record gives back all values of the dates and the types that the page was found to
have.
-/

namespace Almanac

/-! ## Texts as JSON -/

theorem mapM_text?_string (texts : List String) :
    (texts.map Json.string).mapM Json.text? = some texts := by
  induction texts with
  | nil => rfl
  | cons text texts ih =>
    rw [List.map_cons, List.mapM_cons, ih]
    rfl

namespace EventRecord

theorem read?_storeList (texts : List String) :
    Json.read? (storeList texts) = some (.array (texts.map .string)) := by
  refine Json.read?_write (Json.readBack_array Json.isLoose_storedSpacing ?_)
  intro item hitem
  obtain ⟨text, -, rfl⟩ := List.mem_map.mp hitem
  exact Json.readBack_string _ text

/-- A list of texts is read back as it was stored. -/
theorem loadList?_storeList (texts : List String) : loadList? (storeList texts) = some texts := by
  unfold loadList?
  rw [read?_storeList]
  exact mapM_text?_string texts

end EventRecord

namespace Extraction

/-- The texts of groups are read back under their names. -/
theorem textMembers?_groupsText (texts : Dictionary String) :
    (Json.read? (FieldValue.groupsText texts)).bind Json.textMembers? = some texts := by
  have hread : Json.read? (FieldValue.groupsText texts) =
      some (.object (texts.entries.map fun p => (p.1, .string p.2))) := by
    refine Json.read?_write (Json.readBack_object Json.isLoose_storedSpacing ?_)
    intro member hmember
    obtain ⟨p, -, rfl⟩ := List.mem_map.mp hmember
    exact Json.readBack_string _ p.2
  have hmembers : ∀ entries : List (String × String),
      (entries.map fun p => (p.1, Json.string p.2)).mapM (Json.member? Json.text?) =
        some entries := by
    intro entries
    induction entries with
    | nil => rfl
    | cons p entries ih =>
      rw [List.map_cons, List.mapM_cons, ih]
      rfl
  rw [hread, Option.bind_some, Json.textMembers?, hmembers]
  exact congrArg some (Dictionary.ofList_entries texts)

/-! ## The record of a page -/

/-- The values that the fields of an event page are found to have. -/
def foundOn (doc : Document) (page : PageRule) : Extracted := fun field =>
  (page.fields.get? field.key).map fun rule =>
    (extractField doc (findRoots doc .event page.roots).value field rule).value

theorem lookup_extractFields (doc : Document) (roots : List Nat) (page : PageRule)
    (field : EventField) (fields : List EventField) :
    (extractFields doc roots page fields).value.lookup field =
      if field ∈ fields then
        (page.fields.get? field.key).map fun rule => (extractField doc roots field rule).value
      else none := by
  induction fields with
  | nil => rfl
  | cons first rest ih =>
    rw [extractFields]
    by_cases heq : field = first
    · subst heq
      split
      · next hrule => simp [ih, hrule]
      · next rule hrule => simp [Noted.bind, hrule]
    · have hne : (field == first) = false := beq_eq_false_iff_ne.mpr heq
      split
      · simp [ih, heq]
      · simp [Noted.bind, List.lookup_cons, hne, ih, heq]

/-- The record of an event page, with the remarks on it. -/
def recordOf (doc : Document) (page : PageRule) : Noted EventRecord :=
  (findRoots doc .event page.roots).bind fun roots =>
    (extractFields doc roots page EventField.all).bind fun values =>
      assemble fun field => values.lookup field

theorem eventRecord_eq_recordOf {template : Template} {page : PageRule}
    (hpage : template.event = some page) (doc : Document) :
    eventRecord template (some doc) = .ok (recordOf doc page) := by
  simp only [eventRecord, Template.page, Template.page?, hpage, required, bind, Except.bind]
  rfl

/-- The record is put together from the values of the fields, and the remarks on that come last. -/
theorem recordOf_eq (doc : Document) (page : PageRule) :
    recordOf doc page =
      ⟨(assemble (foundOn doc page)).value, (findRoots doc .event page.roots).remarks ++
        ((extractFields doc (findRoots doc .event page.roots).value page EventField.all).remarks ++
          (assemble (foundOn doc page)).remarks)⟩ := by
  have hall : ∀ field : EventField, field ∈ EventField.all := by
    intro field
    cases field <;> decide
  have hlookup : (fun field => (extractFields doc (findRoots doc .event page.roots).value page
      EventField.all).value.lookup field) = foundOn doc page :=
    funext fun field => by rw [lookup_extractFields, if_pos (hall field), foundOn]
  simp only [recordOf, Noted.bind, hlookup]

/-- The record of a page is put together from the values of its fields. -/
theorem eventRecord_eq {template : Template} {page : PageRule} (hpage : template.event = some page)
    (doc : Document) :
    ∃ remarks, eventRecord template (some doc) =
      .ok ⟨(assemble (foundOn doc page)).value, remarks⟩ := by
  rw [eventRecord_eq_recordOf hpage, recordOf_eq]
  exact ⟨_, rfl⟩

/-- The answer of a session: an error if the page has no rules or there is no document, else
the record of what is found. -/
theorem eventRecord_answer (s : Session) :
    s.eventRecord.1 =
      match s.template.event, s.document with
      | none, _ => .error (.unknownPage Page.event.name s.template.name)
      | some _, none => .error .missingDocument
      | some page, some doc => .ok (assemble (foundOn doc page)).value := by
  unfold Session.eventRecord
  cases hpage : s.template.event with
  | none =>
    simp only [eventRecord, Template.page, Template.page?, hpage]
    rfl
  | some page =>
    cases hdoc : s.document with
    | none =>
      simp only [eventRecord, Template.page, Template.page?, hpage, required]
      rfl
    | some doc =>
      obtain ⟨remarks, hrecord⟩ := eventRecord_eq hpage doc
      rw [hrecord]
      rfl

/-- The text that a field of an assembled record holds. -/
theorem get_assemble (found : Extracted) (field : EventField) :
    (assemble found).value.get field =
      if field ∈ EventRecord.fields then (slotTexts found field).bind (slotText field)
      else none := by
  cases field <;> rfl

/-- A field with several values stores the list of them, or nothing if there are none. -/
theorem loadField_slotText (field : EventField) (hfield : field.isMultiValued = true)
    (texts : Option (List String)) :
    EventRecord.loadField (texts.bind (slotText field)) = texts.getD [] ∧
      (texts.bind (slotText field) = none ↔ texts.getD [] = []) := by
  cases texts with
  | none => exact ⟨rfl, Iff.intro (fun _ => rfl) fun _ => rfl⟩
  | some texts =>
    cases texts with
    | nil => exact ⟨rfl, Iff.intro (fun _ => rfl) fun _ => rfl⟩
    | cons first rest =>
      have hslot : (some (first :: rest)).bind (slotText field) =
          some (EventRecord.storeList (first :: rest)) := by
        simp [slotText, hfield]
      rw [hslot]
      refine ⟨?_, Iff.intro (fun h => ?_) fun h => ?_⟩
      · simp [EventRecord.loadField, EventRecord.loadList?_storeList]
      · cases h
      · cases h

end Extraction

/-- **Nothing is lost in storing**: a list of texts and the texts of groups are read back as
they were stored, and the record of an event page gives back the texts of all values of its
types, and of its dates once they are put together with the times. -/
theorem stored_lists_are_read_back :
    (∀ texts : List String, EventRecord.loadList? (EventRecord.storeList texts) = some texts) ∧
      (∀ groups : Dictionary String,
        (Json.read? (Extraction.FieldValue.groupsText groups)).bind Json.textMembers? =
          some groups) ∧
      ∀ (s : Session) (doc : Document) (page : PageRule),
        s.document = some doc → s.template.event = some page →
          let found := Extraction.foundOn doc page
          let types := ((found .types).getD []).map Extraction.FieldValue.toText
          let dates := ((Extraction.datetimeValues found).getD []).map Extraction.FieldValue.toText
          ∃ record : EventRecord, s.eventRecord.1 = .ok record ∧
            record.typeList = types ∧ (record.types = none ↔ types = []) ∧
            record.datetimes = dates ∧ (record.datetime = none ↔ dates = []) := by
  refine ⟨EventRecord.loadList?_storeList, Extraction.textMembers?_groupsText, ?_⟩
  intro s doc page hdoc hpage found types dates
  obtain ⟨remarks, hrecord⟩ := Extraction.eventRecord_eq hpage doc
  refine ⟨(Extraction.assemble found).value, ?_, ?_⟩
  · simp only [Session.eventRecord, hdoc, hrecord]
    rfl
  · have htypes := Extraction.loadField_slotText .types rfl
      (Extraction.slotTexts found .types)
    have hdates := Extraction.loadField_slotText .datetime rfl
      (Extraction.slotTexts found .datetime)
    have htypesEq : (Extraction.slotTexts found .types).getD [] = types := by
      simp only [Extraction.slotTexts, types]
      cases found .types <;> rfl
    have hdatesEq : (Extraction.slotTexts found .datetime).getD [] = dates := by
      simp only [Extraction.slotTexts, dates]
      cases Extraction.datetimeValues found <;> rfl
    rw [htypesEq] at htypes
    rw [hdatesEq] at hdates
    exact ⟨htypes.1, htypes.2, hdates.1, hdates.2⟩

/-- A page whose types are the parts of its text between bars. -/
def barred : PageRule where
  roots := { selectors := ["/"] }
  fields := .ofList [("types", { selection := { selectors := ["."], splitter := some "|" } })]

/-- A session on a page whose text looks like a stored list. -/
def quoting : Session where
  template := { name := "t", event := some barred }
  document := some (.ofMarkup [.text "x\", \"y|\\"])

theorem stored_lists_are_read_back_quoting :
    quoting.document = some (.ofMarkup [.text "x\", \"y|\\"]) ∧
      quoting.template.event = some barred ∧
      ∃ record : EventRecord, quoting.eventRecord.1 = .ok record ∧
        record.typeList = ["x\", \"y", "\\"] ∧ record.types ≠ none ∧ record.datetime = none := by
  refine ⟨rfl, rfl, ?_⟩
  obtain ⟨record, hrecord, htypes, hnull, -, hdates⟩ :=
    stored_lists_are_read_back.2.2 quoting (.ofMarkup [.text "x\", \"y|\\"]) barred rfl rfl
  have hfound : ((Extraction.foundOn (.ofMarkup [.text "x\", \"y|\\"]) barred .types).getD []).map
      Extraction.FieldValue.toText = ["x\", \"y", "\\"] := by cbv
  rw [hfound] at htypes hnull
  exact ⟨record, hrecord, htypes, fun h => (by cases hnull.mp h), hdates.mpr (by cbv)⟩

end Almanac
