import Almanac.Proofs.Event.StoredLists
import Almanac.Proofs.Repetitions
import Almanac.Proofs.Text.Splitting

/-!
# Clean values

The texts of a field are sanitized after they have been joined or split, so that whatever
joining and splitting brings about, and whatever separator they use, the texts are clean
in the end (`isClean_fieldTexts`). The values of a field without patterns are these texts,
and the record gives them back for the types and for dates that have no rule apart.
-/

namespace Almanac

/-! ## Trimmed texts -/

namespace Text

theorem mem_of_mem_trimChars {c : Char} {cs : List Char} (h : c ∈ trimChars cs) : c ∈ cs := by
  unfold trimChars dropBlankEnd dropBlank at h
  have hdrop := (List.dropWhile_sublist _).subset (List.mem_reverse.mp h)
  exact (List.dropWhile_sublist _).subset (List.mem_reverse.mp hdrop)

end Text

namespace Extraction

open Text

/-! ## Texts of a field -/

/-- What the texts of a field are, whatever its rule joins, splits or ignores. -/
structure IsClean (rule : SelectorRule) (texts : List String) : Prop where
  nonempty : ∀ text ∈ texts, text ≠ ""
  /-- No text begins or ends with white space. -/
  trimmed : ∀ text ∈ texts, IsTrimmed text.toList
  /-- No text has a space that does not break. -/
  no_hard_space : ∀ text ∈ texts, '\u00a0' ∉ text.toList
  not_ignored : ∀ text ∈ texts, text ∉ rule.ignored
  nodup : texts.Nodup
  single : rule.keep = .first ∨ rule.joiner.isSome = true → texts.length ≤ 1

theorem isClean_nil (rule : SelectorRule) : IsClean rule [] where
  nonempty := nofun
  trimmed := nofun
  no_hard_space := nofun
  not_ignored := nofun
  nodup := List.nodup_nil
  single _ := Nat.zero_le 1

theorem isTrimmed_clean {value : String} (h : clean value ≠ "") : IsTrimmed (clean value).toList := by
  rw [clean, String.toList_ofList]
  apply isTrimmed_trimChars
  intro hnil
  apply h
  rw [clean, hnil, String.ofList_nil]

theorem hard_space_not_mem_clean (value : String) : '\u00a0' ∉ (clean value).toList := by
  intro h
  rw [clean, String.toList_ofList] at h
  -- such spaces were replaced before the text was trimmed, and trimming adds nothing
  obtain ⟨c, -, hc⟩ := List.mem_map.mp (mem_of_mem_trimChars h)
  by_cases hspace : c = '\u00a0'
  · rw [if_pos hspace] at hc
    exact absurd hc (by decide)
  · rw [if_neg hspace] at hc
    exact hspace hc

/-- A sanitized text is a cleaned one that is not empty and not to be ignored. -/
theorem mem_sanitize {ignored values : List String} {text : String}
    (h : text ∈ sanitize ignored values) :
    (∃ value ∈ values, clean value = text) ∧ text ≠ "" ∧ text ∉ ignored := by
  have hmem := List.mem_filter.mp (List.mem_eraseDups.mp h)
  obtain ⟨hvalue, hkeep⟩ := hmem
  simp only [Bool.and_eq_true, Bool.not_eq_true', String.isEmpty_eq_false_iff] at hkeep
  obtain ⟨hne, hignored⟩ := hkeep
  refine ⟨List.mem_map.mp hvalue, hne, fun hmem => ?_⟩
  rw [List.contains_iff_mem.mpr hmem] at hignored
  cases hignored

theorem length_sanitize_le (ignored values : List String) :
    (sanitize ignored values).length ≤ values.length := by
  calc (sanitize ignored values).length
      ≤ ((values.map clean).filter fun value =>
          !value.isEmpty && !ignored.contains value).length := (eraseDups_sublist _).length_le
    _ ≤ (values.map clean).length := List.length_filter_le _ _
    _ = values.length := List.length_map _

theorem length_apply_first_le {α : Type} (items : List α) : (Keep.first.apply items).length ≤ 1 :=
  List.length_take_le 1 items

/-- Where the first value is kept or the values are joined, one value is left. -/
theorem length_shape_le {rule : SelectorRule} (h : rule.keep = .first ∨ rule.joiner.isSome = true)
    (values : List String) : (shape rule values).length ≤ 1 := by
  unfold shape
  split
  · exact Nat.zero_le 1
  · split
    · exact Nat.le_refl 1
    · next splitter hjoiner hsplitter =>
      have hfirst : rule.keep = .first := by simpa [hjoiner] using h
      rw [hfirst]
      split
      · exact length_apply_first_le _
      · exact length_apply_first_le _
    · next hjoiner hsplitter =>
      have hfirst : rule.keep = .first := by simpa [hjoiner] using h
      rw [hfirst]
      exact length_apply_first_le _

theorem isClean_fieldTexts (rule : SelectorRule) (found : List String) :
    IsClean rule (fieldTexts rule found) where
  nonempty text h := (mem_sanitize h).2.1
  trimmed text h := by
    obtain ⟨⟨value, -, rfl⟩, hne, -⟩ := mem_sanitize h
    exact isTrimmed_clean hne
  no_hard_space text h := by
    obtain ⟨⟨value, -, rfl⟩, -, -⟩ := mem_sanitize h
    exact hard_space_not_mem_clean value
  not_ignored text h := (mem_sanitize h).2.2
  nodup := nodup_eraseDups _
  single h := Nat.le_trans (length_sanitize_le _ _) (length_shape_le h _)

/-! ## Values of a field -/

/-- The values of a field without patterns are the texts of its rule. -/
theorem exists_clean_texts (doc : Document) (roots : List Nat) (field : EventField)
    {rule : FieldRule} (hpattern : rule.pattern = none) :
    ∃ texts, (extractField doc roots field rule).value = texts.map .text ∧
      IsClean rule.selection texts := by
  simp only [extractField, Noted.bind, hpattern, fieldValues]
  exact ⟨fieldTexts rule.selection _, rfl, isClean_fieldTexts rule.selection _⟩

theorem map_toText_map_text (texts : List String) :
    (texts.map FieldValue.text).map FieldValue.toText = texts := by
  rw [List.map_map]
  exact List.map_id texts

/-- The rule by which the texts of a field are selected, if it has one. -/
def selectionOf (rule : Option FieldRule) : SelectorRule := rule.elim {} (·.selection)

/-- What is found of a field without patterns is clean, if anything is. -/
theorem isClean_foundOn (doc : Document) {page : PageRule} {field : EventField}
    (hpattern : (page.fields.get? field.key).bind (·.pattern) = none) :
    IsClean (selectionOf (page.fields.get? field.key))
      (((foundOn doc page field).getD []).map FieldValue.toText) := by
  unfold foundOn
  cases hrule : page.fields.get? field.key with
  | none => exact isClean_nil _
  | some rule =>
    rw [hrule] at hpattern
    obtain ⟨texts, hvalue, hclean⟩ :=
      exists_clean_texts doc (findRoots doc .event page.roots).value field hpattern
    rw [Option.map_some, Option.getD_some, hvalue, map_toText_map_text]
    exact hclean

/-- The list that a field with several values stores. -/
theorem loadField_get_assemble (found : Extracted) (field : EventField)
    (hfield : field.isMultiValued = true) :
    EventRecord.loadField ((assemble found).value.get field) =
      (slotTexts found field).getD [] := by
  have hmem : field ∈ EventRecord.fields := by
    cases field with
    | datetime => decide
    | types => decide
    | _ => cases hfield
  rw [get_assemble, if_pos hmem]
  exact (loadField_slotText field hfield _).1

theorem typeList_assemble (found : Extracted) :
    (assemble found).value.typeList = ((found .types).getD []).map FieldValue.toText := by
  refine (loadField_get_assemble found .types rfl).trans ?_
  simp only [slotTexts]
  cases found .types <;> rfl

/-- Without a date apart, the dates are those of the datetime. -/
theorem datetimes_assemble {found : Extracted} (hdate : found .date = none) :
    (assemble found).value.datetimes = ((found .datetime).getD []).map FieldValue.toText := by
  refine (loadField_get_assemble found .datetime rfl).trans ?_
  simp only [slotTexts, datetimeValues, hdate]
  cases found .datetime <;> rfl

/-- **Values are clean**: those of a field without patterns are not empty, have no white space at
their ends and no space that does not break, are not to be ignored and differ; there is at most one
if the first is kept or they are joined. So are the types and dates of a record. -/
theorem extracted_values_are_clean :
    (∀ (doc : Document) (roots : List Nat) (page : PageRule) (field : EventField)
        (rule : FieldRule), page.fields.get? field.key = some rule → rule.pattern = none →
      ∃ texts, (extractFields doc roots page EventField.all).value.lookup field =
          some (texts.map .text) ∧ IsClean rule.selection texts) ∧
      ∀ (s : Session) (doc : Document) (page : PageRule),
        s.document = some doc → s.template.event = some page →
          ∃ record : EventRecord, s.eventRecord.1 = .ok record ∧
            ((s.template.eventField? .types).bind (·.pattern) = none →
              IsClean (selectionOf (s.template.eventField? .types)) record.typeList) ∧
            (s.template.eventField? .date = none →
              (s.template.eventField? .datetime).bind (·.pattern) = none →
                IsClean (selectionOf (s.template.eventField? .datetime)) record.datetimes) := by
  refine ⟨?_, ?_⟩
  · intro doc roots page field rule hrule hpattern
    obtain ⟨texts, hvalue, hclean⟩ := exists_clean_texts doc roots field hpattern
    refine ⟨texts, ?_, hclean⟩
    have hall : field ∈ EventField.all := by cases field <;> decide
    rw [lookup_extractFields, if_pos hall, hrule, Option.map_some, hvalue]
  · intro s doc page hdoc hpage
    have hrule : ∀ field : EventField,
        s.template.eventField? field = page.fields.get? field.key := by
      intro field
      rw [Template.eventField?, hpage, Option.bind_some]
    refine ⟨(assemble (foundOn doc page)).value, ?_, ?_, ?_⟩
    · rw [eventRecord_answer, hpage, hdoc]
    · intro hpattern
      rw [hrule] at hpattern ⊢
      rw [typeList_assemble]
      exact isClean_foundOn doc hpattern
    · intro hdate hpattern
      rw [hrule] at hdate hpattern
      rw [hrule]
      have hfound : foundOn doc page .date = none := by rw [foundOn, hdate, Option.map_none]
      rw [datetimes_assemble hfound]
      exact isClean_foundOn doc hpattern

/-- A rule that cuts the text of an element at bars. -/
def cutAtBars : FieldRule where
  selection := { selectors := ["."], ignored := ["TBD"], splitter := some "|" }

/-- A page with types and dates between bars. -/
def barredPage : PageRule where
  roots := { selectors := ["/"] }
  fields := .ofList [("datetime", cutAtBars), ("types", cutAtBars)]

/-- A session on a page with blanks, repetitions and an ignored text between bars. -/
def barredSession : Session where
  template := { name := "t", event := some barredPage }
  document := some (.ofMarkup [.text "a|\u00a0a |TBD| |b"])

theorem extracted_values_are_clean_bars :
    (barredPage.fields.get? EventField.types.key = some cutAtBars ∧ cutAtBars.pattern = none ∧
        IsClean cutAtBars.selection ["a", "b"]) ∧
      ((barredSession.template.eventField? .types).bind (·.pattern) = none ∧
        barredSession.template.eventField? .date = none ∧
        (barredSession.template.eventField? .datetime).bind (·.pattern) = none ∧
        ∃ record : EventRecord, barredSession.eventRecord.1 = .ok record ∧
          IsClean cutAtBars.selection record.typeList ∧
          IsClean cutAtBars.selection record.datetimes) := by
  obtain ⟨hvalues, hrecords⟩ := extracted_values_are_clean
  refine ⟨⟨rfl, rfl, ?_⟩, rfl, rfl, rfl, ?_⟩
  · obtain ⟨texts, htexts, hclean⟩ := hvalues (.ofMarkup [.text "a|\u00a0a |TBD| |b"]) [0]
      barredPage .types cutAtBars rfl rfl
    have hfound : (extractFields (.ofMarkup [.text "a|\u00a0a |TBD| |b"]) [0] barredPage
        EventField.all).value.lookup .types = some (["a", "b"].map .text) := by cbv
    have hmap : texts.map FieldValue.text = ["a", "b"].map .text :=
      Option.some.inj (htexts.symm.trans hfound)
    have heq := congrArg (List.map FieldValue.toText) hmap
    rw [map_toText_map_text, map_toText_map_text] at heq
    rwa [heq] at hclean
  · obtain ⟨record, hrecord, htypes, hdates⟩ :=
      hrecords barredSession (.ofMarkup [.text "a|\u00a0a |TBD| |b"]) barredPage rfl rfl
    exact ⟨record, hrecord, htypes rfl, hdates rfl rfl⟩

end Extraction

end Almanac
