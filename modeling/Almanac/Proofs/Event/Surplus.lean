import Almanac.Proofs.Event.DateMerge
import Almanac.Proofs.Session.History

/-!
# Fields with more values than they can hold

Five fields of a record hold one value. Where more are found for one of them, its slot holds the
first and this is remarked on (`mem_remarks_recordOf`); no other remark has the same message
(`Remark.eq_of_message_surplus`), so that the message is among the diagnostics exactly where there
are several values (`surplus_recorded_iff`). How many there can be follows from the rule of the
field: cutting down and joining leave one text, and each pattern that can be read captures at most
one value of a text (`length_extractField_le`).
-/

namespace Almanac

open Text

/-- The fields of a record that hold one value. -/
def EventField.singleValued : List EventField := [.title, .perex, .location, .gps, .organizer]

/-- The fields that hold one value are those of a record that do not hold several. -/
theorem EventField.mem_singleValued_iff (field : EventField) :
    field ∈ singleValued ↔ field ∈ EventRecord.fields ∧ field.isMultiValued = false := by
  cases field <;> decide

/-- What is said of a field with more values than it can hold. -/
def EventField.surplusMessage (field : EventField) : String :=
  field.key ++ " does not expect more than one value"

/-- One text at most is selected, and one value at most is captured of it. -/
def FieldRule.HoldsOne (rule : FieldRule) : Prop :=
  let selectsOne := rule.selection.keep = .first ∨ rule.selection.joiner.isSome = true
  match rule.pattern with
  | none => selectsOne
  | some pattern =>
    pattern.keep = .first ∨
      selectsOne ∧ (pattern.patterns.filterMap Pattern.read?).length ≤ 1

/-! ## Messages -/

namespace Remark

theorem message_surplus (field : EventField) : (surplus field).message = field.surplusMessage := by
  apply String.toList_injective
  simp [message, concat, EventField.surplusMessage]

/-- Only the remark itself has its message: the others do not begin with the name of a field. -/
theorem eq_of_message_surplus {remark : Remark} {field : EventField}
    (h : remark.message = field.surplusMessage) : remark = surplus field := by
  have hfirst : remark.message.toList.head? = field.key.toList.head? := by
    rw [h]
    cases field <;> rfl
  cases remark with
  | surplus other =>
    rw [message_surplus] at h
    have hkey := congrArg String.toList h
    simp only [EventField.surplusMessage, String.toList_append, List.append_cancel_right_eq]
      at hkey
    rw [EventField.key_injective (String.toList_injective hkey)]
  | _ =>
    simp only [message, concat, String.toList_ofList, List.map_cons, List.flatten_cons] at hfirst
    cases field <;> cases hfirst

end Remark

theorem Diagnostics.contains_pushAll_empty (messages : List String) (message : String) :
    (empty.pushAll messages).contains message = true ↔ message ∈ messages := by
  simp [contains, messages_pushAll, empty]

/-! ## Where the remark is made -/

/-- None of the remarks is that a field has too many values. -/
def Noted.NoSurplus {α : Type} (n : Noted α) : Prop := ∀ field, .surplus field ∉ n.remarks

namespace Noted

variable {α β : Type}

/-- Work after work that reports no surplus reports none if neither does. -/
theorem NoSurplus.bind {n : Noted α} {next : α → Noted β} (h : n.NoSurplus)
    (hnext : (next n.value).NoSurplus) : (n.bind next).NoSurplus := by
  intro field hmem
  rcases List.mem_append.mp hmem with hmem | hmem
  · exact h field hmem
  · exact hnext field hmem

theorem noSurplus_nil (value : α) : NoSurplus ⟨value, []⟩ := fun _ => List.not_mem_nil

/-- Reading things reports no surplus if no remark on them does. -/
theorem noSurplus_readAll {read : α → Except Remark β}
    (h : ∀ a field, read a ≠ .error (.surplus field)) (items : List α) :
    (readAll read items).NoSurplus := by
  intro field hmem
  obtain ⟨a, -, ha⟩ := List.mem_filterMap.mp hmem
  cases hread : read a with
  | ok b => simp [hread] at ha
  | error remark =>
    simp only [hread, Option.some.injEq] at ha
    exact h a field (hread.trans (congrArg Except.error ha))

end Noted

namespace Extraction

theorem noSurplus_readSelectors (owner : String) (sources : List String) :
    (readSelectors owner sources).NoSurplus := by
  refine Noted.noSurplus_readAll (fun source field h => ?_) sources
  cases hcompile : Selector.compile source <;> simp [hcompile, Except.mapError] at h

theorem noSurplus_findRoots (doc : Document) (page : Page) (rule : SelectorRule) :
    (findRoots doc page rule).NoSurplus := by
  refine Noted.NoSurplus.bind (noSurplus_readSelectors _ _) ?_
  dsimp only
  split
  · intro field hmem
    cases List.mem_singleton.mp hmem
  · exact Noted.noSurplus_nil _

theorem noSurplus_capture (rule : PatternRule) (field : String) (values : List String) :
    (capture rule field values).NoSurplus := by
  unfold capture
  split
  · exact Noted.noSurplus_nil _
  · refine Noted.NoSurplus.bind (Noted.noSurplus_readAll (fun source other h => ?_) _) ?_
    · unfold readPattern at h
      split at h <;> cases h
    · dsimp only
      split
      · exact Noted.noSurplus_nil _
      · refine Noted.NoSurplus.bind (Noted.noSurplus_readAll (fun group other h => ?_) _)
          (Noted.noSurplus_nil _)
        unfold readGroup at h
        split at h <;> cases h

theorem noSurplus_extractField (doc : Document) (roots : List Nat) (field : EventField)
    (rule : FieldRule) : (extractField doc roots field rule).NoSurplus := by
  refine Noted.NoSurplus.bind ?_ ?_
  · split
    · exact Noted.noSurplus_nil _
    · exact Noted.NoSurplus.bind (noSurplus_readSelectors _ _) (Noted.noSurplus_nil _)
  · unfold fieldValues
    split
    · exact Noted.noSurplus_nil _
    · exact noSurplus_capture _ _ _

theorem noSurplus_extractFields (doc : Document) (roots : List Nat) (page : PageRule)
    (fields : List EventField) : (extractFields doc roots page fields).NoSurplus := by
  induction fields with
  | nil => exact Noted.noSurplus_nil _
  | cons field fields ih =>
    rw [extractFields]
    split
    · exact ih
    · exact Noted.NoSurplus.bind (noSurplus_extractField _ _ _ _)
        (Noted.NoSurplus.bind ih (Noted.noSurplus_nil _))

/-- The remark is made of the fields of the record that have too many texts, and of no others. -/
theorem mem_remarks_recordOf (doc : Document) (page : PageRule) (field : EventField) :
    .surplus field ∈ (recordOf doc page).remarks ↔
      field ∈ EventRecord.fields ∧ hasSurplus (foundOn doc page) field = true := by
  rw [recordOf_eq, List.mem_append, List.mem_append]
  have hroots := noSurplus_findRoots doc .event page.roots field
  have hfields := noSurplus_extractFields doc (findRoots doc .event page.roots).value page
    EventField.all field
  simp [hroots, hfields, assemble]

/-! ## How many values there are -/

theorem length_flatMap_filterMap_le {α β γ : Type} (f : α → β → Option γ) (as : List α)
    (bs : List β) : (as.flatMap fun a => bs.filterMap (f a)).length ≤ as.length * bs.length := by
  induction as with
  | nil => simp
  | cons a as ih =>
    have hfirst := List.length_filterMap_le (f a) bs
    rw [List.flatMap_cons, List.length_append, List.length_cons, Nat.succ_mul]
    omega

theorem length_apply_le {α : Type} (keep : Keep) (items : List α) :
    (keep.apply items).length ≤ items.length := by
  cases keep with
  | all => exact Nat.le_refl _
  | first => exact List.length_take_le' 1 items

theorem value_readPatterns (field : String) (patterns : List String) :
    (Noted.readAll (readPattern field) patterns).value = patterns.filterMap Pattern.read? := by
  refine List.filterMap_congr fun source _ => ?_
  unfold readPattern
  cases Pattern.read? source <;> rfl

/-- Patterns capture at most one value each of every text. -/
theorem length_capture_le (rule : PatternRule) (field : String) (values : List String) :
    ∃ captured : List FieldValue, (capture rule field values).value = rule.keep.apply captured ∧
      captured.length ≤ values.length * (rule.patterns.filterMap Pattern.read?).length := by
  unfold capture
  split
  · exact ⟨[], by cases rule.keep <;> rfl, Nat.zero_le _⟩
  · simp only [Noted.bind, value_readPatterns]
    rw [← List.length_map Pattern.program]
    split
    · exact ⟨_, rfl, length_flatMap_filterMap_le _ _ _⟩
    · exact ⟨_, rfl, length_flatMap_filterMap_le _ _ _⟩

/-- One value at most is left of a field with a rule for one. -/
theorem length_extractField_le (doc : Document) (roots : List Nat) (field : EventField)
    {rule : FieldRule} (h : rule.HoldsOne) :
    (extractField doc roots field rule).value.length ≤ 1 := by
  unfold extractField FieldRule.HoldsOne at *
  dsimp only [Noted.bind] at *
  generalize (if roots.isEmpty then _ else selectTexts doc roots field.key rule.selection).value =
    found
  have htexts := (isClean_fieldTexts rule.selection found).single
  generalize fieldTexts rule.selection found = texts at htexts
  cases hpattern : rule.pattern with
  | none =>
    rw [hpattern] at h
    rw [fieldValues, List.length_map]
    exact htexts h
  | some pattern =>
    rw [hpattern] at h
    obtain ⟨captured, hvalue, hlength⟩ := length_capture_le pattern field.key texts
    rw [fieldValues, hvalue]
    rcases h with hfirst | ⟨hone, hpatterns⟩
    · rw [hfirst]
      exact length_apply_first_le captured
    · calc (pattern.keep.apply captured).length
          ≤ captured.length := length_apply_le _ _
        _ ≤ texts.length * (pattern.patterns.filterMap Pattern.read?).length := hlength
        _ ≤ 1 * 1 := Nat.mul_le_mul (htexts hone) hpatterns

end Extraction

open Extraction

/-! ## Sessions -/

namespace Session

/-- The texts that a field of one value has for its slot; of coordinates, those that are some. -/
def slotValues (s : Session) (field : EventField) : List String :=
  if field = .gps then (s.eventValues field).filterMap coordinates?
  else (s.eventValues field).map FieldValue.toText

section OnPage

variable {s : Session} {doc : Document} (hdoc : s.document = some doc) {page : PageRule}
  (hpage : s.template.event = some page) {field : EventField}

include hdoc hpage

theorem getD_slotTexts (hfield : field ∈ EventField.singleValued) :
    (slotTexts (foundOn doc page) field).getD [] = s.slotValues field := by
  rw [slotValues, (eventRecord_of_page hdoc hpage).2.1]
  cases field with
  | date | time | datetime | types => simp [EventField.singleValued] at hfield
  | gps => exact Option.getD_map (List.filterMap coordinates?) [] _
  | title | perex | location | organizer => exact Option.getD_map (List.map FieldValue.toText) [] _

/-- A surplus is that of at least two values of a field that holds one. -/
theorem hasSurplus_iff :
    field ∈ EventRecord.fields ∧ hasSurplus (foundOn doc page) field = true ↔
      field ∈ EventField.singleValued ∧ 2 ≤ (s.slotValues field).length := by
  by_cases hfield : field ∈ EventField.singleValued
  · obtain ⟨hmem, hsingle⟩ := field.mem_singleValued_iff.mp hfield
    rw [← getD_slotTexts hdoc hpage hfield, hasSurplus, hsingle]
    cases slotTexts (foundOn doc page) field <;> simp [hmem, hfield, Nat.succ_le_iff]
  · simp only [hfield, false_and, iff_false, not_and]
    intro hmem hsurplus
    rw [hasSurplus, Bool.and_eq_true, Bool.not_eq_true'] at hsurplus
    exact hfield (field.mem_singleValued_iff.mpr ⟨hmem, hsurplus.1⟩)

/-- A field that has values has a rule. -/
theorem isSome_eventField? (h : s.slotValues field ≠ []) :
    (s.template.eventField? field).isSome = true := by
  obtain ⟨-, hvalues, hrule⟩ := eventRecord_of_page hdoc hpage
  rw [Option.isSome_iff_ne_none]
  intro hnone
  apply h
  rw [slotValues, hvalues, (hrule field).mp hnone]
  split <;> rfl

theorem length_slotValues_le {rule : FieldRule}
    (hrule : s.template.eventField? field = some rule) (h : rule.HoldsOne) :
    (s.slotValues field).length ≤ 1 := by
  have hget : page.fields.get? field.key = some rule := by
    rw [Template.eventField?, hpage, Option.bind_some] at hrule
    exact hrule
  have hvalues : (s.eventValues field).length ≤ 1 := by
    rw [(eventRecord_of_page hdoc hpage).2.1, foundOn, hget, Option.map_some, Option.getD_some]
    exact length_extractField_le doc _ field h
  unfold slotValues
  split
  · exact Nat.le_trans (List.length_filterMap_le _ _) hvalues
  · rwa [List.length_map]

/-- A surplus is among the diagnostics just where there is one. -/
theorem contains_surplusMessage_iff (hempty : s.diagnostics = .empty) :
    s.eventRecord.2.diagnostics.contains field.surplusMessage = true ↔
      field ∈ EventField.singleValued ∧ 2 ≤ (s.slotValues field).length := by
  have hdiagnostics : s.eventRecord.2.diagnostics =
      Diagnostics.empty.pushAll ((recordOf doc page).remarks.map Remark.message) := by
    rw [eventRecord, hdoc, eventRecord_eq_recordOf hpage, ← hempty]
    rfl
  rw [hdiagnostics, Diagnostics.contains_pushAll_empty, ← hasSurplus_iff hdoc hpage,
    ← mem_remarks_recordOf, List.mem_map]
  constructor
  · rintro ⟨remark, hmem, hmessage⟩
    rwa [Remark.eq_of_message_surplus hmessage] at hmem
  · intro hmem
    exact ⟨_, hmem, Remark.message_surplus field⟩

/-- The record holds the first value of each field that holds one. -/
theorem exists_get_eq_head? (hfield : field ∈ EventField.singleValued) :
    ∃ record, s.eventRecord.1 = .ok record ∧ record.get field = (s.slotValues field).head? := by
  obtain ⟨hmem, hsingle⟩ := field.mem_singleValued_iff.mp hfield
  refine ⟨_, (eventRecord_of_page hdoc hpage).1, ?_⟩
  rw [get_assemble, if_pos hmem, ← getD_slotTexts hdoc hpage hfield]
  cases slotTexts (foundOn doc page) field with
  | none => rfl
  | some texts => cases texts <;> simp [slotText, hsingle]

end OnPage

/-- Without a document or rules for the event page nothing is found and nothing remarked on. -/
theorem eventRecord_of_no_page {s : Session} (h : s.document = none ∨ s.template.event = none)
    (field : EventField) :
    s.eventRecord.2.diagnostics = s.diagnostics ∧ s.slotValues field = [] := by
  have hvalues : s.eventValues field = [] := by
    unfold eventValues
    rcases h with h | h <;> rw [h]
    cases s.document <;> rfl
  refine ⟨?_, by unfold slotValues; rw [hvalues]; split <;> rfl⟩
  unfold eventRecord Extraction.eventRecord Template.page Template.page?
  rcases h with h | h <;> rw [h]
  · cases s.template.event <;> rfl
  · rfl

end Session

/-- **Surplus values are reported exactly** for the fields that hold one value, have a rule and have
at least two values left, for the coordinates two that are some; the slot then holds the first. A
field of which one value at most can be left is never reported. -/
theorem surplus_recorded_iff (s : Session) (hempty : s.diagnostics = .empty)
    (field : EventField) :
    let recorded := s.eventRecord.2.diagnostics.contains
      (field.key ++ " does not expect more than one value")
    (recorded = true ↔
      field ∈ [.title, .perex, .location, .gps, .organizer] ∧
        (s.template.eventField? field).isSome = true ∧ 2 ≤ (s.slotValues field).length) ∧
    (recorded = true → ∃ record, s.eventRecord.1 = .ok record ∧
      record.get field = (s.slotValues field).head?) ∧
    ∀ rule, s.template.eventField? field = some rule → rule.HoldsOne → recorded = false := by
  intro recorded
  by_cases hpage : s.document = none ∨ s.template.event = none
  · obtain ⟨hdiagnostics, hvalues⟩ := Session.eventRecord_of_no_page hpage field
    have hrecorded : recorded = false := by
      simp only [recorded, hdiagnostics, hempty]
      rfl
    simp [hrecorded, hvalues]
  · simp only [not_or, ← ne_eq, Option.ne_none_iff_exists'] at hpage
    obtain ⟨⟨doc, hdoc⟩, page, hpage⟩ := hpage
    have hiff : recorded = true ↔ field ∈ EventField.singleValued ∧
        2 ≤ (s.slotValues field).length :=
      Session.contains_surplusMessage_iff hdoc hpage hempty
    refine ⟨?_, ?_, ?_⟩
    · rw [hiff]
      constructor
      · rintro ⟨hfield, hlength⟩
        refine ⟨hfield, Session.isSome_eventField? hdoc hpage ?_, hlength⟩
        exact List.ne_nil_of_length_pos (by omega)
      · rintro ⟨hfield, -, hlength⟩
        exact ⟨hfield, hlength⟩
    · intro hrecorded
      exact Session.exists_get_eq_head? hdoc hpage (hiff.mp hrecorded).1
    · intro rule hrule hone
      have hlength := Session.length_slotValues_le hdoc hpage hrule hone
      rw [Bool.eq_false_iff, ne_eq, hiff]
      rintro ⟨-, htwo⟩
      omega

/-- A page that looks for its paragraphs three times, once to join them. -/
def thriceRead : PageRule where
  roots := { selectors := ["/"] }
  fields := .ofList [("gps", { selection := { selectors := ["p"] } }),
    ("location", { selection := { selectors := ["p"], joiner := some "+" } }),
    ("title", { selection := { selectors := ["p"] } })]

/-- Of two paragraphs one holds coordinates: two titles are too many, one pair is not. -/
theorem surplus_recorded_iff_paragraphs :
    let s : Session :=
      { template := { name := "t", event := some thriceRead }
        document := some (.ofMarkup [.element "p" [] [.text "x"], .element "p" [] [.text "1,2"]]) }
    let recorded := s.eventRecord.2.diagnostics.contains
    s.diagnostics = .empty ∧
      recorded "title does not expect more than one value" = true ∧
      (∃ record, s.eventRecord.1 = .ok record ∧ record.title = some "x") ∧
      recorded "gps does not expect more than one value" = false ∧
      (∃ rule, s.template.eventField? .location = some rule ∧ rule.HoldsOne) ∧
      recorded "location does not expect more than one value" = false := by
  intro s recorded
  have htitles : s.slotValues .title = ["x", "1,2"] := by cbv
  have hpairs : s.slotValues .gps = ["1,2"] := by cbv
  obtain ⟨htitle, hslot, -⟩ := surplus_recorded_iff s rfl .title
  have hrecorded := htitle.mpr ⟨by decide, rfl, by rw [htitles]; decide⟩
  have hfirst := hslot hrecorded
  rw [htitles] at hfirst
  have hgps := (surplus_recorded_iff s rfl .gps).1
  rw [hpairs] at hgps
  have hone : ∃ rule, s.template.eventField? .location = some rule ∧ rule.HoldsOne :=
    ⟨_, rfl, .inr rfl⟩
  obtain ⟨rule, hrule, hholds⟩ := hone
  refine ⟨rfl, hrecorded, hfirst, ?_, ⟨rule, hrule, hholds⟩, ?_⟩
  · rw [Bool.eq_false_iff]
    intro h
    exact absurd (hgps.mp h).2.2 (by decide)
  · exact (surplus_recorded_iff s rfl .location).2.2 rule hrule hholds

end Almanac
