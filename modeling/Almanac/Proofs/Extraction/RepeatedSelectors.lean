import Almanac.Proofs.Event.Independence
import Almanac.Proofs.Repetitions
import Almanac.Proofs.Session.History

/-!
# Selectors that are given again

Giving a selector of an event page a second time, behind the others, adds nothing that has not been
found before. Among the root selectors it repeats roots at the end (`findRoots_andAlso`), and a
field finds in them what it has found already. Among the selectors of a field it repeats texts at
the end of what each root gives (`selectTexts_andAlso`). In both cases the texts keep their first
places, and cleaning leaves nothing else of them before they are cut down, joined or split
(`sanitize_congr`). A selector that is none is remarked on again, and a message is recorded once.
So the record and the diagnostics stay as they are (`eventRecord_andAlso`).
-/

namespace Almanac

/-! ## Changed templates -/

/-- The rule with one more selector, tried after the others. -/
def SelectorRule.andAlso (rule : SelectorRule) (source : String) : SelectorRule :=
  { rule with selectors := rule.selectors ++ [source] }

/-- The rule of a field with one more selector. -/
def FieldRule.andAlso (rule : FieldRule) (source : String) : FieldRule :=
  { rule with selection := rule.selection.andAlso source }

/-- The page with one more root selector. -/
def PageRule.rootAndAlso (page : PageRule) (source : String) : PageRule :=
  { page with roots := page.roots.andAlso source }

/-- The template with one more root selector of the event page. -/
def Template.rootAndAlso (t : Template) (source : String) : Template :=
  { t with event := t.event.map (·.rootAndAlso source) }

/-- The template with one more selector for a field of the event page that has a rule. -/
def Template.fieldAndAlso (t : Template) (field : EventField) (source : String) : Template :=
  t.setField field ((t.eventField? field).map (·.andAlso source))

namespace Noted

variable {α β : Type}

/-- The same value, and remarks with the same first places. -/
def Alike (n m : Noted α) : Prop := n.value = m.value ∧ SameFirsts n.remarks m.remarks

theorem Alike.refl (n : Noted α) : n.Alike n := ⟨rfl, rfl⟩

/-- Going on alike from values that need not be the same. -/
theorem Alike.bind {n m : Noted α} {next next' : α → Noted β}
    (hremarks : SameFirsts n.remarks m.remarks) (h : (next n.value).Alike (next' m.value)) :
    (n.bind next).Alike (m.bind next') :=
  ⟨h.1, hremarks.append h.2⟩

end Noted

namespace Diagnostics

/-- Of messages with the same first places the same is recorded. -/
theorem pushAll_congr (d : Diagnostics) {messages messages' : List String}
    (h : SameFirsts messages messages') : d.pushAll messages = d.pushAll messages' := by
  have hmessages : (d.pushAll messages).messages = (d.pushAll messages').messages := by
    rw [messages_pushAll, messages_pushAll]
    exact congrArg (d.messages ++ ·) (h.filter _)
  cases hd : d.pushAll messages
  cases hd' : d.pushAll messages'
  rw [hd, hd'] at hmessages
  exact congrArg Diagnostics.mk hmessages

end Diagnostics

/-- What is found again comes behind the rest, so that it is not the first. -/
theorem Keep.apply_withRepeats {α : Type} (keep : Keep) {found found' : List α}
    (h : WithRepeats found found') : WithRepeats (keep.apply found) (keep.apply found') := by
  cases keep with
  | all => exact h
  | first =>
    refine ⟨[], List.nil_subset _, ?_⟩
    rw [List.append_nil]
    exact h.take_one

namespace Extraction

/-! ## Selectors -/

section Selectors

variable {rule : SelectorRule} {source : String} (hsource : source ∈ rule.selectors)

include hsource in
theorem readSelectors_andAlso (owner : String) :
    WithRepeats (readSelectors owner rule.selectors).value
        (readSelectors owner (rule.andAlso source).selectors).value ∧
      SameFirsts (readSelectors owner (rule.andAlso source).selectors).remarks
        (readSelectors owner rule.selectors).remarks :=
  have hagain : WithRepeats rule.selectors (rule.andAlso source).selectors := .singleton hsource
  ⟨hagain.filterMap _, (hagain.filterMap _).sameFirsts⟩

include hsource in
theorem findRoots_andAlso (doc : Document) (page : Page) :
    WithRepeats (findRoots doc page rule).value (findRoots doc page (rule.andAlso source)).value ∧
      SameFirsts (findRoots doc page (rule.andAlso source)).remarks
        (findRoots doc page rule).remarks := by
  obtain ⟨hvalue, hremarks⟩ := readSelectors_andAlso hsource "root"
  have hfound := hvalue.flatMap fun selector => Selector.selectNodes doc selector 0
  simp only [findRoots, Noted.bind]
  rw [hfound.isEmpty_eq]
  split
  · exact ⟨⟨[], List.nil_subset _, rfl⟩, hremarks.append rfl⟩
  · exact ⟨Keep.apply_withRepeats rule.keep hfound, hremarks.append rfl⟩

include hsource in
/-- In every root the texts that are found again come behind those of the other selectors. -/
theorem selectTexts_andAlso (doc : Document) (roots : List Nat) (field : String) :
    SameFirsts (selectTexts doc roots field (rule.andAlso source)).value
        (selectTexts doc roots field rule).value ∧
      SameFirsts (selectTexts doc roots field (rule.andAlso source)).remarks
        (selectTexts doc roots field rule).remarks := by
  obtain ⟨hvalue, hremarks⟩ := readSelectors_andAlso hsource field
  refine ⟨SameFirsts.flatMap fun root _ => ?_, hremarks.append rfl⟩
  exact (hvalue.flatMap fun selector => Selector.selectStrings doc selector root).sameFirsts

end Selectors

/-! ## Values of a field -/

/-- Cleaning looks only at the first places of texts. -/
theorem sanitize_congr (ignored : List String) {found found' : List String}
    (h : SameFirsts found found') : sanitize ignored found = sanitize ignored found' :=
  (h.map clean).filter _

/-- A field has the same values in roots that are repeated. -/
theorem extractField_withRepeats (doc : Document) (field : EventField) (rule : FieldRule)
    {roots roots' : List Nat} (h : WithRepeats roots roots') :
    extractField doc roots' field rule = extractField doc roots field rule := by
  have htexts := (h.flatMap fun root =>
    (readSelectors field.key rule.selection.selectors).value.flatMap fun selector =>
      Selector.selectStrings doc selector root).sameFirsts
  unfold extractField
  rw [h.isEmpty_eq]
  split
  · rfl
  · simp only [selectTexts, Noted.bind, fieldTexts, sanitize_congr _ htexts]

theorem extractField_andAlso (doc : Document) (roots : List Nat) (field : EventField)
    {rule : FieldRule} {source : String} (hsource : source ∈ rule.selection.selectors) :
    (extractField doc roots field (rule.andAlso source)).Alike
      (extractField doc roots field rule) := by
  unfold extractField
  split
  · exact Noted.Alike.refl _
  · obtain ⟨hvalue, hremarks⟩ := selectTexts_andAlso hsource doc roots field.key
    refine Noted.Alike.bind hremarks ?_
    have htexts := sanitize_congr rule.selection.ignored hvalue
    have hsame : fieldTexts (rule.selection.andAlso source)
          (selectTexts doc roots field.key (rule.selection.andAlso source)).value =
        fieldTexts rule.selection (selectTexts doc roots field.key rule.selection).value :=
      congrArg (fun texts => sanitize rule.selection.ignored (shape rule.selection texts)) htexts
    show (fieldValues rule.pattern field.key _).Alike _
    simp only [FieldRule.andAlso, hsame]
    exact Noted.Alike.refl _

/-! ## Pages -/

theorem extractFields_withRepeats (doc : Document) {page page' : PageRule}
    (hfields : page'.fields = page.fields) {roots roots' : List Nat} (h : WithRepeats roots roots')
    (fields : List EventField) :
    extractFields doc roots' page' fields = extractFields doc roots page fields := by
  induction fields with
  | nil => rfl
  | cons field fields ih =>
    simp only [extractFields, hfields, ih, extractField_withRepeats doc field _ h]

theorem extractFields_andAlso (doc : Document) (roots : List Nat) (page : PageRule)
    {field : EventField} {rule : FieldRule} (hrule : page.fields.get? field.key = some rule)
    {source : String} (hsource : source ∈ rule.selection.selectors) (fields : List EventField) :
    (extractFields doc roots (page.setField field (some (rule.andAlso source))) fields).Alike
      (extractFields doc roots page fields) := by
  induction fields with
  | nil => exact Noted.Alike.refl _
  | cons other fields ih =>
    by_cases hother : other = field
    · subst hother
      have hchanged : (page.setField other (some (rule.andAlso source))).fields.get? other.key =
          some (rule.andAlso source) := by
        rw [PageRule.setField, Dictionary.get?_set, if_pos rfl]
      obtain ⟨hvalue, hremarks⟩ := extractField_andAlso doc roots other hsource
      rw [extractFields, extractFields, hchanged, hrule]
      refine Noted.Alike.bind hremarks ?_
      rw [hvalue]
      exact Noted.Alike.bind ih.2 (by rw [ih.1]; exact Noted.Alike.refl _)
    · rw [extractFields, extractFields, page.get?_setField hother]
      cases page.fields.get? other.key with
      | none => exact ih
      | some found =>
        refine Noted.Alike.bind rfl ?_
        exact Noted.Alike.bind ih.2 (by rw [ih.1]; exact Noted.Alike.refl _)

theorem recordOf_rootAndAlso (doc : Document) {page : PageRule} {source : String}
    (hsource : source ∈ page.roots.selectors) :
    (recordOf doc (page.rootAndAlso source)).Alike (recordOf doc page) := by
  obtain ⟨hroots, hremarks⟩ := findRoots_andAlso hsource doc .event
  refine Noted.Alike.bind hremarks ?_
  have hfields : (page.rootAndAlso source).fields = page.fields := rfl
  have hroot : (page.rootAndAlso source).roots = page.roots.andAlso source := rfl
  rw [hroot, extractFields_withRepeats doc hfields hroots]
  exact Noted.Alike.refl _

theorem recordOf_andAlso (doc : Document) {page : PageRule} {field : EventField} {rule : FieldRule}
    (hrule : page.fields.get? field.key = some rule) {source : String}
    (hsource : source ∈ rule.selection.selectors) :
    (recordOf doc (page.setField field (some (rule.andAlso source)))).Alike
      (recordOf doc page) := by
  have hroots : (page.setField field (some (rule.andAlso source))).roots = page.roots := rfl
  unfold recordOf
  rw [hroots]
  refine Noted.Alike.bind rfl ?_
  obtain ⟨hvalue, hremarks⟩ := extractFields_andAlso doc
    (findRoots doc .event page.roots).value page hrule hsource EventField.all
  refine Noted.Alike.bind hremarks ?_
  rw [hvalue]
  exact Noted.Alike.refl _

end Extraction

open Extraction

namespace Session

/-- Pages with records and remarks that are alike give the same answers and diagnostics. -/
theorem eventRecord_congr (s : Session) {template : Template} {page page' : PageRule}
    (hpage : s.template.event = some page) (hpage' : template.event = some page')
    (h : ∀ doc, (recordOf doc page').Alike (recordOf doc page)) :
    let changed : Session := { s with template }
    changed.eventRecord.1 = s.eventRecord.1 ∧
      changed.eventRecord.2.diagnostics = s.eventRecord.2.diagnostics := by
  intro changed
  have hdocument : changed.document = s.document := rfl
  have hdiagnostics : changed.diagnostics = s.diagnostics := rfl
  unfold eventRecord
  rw [hdocument]
  cases s.document with
  | none =>
    simp only [Extraction.eventRecord, Template.page, Template.page?, hpage, hpage', changed,
      required]
    exact ⟨rfl, rfl⟩
  | some doc =>
    obtain ⟨hvalue, hremarks⟩ := h doc
    rw [eventRecord_eq_recordOf hpage, eventRecord_eq_recordOf hpage']
    refine ⟨congrArg Except.ok hvalue, ?_⟩
    simp only [conclude, note, hdiagnostics]
    exact s.diagnostics.pushAll_congr (hremarks.map Remark.message)

end Session

/-- **Repeating a selector is harmless**: where a root selector of the event page, or a selector of
one of its fields, is given once more behind the others, the record, or the error, and the
diagnostics are the same. -/
theorem eventRecord_andAlso (s : Session) (source : String) :
    (∀ page, s.template.event = some page → source ∈ page.roots.selectors →
      let changed : Session := { s with template := s.template.rootAndAlso source }
      changed.eventRecord.1 = s.eventRecord.1 ∧
        changed.eventRecord.2.diagnostics = s.eventRecord.2.diagnostics) ∧
    ∀ field rule, s.template.eventField? field = some rule →
      source ∈ rule.selection.selectors →
      let changed : Session := { s with template := s.template.fieldAndAlso field source }
      changed.eventRecord.1 = s.eventRecord.1 ∧
        changed.eventRecord.2.diagnostics = s.eventRecord.2.diagnostics := by
  constructor
  · intro page hpage hsource
    refine s.eventRecord_congr hpage ?_ fun doc => recordOf_rootAndAlso doc hsource
    rw [Template.rootAndAlso, hpage, Option.map_some]
  · intro field rule hrule hsource
    obtain ⟨page, hpage, hget⟩ := Option.bind_eq_some_iff.mp hrule
    refine s.eventRecord_congr hpage ?_ fun doc => recordOf_andAlso doc hget hsource
    rw [Template.fieldAndAlso, Template.setField, hrule, hpage]
    rfl

/-- A page that looks for paragraphs with a selector that finds them and with one that is none. -/
def paragraphs : PageRule where
  roots := { selectors := ["/"] }
  fields := .ofList
    [("title", { selection := { selectors := ["p", "//["], joiner := some "+" } })]

theorem eventRecord_andAlso_paragraphs :
    let doc := Document.ofMarkup [.element "p" [] [.text "x"], .element "p" [] [.text "y"]]
    let s : Session :=
      { template := { name := "t", event := some paragraphs }, document := some doc }
    let rooted : Session := { s with template := s.template.rootAndAlso "/" }
    let titled : Session := { s with template := s.template.fieldAndAlso .title "//[" }
    "/" ∈ paragraphs.roots.selectors ∧
      (∃ rule, s.template.eventField? .title = some rule ∧ "//[" ∈ rule.selection.selectors) ∧
      rooted.eventRecord.1.map (·.title) = .ok (some "x+y") ∧
      rooted.eventRecord.2.diagnostics = s.eventRecord.2.diagnostics ∧
      titled.eventRecord.1.map (·.title) = .ok (some "x+y") ∧
      titled.eventRecord.2.diagnostics = s.eventRecord.2.diagnostics := by
  intro doc s rooted titled
  have htitle : (recordOf doc paragraphs).value.title = some "x+y" := by cbv
  have hanswer : s.eventRecord.1.map (·.title) = .ok (some "x+y") := congrArg Except.ok htitle
  obtain ⟨hroot, hrootDiagnostics⟩ := (eventRecord_andAlso s "/").1 paragraphs rfl (by decide)
  obtain ⟨hfield, hfieldDiagnostics⟩ :=
    (eventRecord_andAlso s "//[").2 .title _ rfl (by decide)
  refine ⟨by decide, ⟨_, rfl, by decide⟩, ?_, hrootDiagnostics, ?_, hfieldDiagnostics⟩
  · rw [hroot, hanswer]
  · rw [hfield, hanswer]

end Almanac
