import Almanac.Proofs.Session.Failure

/-!
# Calls with the diagnostics in place

The calls of a session as they run: what is remarked on is recorded at once, and an error ends a
call with the diagnostics as they are by then. Work on a page cannot fail (`Recording`), only what
comes before it can (`Call`).

Such work gives the value of the work that notes its remarks, and records all of them in order
(`recorded`). A call fails before anything is recorded, so it comes to the same as the call that
drops its remarks with an error (`runOn_concluded`, `step_eq`).
-/

namespace Almanac.InPlace

open Extraction

variable {α β : Type}

/-- Work that records remarks and cannot fail. -/
abbrev Recording (α : Type) : Type := StateM Diagnostics α

/-- A call that can fail. What was recorded before an error stays recorded. -/
abbrev Call (α : Type) : Type := ExceptT Error (StateM Diagnostics) α

/-- Records a remark. -/
def remark (r : Remark) : Recording Unit := modify (·.push r.message)

/-! ## Work on a page -/

/-- What can be read of some things; each of the others is remarked on when its turn comes. -/
def readAll (read : α → Except Remark β) : List α → Recording (List β)
  | [] => return []
  | a :: rest =>
    match read a with
    | .ok b => return b :: (← readAll read rest)
    | .error r => do
      remark r
      readAll read rest

/-- The selectors of a rule. -/
def readSelectors (owner : String) (sources : List String) : Recording (List Selector.Expr) :=
  readAll (fun source => (Selector.compile source).mapError (Remark.invalidSelector source owner))
    sources

/-- The elements of a page that are searched. -/
def findRoots (doc : Document) (page : Page) (rule : SelectorRule) : Recording (List Nat) := do
  let selectors ← readSelectors "root" rule.selectors
  let found := selectors.flatMap fun selector => Selector.selectNodes doc selector 0
  if found.isEmpty then
    remark (.noRoot page)
    return []
  else return rule.keep.apply found

/-- The texts that the selectors of a field find in each root. -/
def selectTexts (doc : Document) (roots : List Nat) (field : String) (rule : SelectorRule) :
    Recording (List String) := do
  let selectors ← readSelectors field rule.selectors
  return roots.flatMap fun root =>
    selectors.flatMap fun selector => Selector.selectStrings doc selector root

/-- The links that a rule finds in the roots. -/
def linksIn (doc : Document) (roots : List Nat) (rule : FieldRule) : Recording (List String) := do
  let found ← selectTexts doc roots eventLinkKey rule.selection
  let links := (found.map Text.trim).filter (!·.isEmpty)
  if links.isEmpty then remark .noLinks
  return links

/-- What the patterns of a field capture of each of its values. -/
def capture (rule : PatternRule) (field : String) (values : List String) :
    Recording (List FieldValue) := do
  if values.isEmpty then return []
  else
    let patterns ← readAll (readPattern field) rule.patterns
    let programs := patterns.map Pattern.program
    let capturedWith (groups : Option (List (Nat × String))) : List FieldValue :=
      rule.keep.apply (values.flatMap fun value =>
        programs.filterMap fun program => (program.find? value).bind (keepMatch groups))
    match rule.groups with
    | none => return capturedWith none
    | some groups => return capturedWith (some (← readAll (readGroup field) groups.entries))

/-- The values of a field from its texts. -/
def fieldValues (rule : Option PatternRule) (field : String) (texts : List String) :
    Recording (List FieldValue) :=
  match rule with
  | none => return texts.map .text
  | some rule => capture rule field texts

/-- The values of a field, none if there are no roots. -/
def extractField (doc : Document) (roots : List Nat) (field : EventField) (rule : FieldRule) :
    Recording (List FieldValue) := do
  let found ← if roots.isEmpty then pure [] else selectTexts doc roots field.key rule.selection
  fieldValues rule.pattern field.key (fieldTexts rule.selection found)

/-- The values of some fields that have a rule. -/
def extractFields (doc : Document) (roots : List Nat) (page : PageRule) :
    List EventField → Recording (List (EventField × List FieldValue))
  | [] => return []
  | field :: rest =>
    match page.fields.get? field.key with
    | none => extractFields doc roots page rest
    | some rule => do
      let values ← extractField doc roots field rule
      let others ← extractFields doc roots page rest
      return (field, values) :: others

/-- Remarks on each field of which some texts are left out. -/
def remarkSurplus (extracted : Extracted) : List EventField → Recording Unit
  | [] => return
  | field :: rest => do
    if hasSurplus extracted field then remark (.surplus field)
    remarkSurplus extracted rest

/-- The record of the values of fields. -/
def assemble (extracted : Extracted) : Recording EventRecord := do
  remarkSurplus extracted EventRecord.fields
  return EventRecord.ofFields fun field => (slotTexts extracted field).bind (slotText field)

/-- The occurrences that raw values state. -/
def normalizeAll (n : Datetime.Normalizer) (raws : List String) :
    Recording (List Datetime.Occurrence) :=
  readAll (fun raw => (n.normalize raw).elim (.error (.unreadableDatetime raw)) .ok) raws

/-! ## Calls -/

/-- The links of a calendar page. -/
def eventLinks (template : Template) (document : Option Document) : Call (List String) := do
  let page ← template.page .calendar
  let doc ← required document
  let roots ← findRoots doc .calendar page.roots
  if roots.isEmpty then return []
  else
    match page.fields.get? eventLinkKey with
    | none =>
      remark .noLinkRule
      return []
    | some rule => linksIn doc roots rule

/-- The addresses that the links stand for on a page at `base`. -/
def resolvedLinks (template : Template) (document : Option Document) (base : String) :
    Call (List String) := do
  let base ← (Url.ofText base).mapError (Error.invalidUrl base)
  let links ← eventLinks template document
  readAll (resolveLink base) links

/-- The record of an event page. -/
def eventRecord (template : Template) (document : Option Document) : Call EventRecord := do
  let page ← template.page .event
  let doc ← required document
  let roots ← findRoots doc .event page.roots
  let values ← extractFields doc roots page EventField.all
  assemble fun field => values.lookup field

/-- Runs a call of a session on its diagnostics. -/
def runOn (s : Session) (call : Call α) : Except Error α × Session :=
  let (answer, diagnostics) := call.run.run s.diagnostics
  (answer, { s with diagnostics })

/-- Makes a call of a session. -/
def step (s : Session) : Session.Step → Except Error Session.Answer × Session
  | .setDocument document => (.ok .nothing, s.setDocument document)
  | .eventLinks => runOn s (.texts <$> eventLinks s.template s.document)
  | .resolvedLinks base => runOn s (.texts <$> resolvedLinks s.template s.document base)
  | .eventRecord => runOn s (.record <$> eventRecord s.template s.document)
  | .normalizeAll raws =>
    runOn s (.occurrences <$> (normalizeAll (s.template.normalizer s.locale) raws : Call _))
  | .drain => (.ok (.texts s.diagnostics.messages), { s with diagnostics := .empty })

/-! ## Work and its remarks -/

/-- Work that has the value of another and records all its remarks at the end. -/
def recorded (noted : Noted α) : Recording α := fun d =>
  (noted.value, d.pushAll (noted.remarks.map Remark.message))

/-- Remarks of one work and of the next are recorded in this order. -/
theorem recorded_bind (noted : Noted α) (next : α → Noted β) :
    recorded (noted.bind next) = recorded noted >>= fun a => recorded (next a) := by
  funext d
  simp only [recorded, Noted.bind, List.map_append, Diagnostics.pushAll, List.foldl_append]
  rfl

/-- Recording each remark when its turn comes records all of them in order. -/
theorem readAll_eq (read : α → Except Remark β) (items : List α) :
    readAll read items = recorded (Noted.readAll read items) := by
  induction items with
  | nil => rfl
  | cons a rest ih =>
    funext d
    rw [readAll, recorded, Noted.readAll]
    cases h : read a with
    | ok b =>
      simp only [ih, List.filterMap_cons, h]
      rfl
    | error r =>
      simp only [ih, List.filterMap_cons, h]
      rfl

theorem findRoots_eq (doc : Document) (page : Page) (rule : SelectorRule) :
    findRoots doc page rule = recorded (Extraction.findRoots doc page rule) := by
  rw [findRoots, Extraction.findRoots, recorded_bind, readSelectors, readAll_eq]
  refine bind_congr fun selectors => ?_
  dsimp only
  split <;> rfl

theorem selectTexts_eq (doc : Document) (roots : List Nat) (field : String) (rule : SelectorRule) :
    selectTexts doc roots field rule = recorded (Extraction.selectTexts doc roots field rule) := by
  rw [selectTexts, Extraction.selectTexts, recorded_bind, readSelectors, readAll_eq]
  rfl

theorem linksIn_eq (doc : Document) (roots : List Nat) (rule : FieldRule) :
    linksIn doc roots rule = recorded (Extraction.linksIn doc roots rule) := by
  rw [linksIn, Extraction.linksIn, recorded_bind, selectTexts_eq]
  refine bind_congr fun found => ?_
  dsimp only
  split <;> rfl

/-- Capturing in place records the remarks of the patterns, then those of the groups. -/
theorem capture_eq (rule : PatternRule) (field : String) (values : List String) :
    capture rule field values = recorded (Extraction.capture rule field values) := by
  rw [capture, Extraction.capture]
  split
  · rfl
  · rw [recorded_bind, readAll_eq]
    refine bind_congr fun patterns => ?_
    dsimp only
    cases rule.groups with
    | none => rfl
    | some groups =>
      dsimp only
      rw [recorded_bind, readAll_eq]
      rfl

theorem fieldValues_eq (rule : Option PatternRule) (field : String) (texts : List String) :
    fieldValues rule field texts = recorded (Extraction.fieldValues rule field texts) := by
  cases rule with
  | none => rfl
  | some rule => exact capture_eq rule field texts

theorem extractField_eq (doc : Document) (roots : List Nat) (field : EventField)
    (rule : FieldRule) :
    extractField doc roots field rule = recorded (Extraction.extractField doc roots field rule) := by
  rw [extractField, Extraction.extractField]
  dsimp only
  rw [recorded_bind]
  split
  · exact fieldValues_eq rule.pattern field.key _
  · rw [selectTexts_eq]
    exact bind_congr fun found => fieldValues_eq rule.pattern field.key _

/-- Extracting in place records the remarks field by field. -/
theorem extractFields_eq (doc : Document) (roots : List Nat) (page : PageRule)
    (fields : List EventField) :
    extractFields doc roots page fields =
      recorded (Extraction.extractFields doc roots page fields) := by
  induction fields with
  | nil => rfl
  | cons field rest ih =>
    rw [extractFields, Extraction.extractFields]
    cases page.fields.get? field.key with
    | none => exact ih
    | some rule =>
      dsimp only
      rw [recorded_bind, extractField_eq]
      refine bind_congr fun values => ?_
      rw [recorded_bind, ih]
      rfl

/-- The fields with a surplus are remarked on in their order. -/
theorem remarkSurplus_eq (extracted : Extracted) (fields : List EventField) :
    remarkSurplus extracted fields =
      recorded ⟨(), (fields.filter (hasSurplus extracted)).map .surplus⟩ := by
  induction fields with
  | nil => rfl
  | cons field rest ih =>
    rw [remarkSurplus, ih]
    by_cases h : hasSurplus extracted field = true
    · rw [if_pos h, List.filter_cons_of_pos h]
      rfl
    · rw [if_neg h, List.filter_cons_of_neg h]

theorem assemble_eq (extracted : Extracted) :
    assemble extracted = recorded (Extraction.assemble extracted) := by
  rw [assemble, remarkSurplus_eq]
  rfl

/-- Normalizing in place records a remark on each value that cannot be read. -/
theorem normalizeAll_eq (template : Template) (locale : Locale) (raws : List String) :
    normalizeAll (template.normalizer locale) raws =
      recorded (template.normalizeAll locale raws) := by
  rw [normalizeAll, readAll_eq]
  congr 1
  rw [Noted.readAll, Template.normalizeAll, Datetime.Normalizer.normalizeAll]
  generalize template.normalizer locale = n
  dsimp only
  congr 1
  · congr 1
    funext raw
    cases n.normalize raw <;> rfl
  · induction raws with
    | nil => rfl
    | cons raw rest ih => cases h : n.normalize raw <;> simp [h, ih]

/-! ## Calls and what they conclude with -/

/-- The call that comes to an outcome, and drops all remarks with an error. -/
def concluded (outcome : Except Error (Noted α)) : Call α :=
  match outcome with
  | .ok noted => ExceptT.lift (recorded noted)
  | .error e => throw e

/-- A call that comes to an outcome leaves the session as concluding with it does. -/
theorem runOn_concluded (s : Session) (outcome : Except Error (Noted α)) :
    runOn s (concluded outcome) = s.conclude outcome := by
  cases outcome <;> rfl

/-- What is made of the answer of a call does not matter for what is left behind. -/
theorem runOn_map (s : Session) (answer : α → Session.Answer) (call : Call α) :
    runOn s (answer <$> call) = Session.answerWith answer (runOn s call) := by
  rw [runOn, runOn, Session.answerWith, ExceptT.run_map, StateT.run_map]
  cases call.run.run s.diagnostics with
  | mk result d => cases result <;> rfl

theorem lift_bind (noted : Noted α) (next : α → Noted β) :
    ExceptT.lift (recorded (noted.bind next)) =
      (ExceptT.lift (recorded noted) >>= fun a => ExceptT.lift (recorded (next a)) : Call β) := by
  rw [recorded_bind]
  rfl

/-- What is done with the rules of a page and a document comes after all that can fail. -/
theorem eq_concluded {template : Template} {document : Option Document} {page : Page}
    {work : PageRule → Document → Call α} {noted : PageRule → Document → Noted α}
    (h : ∀ rule doc, work rule doc = ExceptT.lift (recorded (noted rule doc))) :
    (do
      let rule ← template.page page
      let doc ← required document
      work rule doc : Call α) =
        concluded (do
          let rule ← template.page page
          let doc ← required document
          return noted rule doc) := by
  cases template.page page with
  | error e => rfl
  | ok rule =>
    cases document with
    | none => rfl
    | some doc => exact h rule doc

/-- The call for links in place comes to the outcome that drops its remarks with an error. -/
theorem eventLinks_eq (template : Template) (document : Option Document) :
    eventLinks template document = concluded (Extraction.eventLinks template document) := by
  refine eq_concluded fun rule doc => ?_
  rw [lift_bind, ← findRoots_eq]
  refine bind_congr fun roots => ?_
  split
  · rfl
  · cases rule.fields.get? eventLinkKey with
    | none => rfl
    | some links =>
      dsimp only
      rw [linksIn_eq]
      rfl

/-- A base that is no address ends the call before anything is recorded. -/
theorem resolvedLinks_eq (template : Template) (document : Option Document) (base : String) :
    resolvedLinks template document base =
      concluded (Extraction.resolvedLinks template document base) := by
  simp only [resolvedLinks, Extraction.resolvedLinks, eventLinks_eq, readAll_eq]
  cases Url.ofText base with
  | error cause => rfl
  | ok url =>
    cases Extraction.eventLinks template document with
    | error e => rfl
    | ok noted => exact (lift_bind noted _).symm

theorem eventRecord_eq (template : Template) (document : Option Document) :
    eventRecord template document = concluded (Extraction.eventRecord template document) := by
  refine eq_concluded fun rule doc => ?_
  rw [lift_bind, ← findRoots_eq]
  refine bind_congr fun roots => ?_
  rw [lift_bind, ← extractFields_eq]
  refine bind_congr fun values => ?_
  rw [assemble_eq]
  rfl

/-- **A call that drops its remarks with an error is the call as it runs**, on every session. -/
theorem step_eq (s : Session) (call : Session.Step) : step s call = s.step call := by
  cases call with
  | setDocument document => rfl
  | drain => rfl
  | normalizeAll raws =>
    rw [step, normalizeAll_eq]
    rfl
  | eventLinks =>
    rw [step, runOn_map, eventLinks_eq, runOn_concluded]
    rfl
  | resolvedLinks base =>
    rw [step, runOn_map, resolvedLinks_eq, runOn_concluded]
    rfl
  | eventRecord =>
    rw [step, runOn_map, eventRecord_eq, runOn_concluded]
    rfl

/-- A call that fails has recorded nothing when it does. -/
theorem keepsStateOnError_step : Calls.KeepsStateOnError step := by
  intro s call e h
  rw [step_eq] at h ⊢
  exact Session.keepsStateOnError_step s call e h

end Almanac.InPlace
