import Almanac.Proofs.Calls
import Almanac.Session

/-!
# Calls of a session that fail

A call fails if the template does not describe its page, if there is no document, or if
the address of the calendar page is none, and for no other reason (`errorOf?_step`). What
is found on the page, and whether selectors, patterns, links and dates can be read, has no
part in it. A call that fails leaves the session as it was, so that the other calls answer
the same without it.
-/

namespace Almanac

/-- The error of a result. -/
def errorOf? {α : Type} : Except Error α → Option Error
  | .ok _ => none
  | .error e => some e

theorem errorOf?_map {α β : Type} (f : α → β) (result : Except Error α) :
    errorOf? (result.map f) = errorOf? result := by
  cases result <;> rfl

namespace Session

variable {α : Type}

/-! ## What makes a call fail -/

/-- What stops the work on a page. -/
def pageFailure? (template : Template) (document : Option Document) (page : Page) : Option Error :=
  if (template.page? page).isNone then some (.unknownPage page.name template.name)
  else if document.isNone then some .missingDocument
  else none

/-- What stops a call. -/
def Step.failure? (template : Template) (document : Option Document) : Step → Option Error
  | .setDocument _ | .normalizeAll _ | .drain => none
  | .eventLinks => pageFailure? template document .calendar
  | .resolvedLinks base =>
    match Url.ofText base with
    | .ok _ => pageFailure? template document .calendar
    | .error cause => some (.invalidUrl base cause)
  | .eventRecord => pageFailure? template document .event

/-- What is done with the rules of a page and a document fails where one of the two is
missing, if it cannot fail by itself. -/
theorem errorOf?_page (template : Template) (document : Option Document) (page : Page)
    (read : PageRule → Document → Noted α) :
    errorOf? (do
      let rule ← template.page page
      let doc ← Extraction.required document
      return read rule doc) = pageFailure? template document page := by
  unfold pageFailure? Template.page
  cases template.page? page with
  | none => rfl
  | some rule =>
    cases document with
    | none => rfl
    | some doc => rfl

theorem errorOf?_eventLinks (template : Template) (document : Option Document) :
    errorOf? (Extraction.eventLinks template document) =
      pageFailure? template document .calendar :=
  errorOf?_page template document .calendar _

theorem errorOf?_eventRecord (template : Template) (document : Option Document) :
    errorOf? (Extraction.eventRecord template document) = pageFailure? template document .event :=
  errorOf?_page template document .event _

theorem errorOf?_resolvedLinks (template : Template) (document : Option Document) (base : String) :
    errorOf? (Extraction.resolvedLinks template document base) =
      (Step.resolvedLinks base).failure? template document := by
  simp only [Extraction.resolvedLinks, Step.failure?]
  cases Url.ofText base with
  | error cause => rfl
  | ok url =>
    -- the links that stand for no address are remarked on, so only reading them can fail
    have hlinks := errorOf?_eventLinks template document
    cases hread : Extraction.eventLinks template document with
    | error e =>
      rw [hread] at hlinks
      exact hlinks
    | ok noted =>
      rw [hread] at hlinks
      exact hlinks

theorem errorOf?_conclude (s : Session) (outcome : Except Error (Noted α)) :
    errorOf? (s.conclude outcome).1 = errorOf? outcome := by
  cases outcome <;> rfl

/-! ## One call -/

/-- A call fails for what is known before the page is read, and for nothing else. -/
theorem errorOf?_step (s : Session) (call : Step) :
    errorOf? (s.step call).1 = call.failure? s.template s.document := by
  cases call with
  | setDocument document => rfl
  | normalizeAll raws => rfl
  | drain => rfl
  | eventLinks =>
    simp only [step, answerWith, eventLinks, errorOf?_map, errorOf?_conclude]
    exact errorOf?_eventLinks s.template s.document
  | resolvedLinks base =>
    simp only [step, answerWith, resolvedLinks, errorOf?_map, errorOf?_conclude]
    exact errorOf?_resolvedLinks s.template s.document base
  | eventRecord =>
    simp only [step, answerWith, eventRecord, errorOf?_map, errorOf?_conclude]
    exact errorOf?_eventRecord s.template s.document

/-- A call that fails leaves the session as it was, with its diagnostics. -/
theorem keepsStateOnError_step : Calls.KeepsStateOnError step := by
  intro s call e h
  have hanswer : ∀ {α : Type} (answer : α → Answer) (outcome : Except Error (Noted α)),
      (answerWith answer (s.conclude outcome)).1 = .error e →
        (answerWith answer (s.conclude outcome)).2 = s := by
    intro α answer outcome h
    cases outcome with
    | ok noted => cases h
    | error e => rfl
  cases call with
  | setDocument document => cases h
  | normalizeAll raws => cases h
  | drain => cases h
  | eventLinks => exact hanswer _ _ h
  | resolvedLinks base => exact hanswer _ _ h
  | eventRecord => exact hanswer _ _ h

/-! ## All calls -/

theorem run_eq (s : Session) (calls : List Step) :
    s.run calls = ((Calls.log step s calls).map (·.answer), Calls.after step s calls) := by
  induction calls generalizing s with
  | nil => rfl
  | cons call rest ih => simp [run, Calls.log_cons, Calls.after, ih]

/-- **Calls that fail leave no trace**: without them the calls answer the same and leave the same
session behind each. A call fails only for what is known before the page is read; any other gives an
answer, whatever is remarked on. -/
theorem failed_calls_leave_no_trace (s : Session) (calls : List Step) :
    let kept := Calls.succeeding step s calls
    Calls.log step s kept = (Calls.log step s calls).filter (·.answer.isOk) ∧
      s.run kept = ((s.run calls).1.filter (·.isOk), (s.run calls).2) ∧
      ∀ call : Step, match call.failure? s.template s.document with
        | some e => s.step call = (.error e, s)
        | none => ∃ answer, (s.step call).1 = .ok answer := by
  intro kept
  have hlog := Calls.log_succeeding keepsStateOnError_step s calls
  refine ⟨hlog, ?_, ?_⟩
  · rw [run_eq, run_eq, hlog, Calls.after_succeeding keepsStateOnError_step]
    simp only [List.filter_map, Function.comp_def]
  · intro call
    have herror := errorOf?_step s call
    cases hanswer : (s.step call).1 with
    | ok answer =>
      rw [hanswer] at herror
      rw [← herror]
      exact ⟨answer, rfl⟩
    | error e =>
      rw [hanswer] at herror
      rw [← herror]
      exact Prod.ext hanswer (keepsStateOnError_step s call e hanswer)

end Session

end Almanac
