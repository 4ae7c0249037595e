import Mathlib
import Almanac.Proofs.Calls
import Almanac.Store

/-!
# What a store gives

The template that a store gives for a name is settled by the calls made so far: it is the
one inserted last under the name, else the first that a call got for the name
(`get?_after`), and it is the same shared template each time, whatever has become of the
files. As long as there is none, the file of the name is read anew by each call, and a
call that fails is as if it had not been made.
-/

namespace Almanac

/-! ## Templates and their names -/

theorem Json.name_of_template? {name : String} {value : Json} {t : Template}
    (h : template? name value = some t) : t.name = name := by
  simp only [template?, Option.bind_eq_bind, Option.bind_eq_some_iff] at h
  obtain ⟨parts, -, calendar, -, event, -, h⟩ := h
  cases h
  rfl

/-- A template has the name that it is read for. -/
theorem Template.name_of_ofText {name text : String} {t : Template} (h : ofText name text = .ok t) :
    t.name = name := by
  unfold ofText at h
  split at h
  · next read hread =>
    obtain ⟨value, -, hvalue⟩ := Option.bind_eq_some_iff.mp hread
    unfold check at h
    split at h
    · cases h
    · cases h
    · cases h
      exact Json.name_of_template? hvalue
  · cases h

namespace Store

theorem name_of_load {s : Store} {files : FileTree} {name : String} {t : Template}
    (h : s.load files name = .ok t) : t.name = name := by
  simp only [load] at h
  split at h
  · split at h
    · exact Template.name_of_ofText h
    · cases h
  · cases h

/-! ## What a get can do -/

/-- A get gives the template that is kept, or keeps and gives that of the file, or fails and
changes nothing. -/
theorem get_cases (s : Store) (files : FileTree) (name : String) :
    (∃ shared, s.kept.get? name = some shared ∧ s.get files name = (.ok shared, s)) ∨
      (s.kept.get? name = none ∧ ∃ template, s.load files name = .ok template ∧
        s.get files name = (.ok ⟨s.next, template⟩, (s.insert template).2)) ∨
      (s.kept.get? name = none ∧ ∃ e, s.load files name = .error e ∧
        s.get files name = (.error e, s)) := by
  cases hkept : s.kept.get? name with
  | some shared => exact .inl ⟨shared, rfl, by simp only [get, hkept]⟩
  | none =>
    cases hload : s.load files name with
    | ok template =>
      refine .inr (.inl ⟨rfl, template, rfl, ?_⟩)
      simp only [get, hkept, hload]
      rfl
    | error e => exact .inr (.inr ⟨rfl, e, rfl, by simp only [get, hkept, hload]⟩)

/-- Inserting a template keeps it under its name and leaves the other names as they are. -/
theorem get?_insert (s : Store) (template : Template) (name : String) :
    (s.insert template).2.kept.get? name =
      if name = template.name then some ⟨s.next, template⟩ else s.kept.get? name :=
  Dictionary.get?_insert s.kept template.name name _

/-! ## Calls -/

/-- A store and the files that it reads. -/
structure Setting where
  files : FileTree
  store : Store

/-- What happens to a store or its files. -/
inductive Step where
  /-- The files change. -/
  | change (change : FileTree → FileTree)
  | get (name : String)
  | insert (template : Template)
  | openSession (name : String)

/-- A file is written, if that can be done. -/
def Step.write (path : String) (content : List UInt8) : Step :=
  .change fun files => (files.write? path content).getD files

/-- A file is removed, if there is one. -/
def Step.remove (path : String) : Step :=
  .change fun files => (files.remove? path).getD files

/-- The name under which a call inserts a template. -/
def Step.insertedName? : Step → Option String
  | insert template => some template.name
  | _ => none

/-- The name for which a call gets a template, by itself or for a session. -/
def Step.askedName? : Step → Option String
  | get name => some name
  | openSession name => some name
  | _ => none

/-- What a call answers. -/
inductive Answer where
  | nothing
  | template (shared : SharedTemplate)
  | session (opened : SharedSession)

/-- Makes a call. -/
def Setting.step (w : Setting) : Step → Except Error Answer × Setting
  | .change change => (.ok .nothing, { w with files := change w.files })
  | .get name =>
    let (shared, store) := w.store.get w.files name
    (shared.map .template, { w with store })
  | .insert template =>
    let (shared, store) := w.store.insert template
    (.ok (.template shared), { w with store })
  | .openSession name =>
    let (opened, store) := w.store.openSession w.files name
    (opened.map .session, { w with store })

/-- The shared template that an answer gives, by itself or in a session. -/
def given? : Except Error Answer → Option SharedTemplate
  | .ok (.template shared) => some shared
  | .ok (.session opened) => some opened.shared
  | _ => none

/-- A call on a store that was made. -/
abbrev Entry : Type := Made Setting Step Error Answer

/-- The shared template that was made by inserting one with a name. -/
def inserted? (name : String) (m : Entry) : Option SharedTemplate :=
  if m.call.insertedName? = some name then given? m.answer else none

/-- The shared template that was got for a name. -/
def got? (name : String) (m : Entry) : Option SharedTemplate :=
  if m.call.askedName? = some name then given? m.answer else none

/-! ## One call -/

/-- What a call can come to: its answer, and the store and the files after it. -/
inductive Outcome (w : Setting) : Step → Except Error Answer × Setting → Prop where
  | changed (change : FileTree → FileTree) :
    Outcome w (.change change) (.ok .nothing, { w with files := change w.files })
  | inserted (template : Template) :
    Outcome w (.insert template)
      (.ok (.template ⟨w.store.next, template⟩), { w with store := (w.store.insert template).2 })
  | kept {call : Step} {name : String} {shared : SharedTemplate} {answer : Except Error Answer}
    (hname : call.askedName? = some name) (hkept : w.store.kept.get? name = some shared)
    (hgiven : given? answer = some shared) : Outcome w call (answer, w)
  | loaded {call : Step} {name : String} {template : Template} {answer : Except Error Answer}
    (hname : call.askedName? = some name) (hkept : w.store.kept.get? name = none)
    (hload : w.store.load w.files name = .ok template)
    (hgiven : given? answer = some ⟨w.store.next, template⟩) :
    Outcome w call (answer, { w with store := (w.store.insert template).2 })
  | failed {call : Step} {name : String} {e : Error} (hname : call.askedName? = some name)
    (hkept : w.store.kept.get? name = none) (hload : w.store.load w.files name = .error e) :
    Outcome w call (.error e, w)

theorem step_get (w : Setting) (name : String) :
    w.step (.get name) = ((w.store.get w.files name).1.map .template,
      { w with store := (w.store.get w.files name).2 }) :=
  rfl

theorem step_openSession (w : Setting) (name : String) :
    w.step (.openSession name) =
      ((w.store.get w.files name).1.map fun shared =>
          .session (.start shared (w.store.get w.files name).2.locale),
        { w with store := (w.store.get w.files name).2 }) := by
  simp only [Setting.step, openSession]
  cases (w.store.get w.files name).1 <;> rfl

/-- What a call that gets a template comes to, whatever it answers with the template. -/
theorem outcome_get (w : Setting) {call : Step} {name : String} (answer : SharedTemplate → Answer)
    (hname : call.askedName? = some name)
    (hgiven : ∀ shared, given? (.ok (answer shared)) = some shared) :
    Outcome w call ((w.store.get w.files name).1.map answer,
      { w with store := (w.store.get w.files name).2 }) := by
  rcases get_cases w.store w.files name with ⟨shared, hkept, h⟩ | ⟨hkept, template, hload, h⟩ |
      ⟨hkept, e, hload, h⟩
  · rw [h]
    exact .kept hname hkept (hgiven shared)
  · rw [h]
    exact .loaded hname hkept hload (hgiven _)
  · rw [h]
    exact .failed hname hkept hload

/-- Each call comes to one of the outcomes. -/
theorem outcome_step (w : Setting) (call : Step) : Outcome w call (w.step call) := by
  cases call with
  | change change => exact .changed change
  | insert template => exact .inserted template
  | get name =>
    rw [step_get]
    exact outcome_get w .template rfl fun _ => rfl
  | openSession name =>
    rw [step_openSession]
    exact outcome_get w _ rfl fun _ => rfl

theorem keepsStateOnError_step : Calls.KeepsStateOnError Setting.step := by
  intro w call e h
  have houtcome := outcome_step w call
  generalize w.step call = result at h houtcome ⊢
  cases houtcome with
  | changed change => cases h
  | inserted template => cases h
  | kept hname hkept hgiven => rfl
  | loaded hname hkept hload hgiven =>
    subst h
    cases hgiven
  | failed hname hkept hload => rfl

/-- A call that asks for a template inserts none. -/
theorem inserted?_of_asked {call : Step} {asked : String} (h : call.askedName? = some asked)
    (name : String) (answer : Except Error Answer) (w : Setting) :
    inserted? name ⟨call, answer, w⟩ = none := by
  cases call with
  | change change => rfl
  | get name => rfl
  | insert template => cases h
  | openSession name => rfl

theorem got?_of_asked {call : Step} {asked : String} (h : call.askedName? = some asked)
    (name : String) (answer : Except Error Answer) (w : Setting) :
    got? name ⟨call, answer, w⟩ = if asked = name then given? answer else none := by
  simp [got?, h]

/-- What is kept for a name after a call: what was inserted, else what was kept before, else
what was got. -/
theorem get?_step (w : Setting) (call : Step) (name : String) :
    (w.step call).2.store.kept.get? name =
      (inserted? name ⟨call, (w.step call).1, (w.step call).2⟩).or
        ((w.store.kept.get? name).or (got? name ⟨call, (w.step call).1, (w.step call).2⟩)) := by
  have houtcome := outcome_step w call
  generalize w.step call = result at houtcome ⊢
  cases houtcome with
  | changed change => simp [inserted?, got?, given?]
  | inserted template =>
    by_cases h : template.name = name
    · simp [inserted?, Step.insertedName?, given?, get?_insert, h]
    · have hne : name ≠ template.name := fun heq => h heq.symm
      simp [inserted?, got?, Step.insertedName?, Step.askedName?, get?_insert, h, hne]
  | @kept _ asked shared answer hname hkept hgiven =>
    rw [inserted?_of_asked hname, got?_of_asked hname, hgiven]
    by_cases h : asked = name
    · subst h
      simp [hkept]
    · simp [h]
  | @loaded _ asked template answer hname hkept hload hgiven =>
    have htemplate : template.name = asked := name_of_load hload
    rw [inserted?_of_asked hname, got?_of_asked hname, hgiven, get?_insert, htemplate]
    by_cases h : asked = name
    · subst h
      simp [hkept]
    · have hne : name ≠ asked := fun heq => h heq.symm
      simp [h, hne]
  | @failed _ asked e hname hkept hload =>
    rw [inserted?_of_asked hname, got?_of_asked hname]
    simp [given?]

/-! ## All calls -/

/-- What is kept for a name after some calls: what was inserted last, else what was kept
before, else what was got first. -/
theorem get?_after (w : Setting) (calls : List Step) (name : String) :
    (Calls.after Setting.step w calls).store.kept.get? name =
      ((Calls.log Setting.step w calls).reverse.findSome? (inserted? name)).or
        ((w.store.kept.get? name).or
          ((Calls.log Setting.step w calls).findSome? (got? name))) := by
  -- from the front: what the rest inserts stands before what the first call inserts, and
  -- what the first call gets before what the rest gets
  induction calls generalizing w with
  | nil => simp [Calls.after, Calls.log]
  | cons call rest ih =>
    have hfirst : ∀ (m : Entry) (log : List Entry),
        (m :: log).findSome? (got? name) = (got? name m).or (log.findSome? (got? name)) := by
      intro m log
      rw [List.findSome?_cons]
      cases got? name m <;> rfl
    rw [Calls.after, ih, get?_step]
    simp only [Calls.log_cons, List.reverse_cons, List.findSome?_append, List.findSome?_singleton,
      hfirst, Option.or_assoc]

/-- A store that was opened for a directory and a locale: its templates are kept under
their own names, and have numbers that will not be given again. -/
structure InUse (directory : String) (locale : Locale) (s : Store) : Prop where
  directory_eq : s.directory = directory
  locale_eq : s.locale = locale
  name_eq : ∀ {key shared}, s.kept.get? key = some shared → shared.template.name = key
  number_lt : ∀ {key shared}, s.kept.get? key = some shared → shared.number < s.next

section InUse

variable {directory : String} {locale : Locale}

theorem InUse.new : InUse directory locale { directory, locale } where
  directory_eq := rfl
  locale_eq := rfl
  name_eq h := by cases h
  number_lt h := by cases h

/-- A template is inserted under its own name with a new number. -/
theorem InUse.insert {s : Store} (h : InUse directory locale s) (template : Template) :
    InUse directory locale (s.insert template).2 where
  directory_eq := h.directory_eq
  locale_eq := h.locale_eq
  name_eq := by
    intro key shared hkept
    rw [get?_insert] at hkept
    split at hkept
    · next hkey =>
      cases hkept
      exact hkey.symm
    · exact h.name_eq hkept
  number_lt := by
    intro key shared hkept
    rw [get?_insert] at hkept
    split at hkept
    · cases hkept
      exact Nat.lt_succ_self s.next
    · exact Nat.lt_succ_of_lt (h.number_lt hkept)

/-- Each call leaves a store in use. -/
theorem InUse.step {w : Setting} (h : InUse directory locale w.store) (call : Step) :
    InUse directory locale (w.step call).2.store := by
  have houtcome := outcome_step w call
  generalize w.step call = result at houtcome ⊢
  cases houtcome with
  | changed change => exact h
  | inserted template => exact h.insert template
  | kept hname hkept hgiven => exact h
  | loaded hname hkept hload hgiven => exact h.insert _
  | failed hname hkept hload => exact h

theorem InUse.after {w : Setting} (h : InUse directory locale w.store) (calls : List Step) :
    InUse directory locale (Calls.after Setting.step w calls).store := by
  induction calls generalizing w with
  | nil => exact h
  | cons call rest ih => exact ih (h.step call)

theorem next_le_step (w : Setting) (call : Step) : w.store.next ≤ (w.step call).2.store.next := by
  have houtcome := outcome_step w call
  generalize w.step call = result at houtcome ⊢
  cases houtcome with
  | changed change => exact Nat.le_refl _
  | inserted template => exact Nat.le_succ _
  | kept hname hkept hgiven => exact Nat.le_refl _
  | loaded hname hkept hload hgiven => exact Nat.le_succ _
  | failed hname hkept hload => exact Nat.le_refl _

/-- Numbers are not given back. -/
theorem next_le_after (w : Setting) (calls : List Step) :
    w.store.next ≤ (Calls.after Setting.step w calls).store.next := by
  induction calls generalizing w with
  | nil => exact Nat.le_refl _
  | cons call rest ih => exact Nat.le_trans (next_le_step w call) (ih _)

/-- A number that was given is not given to another template. -/
theorem InUse.number_lt_step {w : Setting} (h : InUse directory locale w.store) (call : Step)
    {shared : SharedTemplate} (hshared : given? (w.step call).1 = some shared) :
    shared.number < (w.step call).2.store.next := by
  have houtcome := outcome_step w call
  generalize w.step call = result at houtcome hshared ⊢
  cases houtcome with
  | changed change => cases hshared
  | inserted template =>
    cases hshared
    exact Nat.lt_succ_self w.store.next
  | kept hname hkept hgiven =>
    rw [hgiven] at hshared
    cases hshared
    exact h.number_lt hkept
  | loaded hname hkept hload hgiven =>
    rw [hgiven] at hshared
    cases hshared
    exact Nat.lt_succ_self w.store.next
  | failed hname hkept hload => cases hshared

/-- Each template that was given has a number below the next. -/
theorem InUse.number_lt_after {w : Setting} (h : InUse directory locale w.store)
    {calls : List Step} {m : Entry} (hm : m ∈ Calls.log Setting.step w calls)
    {shared : SharedTemplate} (hshared : given? m.answer = some shared) :
    shared.number < (Calls.after Setting.step w calls).store.next := by
  induction calls generalizing w with
  | nil => cases hm
  | cons call rest ih =>
    rcases List.mem_cons.mp hm with rfl | hrest
    · exact Nat.lt_of_lt_of_le (h.number_lt_step call hshared) (next_le_after _ rest)
    · exact ih (h.step call) hrest

end InUse

/-- What is in a file depends on the directory of the store alone. -/
theorem load_congr {s s' : Store} (h : s.directory = s'.directory) (files : FileTree)
    (name : String) : s.load files name = s'.load files name := by
  simp only [load, path, h]

/-- **A store gives one template for a name**: after any calls it gives the one inserted last under
the name, else the one got first, whatever has happened to the files, and else what the file holds
at that moment. The calls that failed could have been left out. -/
theorem template_of_history (directory : String) (locale : Locale) (files : FileTree)
    (before : List Step) (name : String) :
    let opened : Setting := { files, store := { directory, locale } }
    let log := Calls.log Setting.step opened before
    let w := Calls.after Setting.step opened before
    (match (log.reverse.findSome? (inserted? name)).or (log.findSome? (got? name)) with
      | some shared =>
        w.step (.get name) = (.ok (.template shared), w) ∧
          w.step (.openSession name) = (.ok (.session (.start shared locale)), w)
      | none =>
        match opened.store.load w.files name with
        | .ok template =>
          (w.step (.get name)).1 = .ok (.template ⟨w.store.next, template⟩) ∧
            (w.step (.openSession name)).1 =
              .ok (.session (.start ⟨w.store.next, template⟩ locale))
        | .error e =>
          w.step (.get name) = (.error e, w) ∧ w.step (.openSession name) = (.error e, w)) ∧
      (∀ template, (w.step (.insert template)).1 = .ok (.template ⟨w.store.next, template⟩)) ∧
      (∀ shared ∈ log.filterMap (given? ·.answer), shared.number < w.store.next) ∧
      (∀ key, ∀ shared ∈ w.store.kept.get? key, shared.template.name = key) ∧
      Calls.log Setting.step opened (Calls.succeeding Setting.step opened before) =
        log.filter (·.answer.isOk) := by
  intro opened log w
  have hopened : InUse directory locale opened.store := InUse.new
  have huse : InUse directory locale w.store := hopened.after before
  refine ⟨?_, fun template => rfl, ?_, ?_, ?_⟩
  · have hkept : w.store.kept.get? name =
        (log.reverse.findSome? (inserted? name)).or (log.findSome? (got? name)) :=
      get?_after opened before name
    have hload : opened.store.load w.files name = w.store.load w.files name :=
      load_congr huse.directory_eq.symm w.files name
    rw [← hkept, hload, step_get, step_openSession]
    rcases get_cases w.store w.files name with ⟨shared, hsome, hget⟩ |
        ⟨hnone, template, hloaded, hget⟩ | ⟨hnone, e, hloaded, hget⟩
    · rw [hsome, hget, huse.locale_eq]
      exact ⟨rfl, rfl⟩
    · rw [hnone, hloaded, hget, (huse.insert template).locale_eq]
      exact ⟨rfl, rfl⟩
    · rw [hnone, hloaded, hget]
      exact ⟨rfl, rfl⟩
  · intro shared hshared
    obtain ⟨m, hm, hgiven⟩ := List.mem_filterMap.mp hshared
    exact hopened.number_lt_after hm hgiven
  · intro key shared hshared
    exact huse.name_eq hshared
  · exact Calls.log_succeeding keepsStateOnError_step opened before

/-- The file of a site is mended after a first try, then read for a session, and then
removed. -/
def mended : List Step :=
  [.write "/t/a.json" [123], .get "a", .write "/t/a.json" [123, 125], .openSession "a",
    .remove "/t/a.json", .insert { name := "b" }]

/-- A store whose directory is named from the root, and no files. -/
def opened : Setting := { files := {}, store := { directory := "/t", locale := .czech } }

/-- The log of these calls. -/
def mendedLog : List Entry := Calls.log Setting.step opened mended

theorem given_mended :
    ((mendedLog.reverse.findSome? (inserted? "a")).or (mendedLog.findSome? (got? "a")),
      mendedLog.filterMap (given? ·.answer)) =
        (some ⟨0, { name := "a" }⟩, [⟨0, { name := "a" }⟩, ⟨1, { name := "b" }⟩]) := by
  cbv

theorem template_of_history_mended :
    let w := Calls.after Setting.step opened mended
    let a : SharedTemplate := ⟨0, { name := "a" }⟩
    let b : SharedTemplate := ⟨1, { name := "b" }⟩
    w.step (.get "a") = (.ok (.template a), w) ∧
      (b ∈ mendedLog.filterMap (given? ·.answer) ∧ b.number < w.store.next) ∧
      (w.store.kept.get? "a" = some a ∧ a.template.name = "a") := by
  intro w a b
  obtain ⟨hkept, hgiven⟩ := Prod.mk.inj given_mended
  have hget : w.store.kept.get? "a" = some a := (get?_after opened mended "a").trans hkept
  have hb : b ∈ mendedLog.filterMap (given? ·.answer) := by
    rw [hgiven]
    exact List.mem_cons_of_mem _ List.mem_cons_self
  obtain ⟨hanswer, -, hnumber, hname, -⟩ := template_of_history "/t" .czech {} mended "a"
  rw [mendedLog, opened] at hkept
  rw [hkept] at hanswer
  exact ⟨hanswer.1, ⟨hb, hnumber b hb⟩, hget, hname "a" a hget⟩

end Store

end Almanac
