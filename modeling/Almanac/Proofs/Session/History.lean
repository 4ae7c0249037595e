import Almanac.Session

/-!
# What a session remembers

Of the calls that were made a session remembers two things: the document that was given
last, and the messages of the calls since the last drain, each at its first place
(`state_after`). What a call answers depends on the first alone, unless the call is a
drain (`step_answer`), and a call that is made twice in a row answers the same and adds
no message (`step_step`). A drain answers the second, so it is the one call that does not
answer the same after every history.
-/

namespace Almanac

namespace Diagnostics

/-! ## Messages at their first place -/

theorem push_eraseDups (messages : List String) (message : String) :
    push ⟨messages.eraseDups⟩ message = ⟨(messages ++ [message]).eraseDups⟩ := by
  rw [List.eraseDups_append]
  by_cases h : message ∈ messages
  · simp [push, contains, h, List.removeAll]
  · simp [push, contains, h, List.removeAll, List.eraseDups_cons]

theorem pushAll_eraseDups (messages more : List String) :
    pushAll ⟨messages.eraseDups⟩ more = ⟨(messages ++ more).eraseDups⟩ := by
  induction more generalizing messages with
  | nil =>
    rw [List.append_nil]
    rfl
  | cons message rest ih =>
    have hstep : pushAll ⟨messages.eraseDups⟩ (message :: rest) =
        pushAll (push ⟨messages.eraseDups⟩ message) rest := rfl
    rw [hstep, push_eraseDups, ih, List.append_assoc, List.singleton_append]

/-- Messages that are recorded come behind those that are there, each of them that is new
once and in the order in which they came up. -/
theorem messages_pushAll (d : Diagnostics) (more : List String) :
    (d.pushAll more).messages =
      d.messages ++ (more.filter fun message => !d.contains message).eraseDups := by
  induction more generalizing d with
  | nil => simp [pushAll]
  | cons message rest ih =>
    have hstep : d.pushAll (message :: rest) = (d.push message).pushAll rest := rfl
    rw [hstep, ih]
    by_cases h : d.contains message = true
    · have hpush : d.push message = d := if_pos h
      rw [hpush, List.filter_cons_of_neg (by simp [h])]
    · have hpush : d.push message = ⟨d.messages ++ [message]⟩ := if_neg h
      -- what is new behind the message is what was new, without the message
      have hnew : (fun other => !(d.push message).contains other) =
          fun other => (!other == message) && !d.contains other := by
        funext other
        by_cases heq : other = message <;> simp [hpush, contains, heq]
      rw [List.filter_cons_of_pos (by simp [h]), List.eraseDups_cons, List.filter_filter, hnew,
        hpush, List.append_assoc, List.singleton_append]

theorem contains_push (d : Diagnostics) (message : String) :
    (d.push message).contains message = true := by
  unfold push
  split
  · next h => exact h
  · simp [contains]

theorem contains_push_of_contains {d : Diagnostics} {message : String} (other : String)
    (h : d.contains message = true) : (d.push other).contains message = true := by
  unfold push
  split
  · exact h
  · have hmem : message ∈ d.messages := List.contains_iff_mem.mp h
    simp [contains, hmem]

theorem contains_pushAll_of_contains {d : Diagnostics} {message : String} (more : List String)
    (h : d.contains message = true) : (d.pushAll more).contains message = true := by
  induction more generalizing d with
  | nil => exact h
  | cons other rest ih => exact ih (contains_push_of_contains other h)

/-- Messages that have been recorded before are not recorded again. -/
theorem pushAll_pushAll (d : Diagnostics) (messages : List String) :
    (d.pushAll messages).pushAll messages = d.pushAll messages := by
  have hall : ∀ m ∈ messages, (d.pushAll messages).contains m = true := by
    intro m hm
    obtain ⟨front, rest, rfl⟩ := List.append_of_mem hm
    have happend : d.pushAll (front ++ m :: rest) = ((d.pushAll front).push m).pushAll rest := by
      simp only [pushAll, List.foldl_append, List.foldl_cons]
    rw [happend]
    exact contains_pushAll_of_contains rest (contains_push _ m)
  generalize d.pushAll messages = e at hall ⊢
  induction messages with
  | nil => rfl
  | cons m rest ih =>
    have hm : e.push m = e := by
      unfold push
      rw [if_pos (hall m List.mem_cons_self)]
    have hstep : e.pushAll (m :: rest) = (e.push m).pushAll rest := rfl
    rw [hstep, hm]
    exact ih fun m' hm' => hall m' (List.mem_cons_of_mem _ hm')

end Diagnostics

namespace Session

/-! ## Histories

A history is the list of the calls made so far, the latest first. -/

/-- The document that a call gives to the session. -/
def Step.document? : Step → Option Document
  | .setDocument document => some document
  | _ => none

/-- The remarks that a call makes when a document is in force. -/
def Step.remarks (template : Template) (locale : Locale) (document : Option Document) :
    Step → List Remark
  | .setDocument _ | .drain => []
  | .eventLinks => made (Extraction.eventLinks template document)
  | .resolvedLinks base => made (Extraction.resolvedLinks template document base)
  | .eventRecord => made (Extraction.eventRecord template document)
  | .normalizeAll raws => (template.normalizeAll locale raws).remarks
where
  made {α : Type} : Except Error (Noted α) → List Remark
    | .ok noted => noted.remarks
    | .error _ => []

/-- The document that was given last. -/
def lastDocument (history : List Step) : Option Document := history.findSome? Step.document?

/-- The messages of the calls since the last drain, in order and with repetitions. -/
def emitted (template : Template) (locale : Locale) : List Step → List String
  | [] => []
  | .drain :: _ => []
  | call :: earlier =>
    emitted template locale earlier ++
      (call.remarks template locale (lastDocument earlier)).map Remark.message

/-! ## One call -/

/-- What a call leaves behind: a new document, no messages, or the messages of its
remarks. -/
theorem step_state (s : Session) (call : Step) :
    (s.step call).2 =
      { s with
        document := call.document?.or s.document
        diagnostics := match call with
          | .drain => .empty
          | call =>
            s.diagnostics.pushAll
              ((call.remarks s.template s.locale s.document).map Remark.message) } := by
  have hconclude : ∀ {α : Type} (outcome : Except Error (Noted α)),
      (s.conclude outcome).2 = s.note (Step.remarks.made outcome) := by
    intro α outcome
    cases outcome <;> rfl
  cases call with
  | setDocument document => rfl
  | drain => rfl
  | normalizeAll raws => rfl
  | eventLinks => exact hconclude (Extraction.eventLinks s.template s.document)
  | resolvedLinks base => exact hconclude (Extraction.resolvedLinks s.template s.document base)
  | eventRecord => exact hconclude (Extraction.eventRecord s.template s.document)

/-- What a call answers depends only on the template, the locale and the document, unless
it asks for the messages. -/
theorem step_answer {s s' : Session} {call : Step} (hcall : call ≠ .drain)
    (htemplate : s.template = s'.template) (hlocale : s.locale = s'.locale)
    (hdocument : s.document = s'.document) : (s.step call).1 = (s'.step call).1 := by
  have hconclude : ∀ {α : Type} (answer : α → Answer) (outcome : Except Error (Noted α)),
      (answerWith answer (s.conclude outcome)).1 =
        (answerWith answer (s'.conclude outcome)).1 := by
    intro α answer outcome
    cases outcome <;> rfl
  cases call with
  | setDocument document => rfl
  | drain => exact absurd rfl hcall
  | normalizeAll raws =>
    simp only [step, normalizeAll, htemplate, hlocale]
  | eventLinks =>
    simp only [step, eventLinks, htemplate, hdocument]
    exact hconclude _ _
  | resolvedLinks base =>
    simp only [step, resolvedLinks, htemplate, hdocument]
    exact hconclude _ _
  | eventRecord =>
    simp only [step, eventRecord, htemplate, hdocument]
    exact hconclude _ _

/-- A call that is made again at once answers the same and changes nothing. -/
theorem step_step {call : Step} (s : Session) (hcall : call ≠ .drain) :
    (s.step call).2.step call = s.step call := by
  refine Prod.ext ?_ ?_
  · cases call with
    | drain => exact absurd rfl hcall
    | setDocument document => rfl
    | _ =>
      refine step_answer hcall ?_ ?_ ?_
      all_goals rw [step_state]
      rfl
  · cases call with
    | drain => exact absurd rfl hcall
    | setDocument document => rfl
    | _ =>
      rw [step_state, step_state]
      simp only [Step.document?, Option.none_or, Diagnostics.pushAll_pushAll]

/-! ## All calls so far -/

theorem run_append_singleton (s : Session) (before : List Step) (call : Step) :
    (s.run (before ++ [call])).2 = ((s.run before).2.step call).2 := by
  induction before generalizing s with
  | nil => rfl
  | cons first rest ih => exact ih _

theorem getElem?_run (s : Session) (before : List Step) (call : Step) (after : List Step) :
    (s.run (before ++ call :: after)).1[before.length]? =
      some ((s.run before).2.step call).1 := by
  induction before generalizing s with
  | nil => rfl
  | cons first rest ih => exact ih _

/-- **The state of a session** is the document given last and the messages of the calls
since the last drain, each once and in the order in which they came up. -/
theorem state_after (template : Template) (locale : Locale) (history : List Step) :
    (run { template, locale } history.reverse).2 =
      { template, locale
        document := lastDocument history
        diagnostics := ⟨(emitted template locale history).eraseDups⟩ } := by
  induction history with
  | nil => rfl
  | cons call earlier ih =>
    rw [List.reverse_cons, run_append_singleton, ih, step_state]
    have hdocument : lastDocument (call :: earlier) =
        call.document?.or (lastDocument earlier) := by
      unfold lastDocument
      rw [List.findSome?_cons]
      cases call.document? <;> rfl
    rw [hdocument]
    cases call with
    | drain => rfl
    | _ => simp only [emitted, Diagnostics.pushAll_eraseDups]

/-- **Sessions have no hidden state**: in every run an answer depends only on the template, the
locale, the document given last and the call, but that a drain answers the messages since the last
drain, each once and in order. A call made again answers the same and changes nothing. -/
theorem answer_of_last_document (template : Template) (locale : Locale)
    (before after : List Step) (call : Step) :
    let opened : Session := { template, locale }
    let s := (opened.run before).2
    (opened.run (before ++ call :: after)).1[before.length]? = some (s.step call).1 ∧
      (call ≠ .drain → (s.step call).1 =
        (step { template, locale, document := lastDocument before.reverse } call).1) ∧
      (call = .drain → (s.step call).1 = .ok (.texts s.diagnostics.messages)) ∧
      s.diagnostics.messages = (emitted template locale before.reverse).eraseDups ∧
      (call ≠ .drain → (s.step call).2.step call = s.step call) := by
  intro opened s
  have hs : s = { template, locale
                  document := lastDocument before.reverse
                  diagnostics := ⟨(emitted template locale before.reverse).eraseDups⟩ } := by
    have h := state_after template locale before.reverse
    rwa [List.reverse_reverse] at h
  refine ⟨getElem?_run opened before call after, fun hcall => ?_, fun hcall => ?_, ?_,
    step_step s⟩
  · rw [hs]
    exact step_answer hcall rfl rfl rfl
  · rw [hcall]
    rfl
  · rw [hs]

/-- A template of an event page without root selectors. -/
def rootless : Template := { name := "t", event := some {} }

theorem answer_of_last_document_rootless :
    Step.eventRecord ≠ .drain ∧
      (let before : List Step := [.setDocument (.ofMarkup []), .eventRecord, .drain,
        .normalizeAll [], .eventRecord, .setDocument (.ofMarkup [.text "x"])]
      let s := (run { template := rootless, locale := .czech } before).2
      (s.step .eventRecord).1 =
          (step { template := rootless, locale := .czech,
                  document := some (.ofMarkup [.text "x"]) } .eventRecord).1 ∧
        s.diagnostics.messages = ["No root element of 'event' page found"] ∧
        (s.step .eventRecord).2.step .eventRecord = s.step .eventRecord) := by
  have h := answer_of_last_document rootless .czech
    [.setDocument (.ofMarkup []), .eventRecord, .drain, .normalizeAll [], .eventRecord,
      .setDocument (.ofMarkup [.text "x"])] [] .eventRecord
  have hcall : Step.eventRecord ≠ .drain := by simp
  exact ⟨hcall, h.2.1 hcall, h.2.2.2.1, h.2.2.2.2 hcall⟩

/-- What a drain answers is not settled by the document given last. -/
theorem drain_depends_on_history :
    ¬ ∀ (template : Template) (locale : Locale) (before before' : List Step) (call : Step),
      lastDocument before.reverse = lastDocument before'.reverse →
        ((run { template, locale } before).2.step call).1 =
          ((run { template, locale } before').2.step call).1 := by
  intro h
  have heq := h rootless .czech [.setDocument (.ofMarkup [])]
    [.setDocument (.ofMarkup []), .eventRecord] .drain rfl
  injection heq with heq
  injection heq with heq
  cases heq

end Session

end Almanac
