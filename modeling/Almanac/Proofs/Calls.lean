/-!
# Calls and their log

Calls are made one after the other on a state; each of them answers with a value or an
error. The log of the calls holds each call with its answer and the state it left. Where
a call that fails leaves the state as it was, the calls that did not fail have, made by
themselves, that part of the log which is theirs (`log_succeeding`), and lead to the same
state (`after_succeeding`).
-/

namespace Almanac

/-- A call that was made, with its answer. -/
structure Made (σ γ ε α : Type) where
  call : γ
  answer : Except ε α
  /-- The state that the call left. -/
  state : σ

namespace Calls

variable {σ γ ε α : Type} (step : σ → γ → Except ε α × σ)

/-- The state after some calls. -/
def after (s : σ) : List γ → σ
  | [] => s
  | call :: rest => after (step s call).2 rest

/-- The calls with their answers, in order. -/
def log (s : σ) : List γ → List (Made σ γ ε α)
  | [] => []
  | call :: rest =>
    let (answer, next) := step s call
    ⟨call, answer, next⟩ :: log next rest

theorem log_cons (s : σ) (call : γ) (rest : List γ) :
    log step s (call :: rest) =
      ⟨call, (step s call).1, (step s call).2⟩ :: log step (step s call).2 rest :=
  rfl

/-- The calls that answer with no error. -/
def succeeding (s : σ) (calls : List γ) : List γ :=
  ((log step s calls).filter (·.answer.isOk)).map (·.call)

/-! ## Calls that fail -/

section Failing

variable {step}

/-- A call that fails leaves the state as it was. -/
def KeepsStateOnError (step : σ → γ → Except ε α × σ) : Prop :=
  ∀ s call e, (step s call).1 = .error e → (step s call).2 = s

theorem succeeding_cons_error (hstep : KeepsStateOnError step) {s : σ} {call : γ} {e : ε}
    (h : (step s call).1 = .error e) (rest : List γ) :
    succeeding step s (call :: rest) = succeeding step s rest := by
  simp [succeeding, log_cons, h, hstep s call e h, Except.isOk, Except.toBool]

theorem succeeding_cons_ok {s : σ} {call : γ} {a : α} (h : (step s call).1 = .ok a)
    (rest : List γ) :
    succeeding step s (call :: rest) = call :: succeeding step (step s call).2 rest := by
  simp [succeeding, log_cons, h, Except.isOk, Except.toBool]

/-- Without the calls that fail the others answer the same. -/
theorem log_succeeding (hstep : KeepsStateOnError step) (s : σ) (calls : List γ) :
    log step s (succeeding step s calls) = (log step s calls).filter (·.answer.isOk) := by
  induction calls generalizing s with
  | nil => rfl
  | cons call rest ih =>
    cases h : (step s call).1 with
    | error e =>
      -- the call is left out here, and there the rest runs from the same state
      rw [succeeding_cons_error hstep h, ih]
      simp [log_cons, h, hstep s call e h, Except.isOk, Except.toBool]
    | ok a =>
      rw [succeeding_cons_ok h, log_cons, ih]
      simp [log_cons, h, Except.isOk, Except.toBool]

/-- Without the calls that fail the same is left behind. -/
theorem after_succeeding (hstep : KeepsStateOnError step) (s : σ) (calls : List γ) :
    after step s (succeeding step s calls) = after step s calls := by
  induction calls generalizing s with
  | nil => rfl
  | cons call rest ih =>
    cases h : (step s call).1 with
    | error e =>
      rw [succeeding_cons_error hstep h, ih, after, hstep s call e h]
    | ok a =>
      rw [succeeding_cons_ok h, after, ih, after]

end Failing

end Calls

end Almanac
