import Mathlib
import Almanac.Proofs.Selector.Rendering
import Almanac.Selector.Evaluation

/-!
# Expressions that can be evaluated

The parts of an expression are the expressions in it at any depth: its operands, branches,
arguments and predicates, what it filters, and their parts (`Expr.HasPart`). An expression is well
formed when this holds of all its parts: a call has as many arguments as its function takes, a path
that is not absolute has a step, a union has two branches, a filter has a predicate or a step, and
the names that steps ask for have no Latin capitals (`Expr.WellFormed`).

What compiles is well formed. Evaluating looks at the arguments of a call without asking whether
they are there; a run that does ask (`checkedEvaluate`) finds every one of them in a well-formed
expression, and has the same value (`checkedEvaluate_eq`). So evaluating what compiles cannot go
wrong (`wellFormed_of_compile`).
-/

namespace Almanac.Selector

open Text

/-! ## Parts -/

namespace Expr

/-- The steps of an expression. -/
def steps : Expr → List (Step Expr)
  | .path _ steps | .filter _ _ steps => steps
  | _ => []

/-- The expressions right inside an expression. -/
def parts : Expr → List Expr
  | .operation _ left right => [left, right]
  | .union branches => branches
  | .path _ steps => steps.flatMap (·.predicates)
  | .filter base predicates steps => base :: (predicates ++ steps.flatMap (·.predicates))
  | .literal _ | .number _ => []
  | .call _ arguments => arguments

/-- A part of an expression: the expression itself, or a part of what is right inside it. -/
inductive HasPart : Expr → Expr → Prop
  | itself (expr : Expr) : HasPart expr expr
  | inside {expr inner part : Expr} : inner ∈ expr.parts → HasPart inner part → HasPart expr part

/-- What holds of all parts of an expression that compiles. -/
structure WellFormed (expr : Expr) : Prop where
  /-- A call has as many arguments as its function takes. -/
  arguments : ∀ function arguments, expr.HasPart (.call function arguments) →
    function.takes arguments.length = true
  /-- A path from the item at hand has a step. -/
  steps : ∀ steps, expr.HasPart (.path false steps) → 1 ≤ steps.length
  branches : ∀ branches, expr.HasPart (.union branches) → 2 ≤ branches.length
  filters : ∀ base predicates steps, expr.HasPart (.filter base predicates steps) →
    1 ≤ predicates.length ∨ 1 ≤ steps.length
  /-- No name that is asked for has a Latin capital. -/
  names : ∀ part, expr.HasPart part → ∀ step ∈ part.steps, ∀ name, step.test = .name name →
    ∀ c ∈ name.toList, ¬('A' ≤ c ∧ c ≤ 'Z')

/-- What is inside a well-formed expression is well-formed. -/
theorem WellFormed.inside {expr inner : Expr} (h : expr.WellFormed) (hinner : inner ∈ expr.parts) :
    inner.WellFormed where
  arguments function arguments hpart := h.arguments function arguments (.inside hinner hpart)
  steps steps hpart := h.steps steps (.inside hinner hpart)
  branches branches hpart := h.branches branches (.inside hinner hpart)
  filters base predicates steps hpart := h.filters base predicates steps (.inside hinner hpart)
  names part hpart := h.names part (.inside hinner hpart)

end Expr

/-! ## What compiles is well formed -/

theorem not_capital_of_lowerLatin {name : String} (h : lowerLatin name = name) :
    ∀ c ∈ name.toList, ¬('A' ≤ c ∧ c ≤ 'Z') := by
  intro c hc hcapital
  have hname : name.toList.map asciiLower = name.toList.map id := by
    rw [List.map_id, ← String.toList_ofList (l := name.toList.map asciiLower), ← lowerLatin, h]
  have hsame : asciiLower c = c := List.map_inj_left.mp hname c hc
  have hcode : 65 ≤ c.toNat := hcapital.1
  rw [asciiLower, if_pos (by simpa using hcapital)] at hsame
  have hlarger : c.toNat + 32 = c.toNat := toNat_of_ofNat_eq hsame (by omega)
  omega

namespace Printable

variable {expr part : Expr}

theorem of_mem_parts (h : Printable expr) (hpart : part ∈ expr.parts) : Printable part := by
  have hsteps : ∀ {steps : List (Step Expr)},
      (∀ step ∈ steps, ∀ predicate ∈ step.predicates, Printable predicate) →
      ∀ predicate ∈ steps.flatMap (·.predicates), Printable predicate := by
    intro steps h predicate hmem
    obtain ⟨step, hstep, hpredicate⟩ := List.mem_flatMap.mp hmem
    exact h step hstep predicate hpredicate
  cases h with
  | operation hleft hright =>
    exact List.forall_mem_cons.mpr ⟨hleft, List.forall_mem_singleton.mpr hright⟩ part hpart
  | union h => exact h part hpart
  | path _ _ h => exact hsteps h part hpart
  | filter _ hbase hpredicates _ h =>
    rcases List.mem_cons.mp hpart with rfl | hpart
    · exact hbase
    · exact List.forall_mem_append.mpr ⟨hpredicates, hsteps h⟩ part hpart
  | literal _ | number _ => cases hpart
  | call _ h => exact h part hpart

theorem of_hasPart (h : Printable expr) (hpart : expr.HasPart part) : Printable part := by
  induction hpart with
  | itself => exact h
  | inside hinner _ ih => exact ih (h.of_mem_parts hinner)

theorem isLexical_of_mem_steps (h : Printable expr) :
    ∀ step ∈ expr.steps, step.test.IsLexical := by
  cases h with
  | path _ htests _ | filter _ _ _ htests _ => exact htests
  | operation _ _ | union _ | literal _ | number _ | call _ _ => exact List.forall_mem_nil _

/-- A printable tree is well-formed. -/
theorem wellFormed (h : Printable expr) : expr.WellFormed where
  arguments function arguments hpart := by
    cases h.of_hasPart hpart with
    | call htakes _ => exact htakes
  steps steps hpart := by
    cases h.of_hasPart hpart with
    | path hsteps _ _ => exact List.length_pos_iff.mpr (hsteps.resolve_left Bool.false_ne_true)
  branches branches hpart := by
    cases h.of_hasPart hpart with
    | union _ => exact Nat.le_add_left 2 _
  filters base predicates steps hpart := by
    cases h.of_hasPart hpart with
    | filter hfilter _ _ _ _ =>
      exact hfilter.imp List.length_pos_iff.mpr List.length_pos_iff.mpr
  names part hpart step hstep name htest := by
    have hlexical := (h.of_hasPart hpart).isLexical_of_mem_steps step hstep
    rw [htest] at hlexical
    exact not_capital_of_lowerLatin hlexical.2

end Printable

/-! ## Evaluating with every argument looked for -/

/-- An argument that a function looks at and its call does not have. -/
structure Missing where
  function : Function
  index : Nat
  deriving Repr, DecidableEq

namespace Function

/-- How many arguments a function looks at without asking. -/
def required : Function → Nat
  | contains | startsWith => 2
  | not | count => 1
  | _ => 0

/-- An argument of a function, which has to be there. -/
def argument (function : Function) (arguments : List Value) (i : Nat) : Except Missing Value :=
  match arguments[i]? with
  | some value => .ok value
  | none => .error ⟨function, i⟩

/-- The value of a function of arguments, of which those that it requires have to be there. -/
def checkedApply (doc : Document) (focus : Focus) (function : Function) (arguments : List Value) :
    Except Missing Value :=
  match function with
  | contains => do
    let text ← function.argument arguments 0
    let piece ← function.argument arguments 1
    return .truth (containsText (text.toText doc) (piece.toText doc))
  | startsWith => do
    let text ← function.argument arguments 0
    let piece ← function.argument arguments 1
    return .truth (beginsWith (text.toText doc) (piece.toText doc))
  | not => do
    let value ← function.argument arguments 0
    return .truth (!value.toBool)
  | count => do
    let value ← function.argument arguments 0
    return .number (Number.ofNat value.toItems.length)
  -- these take what arguments there are
  | normalizeSpace | string | stringLength | concat | position | last | trueValue | falseValue =>
    .ok (function.apply doc focus arguments)

end Function

/-- The items that pass a check, which may go wrong. -/
def checkedFilter {α ε : Type} (keeps : α → Except ε Bool) : List α → Except ε (List α)
  | [] => .ok []
  | a :: rest => do
    let kept ← keeps a
    let more ← checkedFilter keeps rest
    return if kept then a :: more else more

mutual

/-- The value of an expression at a focus. Both operands of an operator and all arguments of a call
are evaluated, also where their values do not matter. -/
def checkedEvaluate (doc : Document) (expr : Expr) (focus : Focus) : Except Missing Value :=
  match expr with
  | .operation operator left right => do
    let a ← checkedEvaluate doc left focus
    let b ← checkedEvaluate doc right focus
    return operator.apply doc a b
  | .union branches => do
    let items ← checkedBranches doc branches focus
    return .items (Item.inDocumentOrder items)
  | .path absolute steps => do
    let items ← checkedSteps doc steps [if absolute then .node 0 else focus.item]
    return .items items
  | .filter base predicates steps => do
    match ← checkedEvaluate doc base focus with
    | .items items => do
      let kept ← checkedKeepAll doc predicates items
      let found ← checkedSteps doc steps kept
      return .items found
    | _ => return .items []
  | .literal text => .ok (.text text)
  | .number value => .ok (.number value)
  | .call function arguments => do
    let values ← checkedArguments doc arguments focus
    function.checkedApply doc focus values
termination_by structural expr

/-- The items of all branches of a union. -/
def checkedBranches (doc : Document) (branches : List Expr) (focus : Focus) :
    Except Missing (List Item) :=
  match branches with
  | [] => .ok []
  | branch :: rest => do
    let value ← checkedEvaluate doc branch focus
    let more ← checkedBranches doc rest focus
    return value.toItems ++ more
termination_by structural branches

/-- The values of the arguments of a call. -/
def checkedArguments (doc : Document) (arguments : List Expr) (focus : Focus) :
    Except Missing (List Value) :=
  match arguments with
  | [] => .ok []
  | argument :: rest => do
    let value ← checkedEvaluate doc argument focus
    let more ← checkedArguments doc rest focus
    return value :: more
termination_by structural arguments

/-- The items that steps lead to. -/
def checkedSteps (doc : Document) (steps : List (Step Expr)) (items : List Item) :
    Except Missing (List Item) :=
  match steps with
  | [] => .ok items
  | ⟨axis, test, predicates⟩ :: rest => do
    let found ← items.mapM fun item =>
      checkedKeepAll doc predicates (item.candidates doc axis test)
    checkedSteps doc rest (Item.inDocumentOrder found.flatten)
termination_by structural steps

/-- The items that pass every predicate. -/
def checkedKeepAll (doc : Document) (predicates : List Expr) (items : List Item) :
    Except Missing (List Item) :=
  match predicates with
  | [] => .ok items
  | predicate :: rest => do
    let kept ← checkedFilter (fun (item, i) => do
      let value ← checkedEvaluate doc predicate ⟨item, i + 1, items.length⟩
      return value.keeps (i + 1)) items.zipIdx
    checkedKeepAll doc rest (kept.map (·.1))
termination_by structural predicates

end

/-! ## Nothing is missing -/

theorem ok_bind {α β ε : Type} (a : α) (f : α → Except ε β) : (Except.ok a >>= f) = f a := rfl

/-- A check that never fails filters as it does without the check. -/
theorem checkedFilter_eq {α ε : Type} {keeps : α → Except ε Bool} {p : α → Bool}
    (h : ∀ a, keeps a = .ok (p a)) (items : List α) :
    checkedFilter keeps items = .ok (items.filter p) := by
  induction items with
  | nil => rfl
  | cons a rest ih =>
    rw [checkedFilter, h, ok_bind, ih, ok_bind, List.filter_cons]
    rfl

section Checked

variable (doc : Document)

theorem required_le_of_takes {function : Function} {n : Nat} (h : function.takes n = true) :
    function.required ≤ n := by
  cases function <;> simp_all [Function.takes, Function.required]

/-- The first argument that is not there is the one that goes wrong. -/
theorem checkedApply_eq (focus : Focus) (function : Function) (arguments : List Value) :
    function.checkedApply doc focus arguments =
      if arguments.length < function.required then .error ⟨function, arguments.length⟩
      else .ok (function.apply doc focus arguments) := by
  cases function with
  | contains | startsWith =>
    match arguments with
    | [] | [_] => rfl
    | _ :: _ :: rest => rw [if_neg (by simp [Function.required])]; rfl
  | not | count =>
    match arguments with
    | [] => rfl
    | _ :: rest => rw [if_neg (by simp [Function.required])]; rfl
  | normalizeSpace | string | stringLength | concat | position | last | trueValue | falseValue =>
    exact (if_neg (Nat.not_lt_zero _)).symm

theorem length_evaluateArguments (focus : Focus) (arguments : List Expr) :
    (evaluateArguments doc arguments focus).length = arguments.length := by
  induction arguments with
  | nil => rfl
  | cons argument rest ih => rw [evaluateArguments, List.length_cons, List.length_cons, ih]

mutual

/-- **In a well-formed expression no argument is missing**, at any item of any document. -/
theorem checkedEvaluate_eq : ∀ (expr : Expr) (focus : Focus), expr.WellFormed →
    checkedEvaluate doc expr focus = .ok (evaluate doc expr focus)
  | .operation operator left right, focus, h => by
    have hleft : left ∈ (Expr.operation operator left right).parts := List.mem_cons_self
    have hright : right ∈ (Expr.operation operator left right).parts :=
      List.mem_cons_of_mem _ List.mem_cons_self
    rw [checkedEvaluate, evaluate, checkedEvaluate_eq left focus (h.inside hleft), ok_bind,
      checkedEvaluate_eq right focus (h.inside hright)]
    rfl
  | .union branches, focus, h => by
    rw [checkedEvaluate, evaluate, checkedBranches_eq branches focus fun _ hmem => h.inside hmem]
    rfl
  | .path absolute steps, focus, h => by
    rw [checkedEvaluate, evaluate, checkedSteps_eq steps _ fun _ hmem => h.inside hmem]
    rfl
  | .filter base predicates steps, focus, h => by
    have hbase : base ∈ (Expr.filter base predicates steps).parts := List.mem_cons_self
    have hpredicates : ∀ predicate ∈ predicates, predicate.WellFormed := fun _ hmem =>
      h.inside (List.mem_cons_of_mem _ (List.mem_append_left _ hmem))
    have hsteps : ∀ predicate ∈ steps.flatMap (·.predicates), predicate.WellFormed := fun _ hmem =>
      h.inside (List.mem_cons_of_mem _ (List.mem_append_right _ hmem))
    rw [checkedEvaluate, evaluate, checkedEvaluate_eq base focus (h.inside hbase), ok_bind]
    cases evaluate doc base focus with
    | items items =>
      dsimp only
      rw [checkedKeepAll_eq predicates items hpredicates, ok_bind,
        checkedSteps_eq steps _ hsteps]
      rfl
    | text _ | number _ | truth _ => rfl
  | .literal _, _, _ | .number _, _, _ => by rw [checkedEvaluate, evaluate]
  | .call function arguments, focus, h => by
    have htakes := h.arguments function arguments (.itself _)
    have henough : ¬(evaluateArguments doc arguments focus).length < function.required := by
      rw [length_evaluateArguments]
      exact Nat.not_lt.mpr (required_le_of_takes htakes)
    rw [checkedEvaluate, evaluate, checkedArguments_eq arguments focus fun _ hmem => h.inside hmem,
      ok_bind, checkedApply_eq, if_neg henough]

/-- Well-formed branches are evaluated without failing. -/
theorem checkedBranches_eq : ∀ (branches : List Expr) (focus : Focus),
    (∀ branch ∈ branches, branch.WellFormed) →
      checkedBranches doc branches focus = .ok (evaluateBranches doc branches focus)
  | [], _, _ => rfl
  | branch :: rest, focus, h => by
    obtain ⟨hbranch, hrest⟩ := List.forall_mem_cons.mp h
    rw [checkedBranches, evaluateBranches, checkedEvaluate_eq branch focus hbranch, ok_bind,
      checkedBranches_eq rest focus hrest]
    rfl

theorem checkedArguments_eq : ∀ (arguments : List Expr) (focus : Focus),
    (∀ argument ∈ arguments, argument.WellFormed) →
      checkedArguments doc arguments focus = .ok (evaluateArguments doc arguments focus)
  | [], _, _ => rfl
  | argument :: rest, focus, h => by
    obtain ⟨hargument, hrest⟩ := List.forall_mem_cons.mp h
    rw [checkedArguments, evaluateArguments, checkedEvaluate_eq argument focus hargument, ok_bind,
      checkedArguments_eq rest focus hrest]
    rfl

/-- Steps with well-formed predicates are taken without failing. -/
theorem checkedSteps_eq : ∀ (steps : List (Step Expr)) (items : List Item),
    (∀ predicate ∈ steps.flatMap (·.predicates), predicate.WellFormed) →
      checkedSteps doc steps items = .ok (takeStepsFrom doc steps items)
  | [], _, _ => rfl
  | ⟨axis, test, predicates⟩ :: rest, items, h => by
    rw [List.flatMap_cons, List.forall_mem_append] at h
    have hkept : (fun item : Item => checkedKeepAll doc predicates (item.candidates doc axis test)) =
        fun item => pure (keepAll doc predicates (item.candidates doc axis test)) :=
      funext fun item => checkedKeepAll_eq predicates _ h.1
    rw [checkedSteps, takeStepsFrom, hkept, List.mapM_pure, pure_bind, ← List.flatMap_def]
    exact checkedSteps_eq rest _ h.2

theorem checkedKeepAll_eq : ∀ (predicates : List Expr) (items : List Item),
    (∀ predicate ∈ predicates, predicate.WellFormed) →
      checkedKeepAll doc predicates items = .ok (keepAll doc predicates items)
  | [], _, _ => rfl
  | predicate :: rest, items, h => by
    obtain ⟨hpredicate, hrest⟩ := List.forall_mem_cons.mp h
    rw [checkedKeepAll, keepAll, checkedFilter_eq (p := fun (item, i) =>
      (evaluate doc predicate ⟨item, i + 1, items.length⟩).keeps (i + 1)), ok_bind]
    · exact checkedKeepAll_eq rest _ hrest
    · rintro ⟨item, i⟩
      dsimp only
      rw [checkedEvaluate_eq predicate _ hpredicate]
      rfl

end

end Checked

/-- **What compiles is well formed, so that evaluating it cannot go wrong**: all its parts have the
arguments, steps, branches and names that they should have, and at any item of any document every
argument that is looked for is there. -/
theorem wellFormed_of_compile {source : String} {expr : Expr} (h : compile source = .ok expr) :
    expr.WellFormed ∧ ∀ (doc : Document) (focus : Focus),
      checkedEvaluate doc expr focus = .ok (evaluate doc expr focus) := by
  have hwell : expr.WellFormed := (printable_of_compile h).wellFormed
  exact ⟨hwell, fun doc focus => checkedEvaluate_eq doc expr focus hwell⟩

/-- The rows without a class and the paragraphs with some text: names are asked for in small letters,
whatever letters they are written in. -/
theorem wellFormed_of_compile_rows :
    let doc := Document.ofMarkup [.element "tr" [] [.element "p" [] [.text "x"]]]
    let source := "/TR[not(@Class)] | (p)[string()]"
    let test : Expr := .call .not [.path false [⟨.attributes, .name "class", []⟩]]
    let rows : Expr := .path true [⟨.child, .name "tr", [test]⟩]
    let filled : Expr := .filter (.path false [⟨.child, .name "p", []⟩]) [.call .string []] []
    let expr : Expr := .union [rows, filled]
    compile source = .ok expr ∧ expr.WellFormed ∧
      checkedEvaluate doc expr ⟨.node 0, 1, 1⟩ = .ok (.items [.node 1]) := by
  intro doc source test rows filled expr
  have hcompile : compile source = .ok expr := by cbv
  obtain ⟨hwell, hchecked⟩ := wellFormed_of_compile hcompile
  have hvalue : evaluate doc expr ⟨.node 0, 1, 1⟩ = .items [.node 1] := by decide +kernel
  exact ⟨hcompile, hwell, by rw [hchecked, hvalue]⟩

/-- A call without its argument is no part of what compiles, and does go wrong. -/
example (doc : Document) (focus : Focus) :
    checkedEvaluate doc (.call .count [.call .not []]) focus = .error ⟨.not, 0⟩ := rfl

end Almanac.Selector
