import Almanac.Proofs.Selector.Order

/-!
# Predicates that test an item

A predicate is given an item and its place among the others. It looks at the place where it asks
for the position or the size, or where its value is a number. All other predicates are tests:
what they say of an item they say wherever it stands (`evaluate_of_isPositionFree`,
`keeps_of_not_isNumeric`), so that a list of predicates that begins with a test first filters the
items by it (`keepAll_test`). Two tests may then change places and may be joined to one by an
`and`, whatever predicates stand before and after them (`evaluate_conjunctions`).
-/

namespace Almanac.Selector

namespace Expr

/-! ## Tests -/

mutual

/-- Whether an expression asks for a position or a size only inside nested predicates. -/
def isPositionFree : Expr → Bool
  | .operation _ left right => left.isPositionFree && right.isPositionFree
  | .union branches => arePositionFree branches
  | .path _ _ => true
  | .filter base _ _ => base.isPositionFree
  | .literal _ | .number _ => true
  | .call function arguments =>
    function ≠ .position && function ≠ .last && arePositionFree arguments

/-- Whether all expressions ask for a position or a size only inside nested predicates. -/
def arePositionFree : List Expr → Bool
  | [] => true
  | expr :: rest => expr.isPositionFree && arePositionFree rest

end

/-- Whether an expression is a number or a call of a function whose value is one. -/
def isNumeric : Expr → Bool
  | .number _ => true
  | .call function _ => function ∈ [.count, .stringLength, .position, .last]
  | _ => false

/-- Whether an expression tests an item, wherever it stands among others. -/
def isTest (expr : Expr) : Bool := expr.isPositionFree && !expr.isNumeric

end Expr

section Focus

variable (doc : Document)

theorem apply_of_ne_position {function : Function} (hposition : function ≠ .position)
    (hlast : function ≠ .last) {focus focus' : Focus} (h : focus.item = focus'.item)
    (arguments : List Value) :
    function.apply doc focus arguments = function.apply doc focus' arguments := by
  have htext : focus.argumentText doc arguments = focus'.argumentText doc arguments := by
    funext i
    simp only [Focus.argumentText, h]
  cases function with
  | position => exact absurd rfl hposition
  | last => exact absurd rfl hlast
  | _ => simp only [Function.apply, htext]

mutual

/-- Without its position an expression depends on nothing of the focus but the item. -/
theorem evaluate_of_isPositionFree {focus focus' : Focus} (h : focus.item = focus'.item) :
    ∀ expr : Expr, expr.isPositionFree = true →
      evaluate doc expr focus = evaluate doc expr focus'
  | .operation operator left right, hfree => by
    rw [Expr.isPositionFree, Bool.and_eq_true] at hfree
    rw [evaluate, evaluate, evaluate_of_isPositionFree h left hfree.1,
      evaluate_of_isPositionFree h right hfree.2]
  | .union branches, hfree => by
    rw [Expr.isPositionFree] at hfree
    rw [evaluate, evaluate, evaluateBranches_of_arePositionFree h branches hfree]
  | .path absolute steps, _ => by rw [evaluate, evaluate, h]
  | .filter base predicates steps, hfree => by
    rw [Expr.isPositionFree] at hfree
    -- the predicates see foci of their own
    rw [evaluate, evaluate, evaluate_of_isPositionFree h base hfree]
  | .literal _, _ | .number _, _ => by rw [evaluate, evaluate]
  | .call function arguments, hfree => by
    simp only [Expr.isPositionFree, Bool.and_eq_true, decide_eq_true_eq] at hfree
    obtain ⟨⟨hposition, hlast⟩, harguments⟩ := hfree
    rw [evaluate, evaluate, evaluateArguments_of_arePositionFree h arguments harguments,
      apply_of_ne_position doc hposition hlast h]

theorem evaluateBranches_of_arePositionFree {focus focus' : Focus}
    (h : focus.item = focus'.item) : ∀ branches : List Expr,
      Expr.arePositionFree branches = true →
      evaluateBranches doc branches focus = evaluateBranches doc branches focus'
  | [], _ => rfl
  | branch :: rest, hfree => by
    rw [Expr.arePositionFree, Bool.and_eq_true] at hfree
    rw [evaluateBranches, evaluateBranches, evaluate_of_isPositionFree h branch hfree.1,
      evaluateBranches_of_arePositionFree h rest hfree.2]

theorem evaluateArguments_of_arePositionFree {focus focus' : Focus}
    (h : focus.item = focus'.item) : ∀ arguments : List Expr,
      Expr.arePositionFree arguments = true →
      evaluateArguments doc arguments focus = evaluateArguments doc arguments focus'
  | [], _ => rfl
  | argument :: rest, hfree => by
    rw [Expr.arePositionFree, Bool.and_eq_true] at hfree
    rw [evaluateArguments, evaluateArguments, evaluate_of_isPositionFree h argument hfree.1,
      evaluateArguments_of_arePositionFree h rest hfree.2]

end

/-- Which kind of value an expression has is seen from its form, so that a predicate that is no
number is not compared with the position. -/
theorem keeps_of_not_isNumeric {expr : Expr} (h : expr.isNumeric = false) (focus : Focus)
    (position : Nat) :
    (evaluate doc expr focus).keeps position = (evaluate doc expr focus).toBool := by
  cases expr with
  | operation operator left right =>
    rw [evaluate]
    cases operator <;> rfl
  | union branches => rw [evaluate]; rfl
  | path absolute steps => rw [evaluate]; rfl
  | filter base predicates steps =>
    rw [evaluate]
    cases evaluate doc base focus <;> rfl
  | literal text => rw [evaluate]; rfl
  | number value => cases h
  | call function arguments =>
    rw [evaluate]
    cases function with
    | count | stringLength | position | last => cases h
    | _ => rfl

/-- Whether a test holds of an item taken alone. -/
def holdsOf (expr : Expr) (item : Item) : Bool := (evaluate doc expr ⟨item, 1, 1⟩).toBool

theorem keeps_test {expr : Expr} (h : expr.isTest = true) (item : Item) (position size : Nat) :
    (evaluate doc expr ⟨item, position, size⟩).keeps position = holdsOf doc expr item := by
  rw [Expr.isTest, Bool.and_eq_true, Bool.not_eq_true'] at h
  have halone : evaluate doc expr ⟨item, position, size⟩ = evaluate doc expr ⟨item, 1, 1⟩ := by
    apply evaluate_of_isPositionFree doc _ expr h.1
    rfl
  rw [keeps_of_not_isNumeric doc h.2, halone, holdsOf]

theorem holdsOf_and (p q : Expr) (item : Item) :
    holdsOf doc (.operation .and p q) item = (holdsOf doc p item && holdsOf doc q item) := by
  rw [holdsOf, evaluate]
  rfl

theorem isTest_and {p q : Expr} (hp : p.isTest = true) (hq : q.isTest = true) :
    (Expr.operation .and p q).isTest = true := by
  simp only [Expr.isTest, Expr.isPositionFree, Expr.isNumeric, Bool.and_eq_true, Bool.not_false,
    and_true] at hp hq ⊢
  exact ⟨hp.1, hq.1⟩

/-! ## Predicates in a row -/

theorem map_filter_zipIdx {α : Type} (p : α → Bool) (items : List α) :
    (items.zipIdx.filter fun x => p x.1).map (·.1) = items.filter p := by
  have h : (items.zipIdx.map (·.1)).filter p = (items.zipIdx.filter (p ∘ (·.1))).map (·.1) :=
    List.filter_map
  rw [List.zipIdx_map_fst] at h
  exact h.symm

/-- A test leaves out the items that it does not hold of, before the predicates behind it number
the others. -/
theorem keepAll_test {p : Expr} (h : p.isTest = true) (rest : List Expr) (items : List Item) :
    keepAll doc (p :: rest) items = keepAll doc rest (items.filter (holdsOf doc p)) := by
  have hkeeps : (fun x : Item × Nat =>
      (evaluate doc p ⟨x.1, x.2 + 1, items.length⟩).keeps (x.2 + 1)) =
        fun x => holdsOf doc p x.1 := by
    funext x
    exact keeps_test doc h x.1 (x.2 + 1) items.length
  rw [keepAll, ← map_filter_zipIdx (holdsOf doc p), hkeeps]

theorem keepAll_append (front back : List Expr) (items : List Item) :
    keepAll doc (front ++ back) items = keepAll doc back (keepAll doc front items) := by
  induction front generalizing items with
  | nil => rfl
  | cons predicate rest ih =>
    rw [List.cons_append, keepAll, keepAll]
    exact ih _

/-- Tests keep the items that each of them holds of. -/
theorem mem_keepAll_tests {predicates : List Expr} (h : ∀ p ∈ predicates, p.isTest = true)
    {items : List Item} {item : Item} :
    item ∈ keepAll doc predicates items ↔
      item ∈ items ∧ ∀ p ∈ predicates, holdsOf doc p item = true := by
  induction predicates generalizing items with
  | nil => simp [keepAll]
  | cons p rest ih =>
    obtain ⟨hp, hrest⟩ := List.forall_mem_cons.mp h
    rw [keepAll_test doc hp, ih hrest, List.mem_filter, List.forall_mem_cons, and_assoc]

end Focus

/-! ## Two tests -/

/-- The ways to write that an item passes two tests. -/
def conjunctions (p q : Expr) : List (List Expr) := [[p, q], [q, p], [.operation .and p q]]

/-- A place for predicates in an expression: at a step of a path, behind the base of a filter, or
at one of the steps behind it. -/
inductive Place where
  | ofPath (absolute : Bool) (before : List (Step Expr)) (axis : Axis) (test : NodeTest)
    (after : List (Step Expr))
  | ofFilter (base : Expr) (steps : List (Step Expr))
  | behindFilter (base : Expr) (predicates : List Expr) (before : List (Step Expr)) (axis : Axis)
    (test : NodeTest) (after : List (Step Expr))

/-- The expression with predicates in the place. -/
def Place.fill : Place → List Expr → Expr
  | ofPath absolute before axis test after, predicates =>
    .path absolute (before ++ ⟨axis, test, predicates⟩ :: after)
  | ofFilter base steps, predicates => .filter base predicates steps
  | behindFilter base others before axis test after, predicates =>
    .filter base others (before ++ ⟨axis, test, predicates⟩ :: after)

section Places

variable {doc : Document} {p q : Expr}

theorem keepAll_conjunction (hp : p.isTest = true) (hq : q.isTest = true) {written : List Expr}
    (h : written ∈ conjunctions p q) (items : List Item) :
    keepAll doc written items =
      items.filter fun item => holdsOf doc p item && holdsOf doc q item := by
  simp only [conjunctions, List.mem_cons, List.not_mem_nil, or_false] at h
  rcases h with rfl | rfl | rfl
  · rw [keepAll_test doc hp, keepAll_test doc hq, keepAll, List.filter_filter]
    apply List.filter_congr
    intro item _
    exact Bool.and_comm _ _
  · rw [keepAll_test doc hq, keepAll_test doc hp, keepAll, List.filter_filter]
  · rw [keepAll_test doc (isTest_and hp hq), keepAll]
    apply List.filter_congr
    intro item _
    exact holdsOf_and doc p q item

theorem takeStepsFrom_append (before after : List (Step Expr)) (items : List Item) :
    takeStepsFrom doc (before ++ after) items =
      takeStepsFrom doc after (takeStepsFrom doc before items) := by
  induction before generalizing items with
  | nil => rfl
  | cons step rest ih =>
    obtain ⟨axis, test, predicates⟩ := step
    rw [List.cons_append, takeStepsFrom, takeStepsFrom]
    exact ih _

/-- Predicates that keep the same items of every list have the same effect in every place. -/
theorem evaluate_fill_congr {written written' : List Expr}
    (h : ∀ items, keepAll doc written items = keepAll doc written' items) (place : Place)
    (focus : Focus) :
    evaluate doc (place.fill written) focus = evaluate doc (place.fill written') focus := by
  have hstep : ∀ (before : List (Step Expr)) (axis : Axis) (test : NodeTest)
      (after : List (Step Expr)) (items : List Item),
      takeStepsFrom doc (before ++ ⟨axis, test, written⟩ :: after) items =
        takeStepsFrom doc (before ++ ⟨axis, test, written'⟩ :: after) items := by
    intro before axis test after items
    rw [takeStepsFrom_append, takeStepsFrom_append, takeStepsFrom, takeStepsFrom]
    simp only [h]
  cases place with
  | ofPath absolute before axis test after =>
    simp only [Place.fill, evaluate, hstep]
  | ofFilter base steps =>
    simp only [Place.fill, evaluate, h]
  | behindFilter base others before axis test after =>
    simp only [Place.fill, evaluate, hstep]

end Places

/-- **Two tests**, in either order or joined by an `and`, keep the same items of every list, in
every place for predicates and whatever predicates stand before and after them: the expressions
have the same value at every focus, and so give the same texts and nodes at every node. -/
theorem evaluate_conjunctions (doc : Document) {p q : Expr} (hp : p.isTest = true)
    (hq : q.isTest = true) {written written' : List Expr} (h : written ∈ conjunctions p q)
    (h' : written' ∈ conjunctions p q) (front back : List Expr) :
    (∀ items, keepAll doc (front ++ written ++ back) items =
      keepAll doc (front ++ written' ++ back) items) ∧
    ∀ place : Place,
      let expr := place.fill (front ++ written ++ back)
      let expr' := place.fill (front ++ written' ++ back)
      (∀ focus, evaluate doc expr focus = evaluate doc expr' focus) ∧
        (∀ context, selectStrings doc expr context = selectStrings doc expr' context) ∧
        ∀ context, selectNodes doc expr context = selectNodes doc expr' context := by
  have hkeep : ∀ items, keepAll doc (front ++ written ++ back) items =
      keepAll doc (front ++ written' ++ back) items := by
    intro items
    simp only [keepAll_append]
    rw [keepAll_conjunction hp hq h, keepAll_conjunction hp hq h']
  refine ⟨hkeep, ?_⟩
  intro place expr expr'
  have hvalue : ∀ focus, evaluate doc expr focus = evaluate doc expr' focus :=
    evaluate_fill_congr hkeep place
  refine ⟨hvalue, ?_, ?_⟩
  · intro context
    rw [selectStrings, selectStrings, valueAt, valueAt, hvalue]
  · intro context
    rw [selectNodes, selectNodes, valueAt, valueAt, hvalue]

/-- A test that looks at the item and one that looks at the last child, before a position. -/
theorem evaluate_conjunctions_position :
    let doc := Document.ofMarkup [.element "p" [] [.text "x", .element "b" [] [.text "1"]],
      .element "p" [] [.text "x"], .element "p" [] [.text "x", .element "b" [] [.text "2"]]]
    let marked : Expr := .call .contains [.path false [.toAny .itself], .literal "x"]
    let bold : Expr := .path false [⟨.child, .name "b", [.call .last []]⟩]
    let second : Expr := .number (Number.ofNat 2)
    let rows (predicates : List Expr) : Expr := .path false [⟨.child, .name "p", predicates⟩]
    marked.isTest = true ∧ bold.isTest = true ∧
      [marked, bold] ∈ conjunctions marked bold ∧
      [.operation .and marked bold] ∈ conjunctions marked bold ∧
      selectStrings doc (rows [marked, bold, second]) 0 = ["x2"] ∧
      selectStrings doc (rows [.operation .and marked bold, second]) 0 = ["x2"] := by
  intro doc marked bold second rows
  have hmarked : marked.isTest = true := rfl
  have hbold : bold.isTest = true := rfl
  have htwo : [marked, bold] ∈ conjunctions marked bold := List.mem_cons_self
  have hone : [.operation .and marked bold] ∈ conjunctions marked bold :=
    List.mem_cons_of_mem _ (List.mem_cons_of_mem _ List.mem_cons_self)
  have hsame := ((evaluate_conjunctions doc hmarked hbold htwo hone [] [second]).2
    (.ofPath false [] .child (.name "p") [])).2.1 0
  have htexts : selectStrings doc (rows [marked, bold, second]) 0 = ["x2"] := by decide +kernel
  exact ⟨hmarked, hbold, htwo, hone, htexts, hsame.symm.trans htexts⟩

end Almanac.Selector
