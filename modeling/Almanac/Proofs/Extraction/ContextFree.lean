import Mathlib
import Almanac.Extraction.Reading
import Almanac.Proofs.Repetitions
import Almanac.Proofs.Selector.WellFormed

/-!
# Selectors that do not look at their context

An expression looks at the item that it is evaluated at in a path from there, in a function that
reads it when the argument is left out, and through its parts. Its predicates are evaluated at
items of their own. So an expression in which, outside of predicates, every path is absolute and no
such function lacks its argument has one value in all of a document (`evaluate_of_isContextFree`).

A field with such selectors finds the same texts in every root. Cleaning keeps each text at its
first place only, so that it leaves the same of the texts of one root and of several
(`sanitize_flatMap`), and the values of the field do not depend on the roots
(`contextFree_selectors`).
-/

namespace Almanac

namespace Selector

/-! ## Expressions -/

/-- Whether a function reads the item at hand when its argument is left out. -/
def Function.mayReadContext (function : Function) : Bool :=
  function ∈ [.string, .normalizeSpace, .stringLength]

namespace Expr

mutual

/-- Whether outside of predicates every path is absolute and no function is left without the
argument for which it would read the item at hand. -/
def isContextFree : Expr → Bool
  | .operation _ left right => left.isContextFree && right.isContextFree
  | .union branches => areContextFree branches
  | .path absolute _ => absolute
  | .filter base _ _ => base.isContextFree
  | .literal _ | .number _ => true
  | .call function arguments =>
    !(function.mayReadContext && arguments.isEmpty) && areContextFree arguments

/-- Whether all expressions are so. -/
def areContextFree : List Expr → Bool
  | [] => true
  | expr :: rest => expr.isContextFree && areContextFree rest

end

end Expr

/-- Foci at the same place among as many items. -/
def Focus.SamePlace (focus focus' : Focus) : Prop :=
  focus.position = focus'.position ∧ focus.size = focus'.size

section Focus

variable (doc : Document) {focus focus' : Focus}

theorem argumentText_eq (focus focus' : Focus) {arguments : List Value} {i : Nat}
    (h : i < arguments.length) :
    focus.argumentText doc arguments i = focus'.argumentText doc arguments i := by
  rw [Focus.argumentText, Focus.argumentText, List.getElem?_eq_getElem h]

/-- With all its arguments a function looks only at the position and the size. -/
theorem apply_of_takes (h : focus.SamePlace focus') {function : Function}
    {arguments : List Value} (htakes : function.takes arguments.length = true)
    (hgiven : function.mayReadContext = true → arguments ≠ []) :
    function.apply doc focus arguments = function.apply doc focus' arguments := by
  cases function with
  | contains | startsWith =>
    rw [Function.takes, beq_iff_eq] at htakes
    have hfirst : 0 < arguments.length := by omega
    have hsecond : 1 < arguments.length := by omega
    simp only [Function.apply, argumentText_eq doc focus focus' hfirst,
      argumentText_eq doc focus focus' hsecond]
  | string | normalizeSpace | stringLength =>
    have hfirst : 0 < arguments.length := List.length_pos_iff.mpr (hgiven rfl)
    simp only [Function.apply, argumentText_eq doc focus focus' hfirst]
  | position => simp only [Function.apply, h.1]
  | last => simp only [Function.apply, h.2]
  | not | concat | count | trueValue | falseValue => rfl

mutual

/-- Of two runs at items of a document, predicates see the same and nothing else sees the item. -/
theorem evaluate_of_isContextFree (h : focus.SamePlace focus') : ∀ expr : Expr,
    Printable expr → expr.isContextFree = true →
      evaluate doc expr focus = evaluate doc expr focus'
  | .operation operator left right, .operation hleft hright, hfree => by
    rw [Expr.isContextFree, Bool.and_eq_true] at hfree
    rw [evaluate, evaluate, evaluate_of_isContextFree h left hleft hfree.1,
      evaluate_of_isContextFree h right hright hfree.2]
  | .union branches, hprintable, hfree => by
    have hbranches : ∀ branch ∈ branches, Printable branch := by
      cases hprintable with
      | union h => exact h
    rw [Expr.isContextFree] at hfree
    rw [evaluate, evaluate, evaluateBranches_of_areContextFree h branches hbranches hfree]
  | .path absolute steps, _, hfree => by
    rw [Expr.isContextFree] at hfree
    rw [evaluate, evaluate, hfree, if_pos rfl, if_pos rfl]
  | .filter base predicates steps, .filter _ hbase _ _ _, hfree => by
    rw [Expr.isContextFree] at hfree
    -- predicates and steps go on from the items of the base
    rw [evaluate, evaluate, evaluate_of_isContextFree h base hbase hfree]
  | .literal _, _, _ | .number _, _, _ => by rw [evaluate, evaluate]
  | .call function arguments, .call htakes harguments, hfree => by
    rw [Expr.isContextFree, Bool.and_eq_true] at hfree
    obtain ⟨hgiven, hfree⟩ := hfree
    rw [evaluate, evaluate, evaluateArguments_of_areContextFree h arguments harguments hfree]
    refine apply_of_takes doc h ?_ fun hreads hnil => ?_
    · rwa [length_evaluateArguments]
    · have hempty : arguments = [] := by
        rw [← List.length_eq_zero_iff, ← length_evaluateArguments doc focus', hnil]
        rfl
      rw [hreads, hempty] at hgiven
      cases hgiven

theorem evaluateBranches_of_areContextFree (h : focus.SamePlace focus') : ∀ branches : List Expr,
    (∀ branch ∈ branches, Printable branch) → Expr.areContextFree branches = true →
      evaluateBranches doc branches focus = evaluateBranches doc branches focus'
  | [], _, _ => rfl
  | branch :: rest, hprintable, hfree => by
    obtain ⟨hbranch, hrest⟩ := List.forall_mem_cons.mp hprintable
    rw [Expr.areContextFree, Bool.and_eq_true] at hfree
    rw [evaluateBranches, evaluateBranches, evaluate_of_isContextFree h branch hbranch hfree.1,
      evaluateBranches_of_areContextFree h rest hrest hfree.2]

theorem evaluateArguments_of_areContextFree (h : focus.SamePlace focus') :
    ∀ arguments : List Expr, (∀ argument ∈ arguments, Printable argument) →
      Expr.areContextFree arguments = true →
      evaluateArguments doc arguments focus = evaluateArguments doc arguments focus'
  | [], _, _ => rfl
  | argument :: rest, hprintable, hfree => by
    obtain ⟨hargument, hrest⟩ := List.forall_mem_cons.mp hprintable
    rw [Expr.areContextFree, Bool.and_eq_true] at hfree
    rw [evaluateArguments, evaluateArguments,
      evaluate_of_isContextFree h argument hargument hfree.1,
      evaluateArguments_of_areContextFree h rest hrest hfree.2]

end

end Focus

theorem selectStrings_of_isContextFree (doc : Document) {expr : Expr} (hprintable : Printable expr)
    (hfree : expr.isContextFree = true) (context context' : Nat) :
    selectStrings doc expr context = selectStrings doc expr context' := by
  have hplace : Focus.SamePlace ⟨.node context, 1, 1⟩ ⟨.node context', 1, 1⟩ := ⟨rfl, rfl⟩
  have hvalue : valueAt doc expr context = valueAt doc expr context' :=
    evaluate_of_isContextFree doc hplace expr hprintable hfree
  rw [selectStrings, selectStrings, hvalue]

end Selector

/-! ## Fields -/

open Selector

/-- Every selector of a rule that is one does not look at its context. -/
def SelectorRule.IsContextFree (rule : SelectorRule) : Prop :=
  ∀ source ∈ rule.selectors, ∀ expr, compile source = .ok expr → expr.isContextFree = true

namespace Extraction

/-- Cleaning leaves the same of some texts and of several copies of them. -/
theorem sanitize_flatMap (ignored texts : List String) {roots : List Nat} (hroots : roots ≠ []) :
    sanitize ignored (roots.flatMap fun _ => texts) = sanitize ignored texts := by
  cases roots with
  | nil => exact absurd rfl hroots
  | cons root roots =>
    have hmem : ∀ text ∈ roots.flatMap fun _ => texts, text ∈ texts := by
      intro text htext
      obtain ⟨_, _, htext⟩ := List.mem_flatMap.mp htext
      exact htext
    rw [List.flatMap_cons, sanitize, sanitize, List.map_append, List.filter_append]
    exact eraseDups_append_of_subset (List.filter_subset _ (List.map_subset clean hmem))

/-- The selectors of a rule that are read are among those that compile. -/
theorem mem_readSelectors {owner : String} {sources : List String} {expr : Expr}
    (h : expr ∈ (readSelectors owner sources).value) :
    ∃ source ∈ sources, compile source = .ok expr := by
  obtain ⟨source, hsource, hread⟩ := List.mem_filterMap.mp h
  refine ⟨source, hsource, ?_⟩
  cases hcompile : compile source with
  | error cause => simp [hcompile, Except.mapError, Except.toOption] at hread
  | ok found =>
    simp only [hcompile, Except.mapError, Except.toOption, Option.some.injEq] at hread
    rw [hread]

theorem readSelectors_contextFree {owner : String} {rule : SelectorRule}
    (h : rule.IsContextFree) {expr : Expr}
    (hexpr : expr ∈ (readSelectors owner rule.selectors).value) :
    Printable expr ∧ expr.isContextFree = true := by
  obtain ⟨source, hsource, hcompile⟩ := mem_readSelectors hexpr
  exact ⟨printable_of_compile hcompile, h source hsource expr hcompile⟩

/-- Each root gives the same texts, so that the values of a field are those for one root. -/
theorem extractField_of_isContextFree (doc : Document) {rule : FieldRule}
    (h : rule.selection.IsContextFree) (field : EventField) {roots : List Nat}
    (hroots : roots ≠ []) :
    extractField doc roots field rule = extractField doc [0] field rule := by
  have htexts (root : Nat) :
      ((readSelectors field.key rule.selection.selectors).value.flatMap fun selector =>
        selectStrings doc selector root) =
      (readSelectors field.key rule.selection.selectors).value.flatMap fun selector =>
        selectStrings doc selector 0 :=
    List.flatMap_congr fun expr hexpr =>
      have hread := readSelectors_contextFree h hexpr
      selectStrings_of_isContextFree doc hread.1 hread.2 root 0
  simp only [extractField, List.isEmpty_eq_false_iff.mpr hroots, List.isEmpty_cons,
    Bool.false_eq_true, if_false, selectTexts, Noted.bind, htexts, fieldTexts,
    sanitize_flatMap _ _ hroots, sanitize_flatMap _ _ (List.cons_ne_nil 0 [])]

/-- **Selectors that do not look at their context** give the same texts at every node of a
document, and a field that has only such selectors the same values for all choices of one or more
roots. -/
theorem contextFree_selectors (doc : Document) :
    (∀ (source : String) (expr : Expr), compile source = .ok expr → expr.isContextFree = true →
      ∀ context context', selectStrings doc expr context = selectStrings doc expr context') ∧
    ∀ (field : EventField) (rule : FieldRule), rule.selection.IsContextFree →
      ∀ roots roots' : List Nat, roots ≠ [] → roots' ≠ [] →
        extractField doc roots field rule = extractField doc roots' field rule := by
  constructor
  · intro source expr hcompile hfree context context'
    exact selectStrings_of_isContextFree doc (printable_of_compile hcompile) hfree context context'
  · intro field rule h roots roots' hroots hroots'
    rw [extractField_of_isContextFree doc h field hroots,
      extractField_of_isContextFree doc h field hroots']

/-- The last paragraph with the one that holds an `x` behind it: predicates do look at their items,
and a function that could read the item at hand is given its argument. -/
theorem contextFree_selectors_concat :
    let doc := Document.ofMarkup [.element "p" [] [.text "x"], .element "p" [] [.text "y"]]
    let source := "concat(/p[last()], string(/p[contains(., 'x')]))"
    let row (predicate : Expr) : Expr := .path true [⟨.child, .name "p", [predicate]⟩]
    let expr : Expr := .call .concat [row (.call .last []),
      .call .string [row (.call .contains [.path false [.toAny .itself], .literal "x"])]]
    let rule : FieldRule := { selection := { selectors := [source] } }
    (compile source = .ok expr ∧ expr.isContextFree = true ∧
        selectStrings doc expr 3 = selectStrings doc expr 0 ∧ selectStrings doc expr 0 = ["yx"]) ∧
      rule.selection.IsContextFree ∧
        (extractField doc [3, 1, 3] .title rule).value.map FieldValue.toText = ["yx"] := by
  intro doc source row expr rule
  have hcompile : compile source = .ok expr := by cbv
  have hfree : expr.isContextFree = true := by decide
  have hrule : rule.selection.IsContextFree := by
    intro source' hsource expr' hcompile'
    obtain rfl := List.mem_singleton.mp hsource
    rw [hcompile] at hcompile'
    rw [← Except.ok.inj hcompile', hfree]
  have hfound : selectStrings doc expr 0 = ["yx"] := by decide +kernel
  have hread : readSelectors EventField.title.key rule.selection.selectors = ⟨[expr], []⟩ := by
    simp only [readSelectors, Noted.readAll, rule, List.filterMap_cons, List.filterMap_nil,
      hcompile]
    rfl
  have hone : (extractField doc [0] .title rule).value.map FieldValue.toText = ["yx"] := by
    simp only [extractField, selectTexts, hread, Noted.bind, List.flatMap_singleton, hfound,
      List.isEmpty_cons, Bool.false_eq_true, if_false]
    decide +kernel
  obtain ⟨hstrings, hvalues⟩ := contextFree_selectors doc
  rw [hvalues .title rule hrule [0] [3, 1, 3] (List.cons_ne_nil _ _) (List.cons_ne_nil _ _)] at hone
  exact ⟨⟨hcompile, hfree, hstrings source expr hcompile hfree 3 0, hfound⟩, hrule, hone⟩

end Extraction

end Almanac
