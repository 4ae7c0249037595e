import Almanac.Proofs.Selector.DocumentOrder
import Almanac.Proofs.Selector.Predicates

/-!
# Paths as chains of links

A step links an item to another when it leads there and its predicates hold of the other taken
alone. Where all predicates are tests, a step gives the items that it links some item at hand to
(`mem_takeStep`), whichever order they are put in on the way and however often one is reached. So
a path gives the ends of the chains with one link for each of its steps (`mem_path_iff_chain`).
-/

namespace Almanac.Selector

/-! ## Links and chains -/

/-- The row of a table that stands in a body of it. -/
inductive IsBodyRow (doc : Document) : Item → Item → Prop
  | row {table body row : Nat} : doc.hasTag table "table" = true → body ∈ doc.children table →
      doc.hasTag body "tbody" = true → row ∈ doc.children body → doc.hasTag row "tr" = true →
      IsBodyRow doc (.node table) (.node row)

namespace Step

variable (doc : Document)

/-- Where a step leads, its predicates aside: to what passes its test on its axis, and from a
table to the rows in its bodies if it asks for the rows among the children. -/
inductive LeadsTo (step : Step Expr) : Item → Item → Prop
  | along {a b : Item} : b ∈ a.onAxis doc step.axis → b.passes doc step.axis step.test = true →
      LeadsTo step a b
  | toRow {a b : Item} : step.axis = .child → step.test.isName "tr" = true → IsBodyRow doc a b →
      LeadsTo step a b

/-- A link of a chain: a step leads to an item, of which each of its predicates holds alone. -/
structure Links (step : Step Expr) (a b : Item) : Prop where
  leads : step.LeadsTo doc a b
  holds : ∀ p ∈ step.predicates, holdsOf doc p b = true

end Step

/-- Whether one item is at the end of a chain from another, with a link for each step. -/
def IsChain (doc : Document) : List (Step Expr) → Item → Item → Prop
  | [], a, b => a = b
  | step :: rest, a, c => ∃ b, step.Links doc a b ∧ IsChain doc rest b c

section Chains

variable {doc : Document}

namespace Item

theorem mem_impliedRows {axis : Axis} {test : NodeTest} {a b : Item} :
    b ∈ impliedRows doc axis test a ↔
      axis = .child ∧ test.isName "tr" = true ∧ IsBodyRow doc a b := by
  cases a with
  | attr owner slot =>
    constructor
    · intro h
      cases h
    · rintro ⟨-, -, h⟩
      cases h
  | node table =>
    constructor
    · intro h
      rw [impliedRows] at h
      split at h
      · next hstep =>
        simp only [Bool.and_eq_true, decide_eq_true_eq] at hstep
        obtain ⟨row, hrow, rfl⟩ := List.mem_map.mp h
        obtain ⟨hinside, htag⟩ := List.mem_filter.mp hrow
        obtain ⟨body, hbody, hchild⟩ := List.mem_flatMap.mp hinside
        obtain ⟨hmem, hbodyTag⟩ := List.mem_filter.mp hbody
        exact ⟨hstep.1.1, hstep.1.2, .row hstep.2 hmem hbodyTag hchild htag⟩
      · cases h
    · rintro ⟨haxis, htest, h⟩
      cases h with
      | row htable hbody hbodyTag hrow hrowTag =>
        rw [impliedRows, if_pos (by simp [haxis, htest, htable])]
        apply List.mem_map_of_mem
        rw [List.mem_filter, List.mem_flatMap]
        exact ⟨⟨_, List.mem_filter.mpr ⟨hbody, hbodyTag⟩, hrow⟩, hrowTag⟩

/-- The candidates of a step are the items that it leads to: the rows of bodies join the others
in document order, which loses none of them. -/
theorem mem_candidates {step : Step Expr} {a b : Item} :
    b ∈ a.candidates doc step.axis step.test ↔ step.LeadsTo doc a b := by
  have hdirect : b ∈ (a.onAxis doc step.axis).filter (passes doc step.axis step.test) ↔
      b ∈ a.onAxis doc step.axis ∧ b.passes doc step.axis step.test = true := List.mem_filter
  have hmem : b ∈ a.candidates doc step.axis step.test ↔
      (b ∈ a.onAxis doc step.axis ∧ b.passes doc step.axis step.test = true) ∨
        b ∈ impliedRows doc step.axis step.test a := by
    unfold candidates
    split
    · next hrows => rw [hdirect, hrows]; simp
    · rw [mem_inDocumentOrder, List.mem_append, hdirect]
  rw [hmem, mem_impliedRows]
  constructor
  · rintro (⟨haxis, htest⟩ | ⟨haxis, htest, hrow⟩)
    · exact .along haxis htest
    · exact .toRow haxis htest hrow
  · intro h
    cases h with
    | along haxis htest => exact .inl ⟨haxis, htest⟩
    | toRow haxis htest hrow => exact .inr ⟨haxis, htest, hrow⟩

end Item

/-- The items after one step are those that it links some item at hand to. -/
theorem mem_takeStep {step : Step Expr} (h : ∀ p ∈ step.predicates, p.isTest = true)
    {items : List Item} {b : Item} :
    b ∈ takeStepsFrom doc [step] items ↔ ∃ a ∈ items, step.Links doc a b := by
  obtain ⟨axis, test, predicates⟩ := step
  rw [takeStepsFrom, takeStepsFrom, Item.mem_inDocumentOrder, List.mem_flatMap]
  constructor
  · rintro ⟨a, ha, hb⟩
    obtain ⟨hleads, hholds⟩ := (mem_keepAll_tests doc h).mp hb
    exact ⟨a, ha, Item.mem_candidates.mp hleads, hholds⟩
  · rintro ⟨a, ha, hlinks⟩
    exact ⟨a, ha, (mem_keepAll_tests doc h).mpr
      ⟨Item.mem_candidates.mpr hlinks.leads, hlinks.holds⟩⟩

/-- The items after some steps are the ends of the chains from the items at hand. -/
theorem mem_takeStepsFrom {steps : List (Step Expr)}
    (h : ∀ step ∈ steps, ∀ p ∈ step.predicates, p.isTest = true) {items : List Item} {b : Item} :
    b ∈ takeStepsFrom doc steps items ↔ ∃ a ∈ items, IsChain doc steps a b := by
  induction steps generalizing items with
  | nil =>
    rw [takeStepsFrom]
    simp [IsChain]
  | cons step rest ih =>
    obtain ⟨hstep, hrest⟩ := List.forall_mem_cons.mp h
    have hrun : takeStepsFrom doc (step :: rest) items =
        takeStepsFrom doc rest (takeStepsFrom doc [step] items) :=
      takeStepsFrom_append [step] rest items
    rw [hrun, ih hrest]
    constructor
    · rintro ⟨m, hm, hchain⟩
      obtain ⟨a, ha, hlinks⟩ := (mem_takeStep hstep).mp hm
      exact ⟨a, ha, m, hlinks, hchain⟩
    · rintro ⟨a, ha, m, hlinks, hchain⟩
      exact ⟨m, (mem_takeStep hstep).mpr ⟨a, ha, hlinks⟩, hchain⟩

end Chains

/-- **A path gives the ends of chains**: where all predicates of its steps are tests, an item is
among those that the steps lead to exactly when a chain leads to it. So it is with the values of
paths and of filters, in which each item is listed once. -/
theorem mem_path_iff_chain (doc : Document) {steps : List (Step Expr)}
    (h : ∀ step ∈ steps, ∀ p ∈ step.predicates, p.isTest = true) :
    (∀ (start : List Item) (b : Item),
      b ∈ takeStepsFrom doc steps start ↔ ∃ a ∈ start, IsChain doc steps a b) ∧
    (∀ (absolute : Bool) (focus : Focus),
      ∃ items, evaluate doc (.path absolute steps) focus = .items items ∧ items.Nodup ∧
        ∀ b, b ∈ items ↔ IsChain doc steps (if absolute then .node 0 else focus.item) b) ∧
    ∀ (base : Expr) (predicates : List Expr) (focus : Focus),
      ∃ items, evaluate doc (.filter base predicates steps) focus = .items items ∧
        items.Nodup ∧
        ∀ b, b ∈ items ↔ ∃ a ∈ keepAll doc predicates (evaluate doc base focus).toItems,
          IsChain doc steps a b := by
  have hmem : ∀ (start : List Item) (b : Item),
      b ∈ takeStepsFrom doc steps start ↔ ∃ a ∈ start, IsChain doc steps a b :=
    fun _ _ => mem_takeStepsFrom h
  have hnodup : ∀ {items : List Item}, items.Pairwise Item.Before → items.Nodup := by
    intro items hsorted
    refine hsorted.imp ?_
    rintro a _ hab rfl
    exact hab.irrefl
  refine ⟨hmem, ?_, ?_⟩
  · intro absolute focus
    have hsorted := pairwise_evaluate doc (.path absolute steps) focus
    rw [evaluate] at hsorted ⊢
    refine ⟨_, rfl, hnodup hsorted, fun b => ?_⟩
    rw [hmem]
    simp
  · intro base predicates focus
    have hsorted := pairwise_evaluate doc (.filter base predicates steps) focus
    rw [evaluate] at hsorted ⊢
    cases hbase : evaluate doc base focus with
    | items found =>
      rw [hbase] at hsorted
      exact ⟨_, rfl, hnodup hsorted, hmem _⟩
    | _ =>
      -- a value of another kind has no items to start from
      have hnone : keepAll doc predicates [] = [] :=
        List.sublist_nil.mp (keepAll_sublist doc predicates [])
      exact ⟨[], rfl, .nil, fun b => by simp [Value.toItems, hnone]⟩

/-- A chain through a row that stands in a body of its table, to an attribute of the row. -/
theorem mem_path_iff_chain_row :
    let doc := Document.ofMarkup [.element "table" [] [.comment "a", .element "tbody" []
      [.element "tr" [⟨"class", "x"⟩] [.element "td" [] []]]]]
    let cells : Expr := .path false [⟨.child, .name "td", [.call .last []]⟩]
    let steps : List (Step Expr) := [.toAny .descendantOrSelf, ⟨.child, .name "table", []⟩,
      ⟨.child, .name "tr", [cells]⟩, ⟨.attributes, .any, []⟩]
    (∀ step ∈ steps, ∀ p ∈ step.predicates, p.isTest = true) ∧
      IsChain doc steps (.node 0) (.attr 4 0) ∧
      ∃ items, evaluate doc (.path true steps) ⟨.node 5, 1, 1⟩ = .items items ∧ items.Nodup ∧
        .attr 4 0 ∈ items := by
  intro doc cells steps
  have htests : ∀ step ∈ steps, ∀ p ∈ step.predicates, p.isTest = true := by decide
  have hrow : IsBodyRow doc (.node 1) (.node 4) := by
    refine @IsBodyRow.row doc 1 3 4 ?_ ?_ ?_ ?_ ?_
    all_goals decide +kernel
  have hcells : holdsOf doc cells (.node 4) = true := by decide +kernel
  have hchain : IsChain doc steps (.node 0) (.attr 4 0) := by
    refine ⟨.node 0, ⟨.along ?_ ?_, ?_⟩, .node 1, ⟨.along ?_ ?_, ?_⟩, .node 4,
      ⟨.toRow rfl ?_ hrow, List.forall_mem_singleton.mpr hcells⟩, .attr 4 0,
      ⟨.along ?_ ?_, ?_⟩, rfl⟩
    all_goals decide +kernel
  obtain ⟨items, hvalue, hnodup, hmem⟩ :=
    (mem_path_iff_chain doc htests).2.1 true ⟨.node 5, 1, 1⟩
  exact ⟨htests, hchain, items, hvalue, hnodup, (hmem _).mpr hchain⟩

end Almanac.Selector
