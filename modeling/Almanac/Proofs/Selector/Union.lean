import Almanac.Proofs.Selector.DocumentOrder

/-!
# Unions of expressions

The items of a union are those that its branches give, each once and in document order
(`evaluate_union_spec`). Two items with one place are the same item, so the items of a union
depend on nothing but which items its branches give: neither the order of the branches nor
their grouping matters, and a branch that is repeated adds nothing (`union_is_union_of_items`).
-/

namespace Almanac.Selector

namespace Item

/-- Lists with the same items are the same list in document order. -/
theorem inDocumentOrder_congr {items items' : List Item} (h : ∀ a, a ∈ items ↔ a ∈ items') :
    inDocumentOrder items = inDocumentOrder items' := by
  have heq := forall₂_inDocumentOrder (R := Eq) (by rintro a _ b _ rfl rfl; rfl)
    (fun a ha => ⟨a, (h a).mp ha, rfl⟩) (fun a ha => ⟨a, (h a).mpr ha, rfl⟩)
  rwa [List.forall₂_eq_eq_eq] at heq

/-- Strictly increasing lists with the same items are the same. -/
theorem eq_of_pairwise_before {items items' : List Item} (h : items.Pairwise Before)
    (h' : items'.Pairwise Before) (hmem : ∀ a, a ∈ items ↔ a ∈ items') : items = items' := by
  rw [← inDocumentOrder_eq_self h, ← inDocumentOrder_eq_self h', inDocumentOrder_congr hmem]

end Item

/-! ## What a branch gives -/

/-- Whether an expression gives an item: its value is items, and this is one of them. -/
def Gives (doc : Document) (focus : Focus) (expr : Expr) (item : Item) : Prop :=
  ∃ items, evaluate doc expr focus = .items items ∧ item ∈ items

section Union

variable {doc : Document} {focus : Focus}

theorem mem_toItems_iff {expr : Expr} {item : Item} :
    item ∈ (evaluate doc expr focus).toItems ↔ Gives doc focus expr item := by
  unfold Gives
  cases evaluate doc expr focus <;> simp [Value.toItems]

theorem mem_evaluateBranches {branches : List Expr} {item : Item} :
    item ∈ evaluateBranches doc branches focus ↔
      ∃ branch ∈ branches, Gives doc focus branch item := by
  induction branches with
  | nil => simp [evaluateBranches]
  | cons branch rest ih =>
    rw [evaluateBranches, List.mem_append, mem_toItems_iff, ih]
    simp

/-- A union gives the items that some branch gives. -/
theorem gives_union_iff {branches : List Expr} {item : Item} :
    Gives doc focus (.union branches) item ↔ ∃ branch ∈ branches, Gives doc focus branch item := by
  rw [← mem_toItems_iff, evaluate, Value.toItems, Item.mem_inDocumentOrder, mem_evaluateBranches]

/-- Unions that give the same items have the same value. -/
theorem evaluate_union_congr {branches branches' : List Expr}
    (h : ∀ item, (∃ branch ∈ branches, Gives doc focus branch item) ↔
      ∃ branch ∈ branches', Gives doc focus branch item) :
    evaluate doc (.union branches) focus = evaluate doc (.union branches') focus := by
  rw [evaluate, evaluate]
  refine congrArg Value.items (Item.inDocumentOrder_congr fun item => ?_)
  rw [mem_evaluateBranches, mem_evaluateBranches, h]

/-- The order of the branches does not matter. -/
theorem evaluate_union_perm {branches branches' : List Expr} (h : branches.Perm branches') :
    evaluate doc (.union branches) focus = evaluate doc (.union branches') focus :=
  evaluate_union_congr fun item => by simp only [h.mem_iff]

/-- A branch that is a union itself stands for its branches. -/
theorem evaluate_union_flatten (front inner back : List Expr) :
    evaluate doc (.union (front ++ .union inner :: back)) focus =
      evaluate doc (.union (front ++ inner ++ back)) focus := by
  refine evaluate_union_congr fun item => ?_
  simp only [List.mem_append, List.mem_cons, or_and_right, exists_or, exists_eq_left,
    gives_union_iff, or_assoc]

/-- A branch that is repeated adds nothing. -/
theorem evaluate_union_self {expr : Expr} {items : List Item}
    (h : evaluate doc expr focus = .items items) :
    evaluate doc (.union [expr, expr]) focus = .items items := by
  have hsorted := pairwise_evaluate doc expr focus
  rw [h] at hsorted
  rw [evaluate, evaluateBranches, evaluateBranches, evaluateBranches, h, List.append_nil]
  refine congrArg Value.items ((Item.inDocumentOrder_congr fun item => ?_).trans
    (Item.inDocumentOrder_eq_self hsorted))
  simp [Value.toItems]

/-- **The items of a union** are those that its branches give, each once and in document
order. -/
theorem evaluate_union_spec (branches : List Expr) (h : focus.item.IsOf doc) :
    ∃ items, evaluate doc (.union branches) focus = .items items ∧
      items.Pairwise (Item.Precedes doc) ∧ items.Nodup ∧
      ∀ item, item ∈ items ↔ ∃ branch ∈ branches, Gives doc focus branch item := by
  have hof := isOf_of_mem_evaluate (.union branches) h
  rw [evaluate, Value.toItems] at hof
  have hsorted := Item.pairwise_inDocumentOrder (evaluateBranches doc branches focus)
  refine ⟨_, by rw [evaluate], hsorted.imp_of_mem fun _ hb hab => hab.precedes (hof _ hb),
    hsorted.imp ?_, fun item => by rw [Item.mem_inDocumentOrder, mem_evaluateBranches]⟩
  rintro a _ hab rfl
  exact hab.irrefl

end Union

/-- **A union is the union of the items of its branches**, at every focus in a document, each item
once and in document order. So the branches may change places, unions of three group as one likes,
and `a|a` has the value of `a` if this is items. -/
theorem union_is_union_of_items (doc : Document) {focus : Focus} (h : focus.item.IsOf doc)
    (a b c : Expr) :
    let value (expr : Expr) : Value := evaluate doc expr focus
    (∃ items, value (.union [a, b]) = .items items ∧
      items.Pairwise (Item.Precedes doc) ∧ items.Nodup ∧
      ∀ item, item ∈ items ↔ (∃ found, value a = .items found ∧ item ∈ found) ∨
        ∃ found, value b = .items found ∧ item ∈ found) ∧
    value (.union [a, b]) = value (.union [b, a]) ∧
    value (.union [.union [a, b], c]) = value (.union [a, .union [b, c]]) ∧
    value (.union [.union [a, b], c]) = value (.union [a, b, c]) ∧
    ∀ items, value a = .items items → value (.union [a, a]) = .items items := by
  intro value
  have hleft : value (.union [.union [a, b], c]) = value (.union [a, b, c]) :=
    evaluate_union_flatten [] [a, b] [c]
  have hright : value (.union [a, .union [b, c]]) = value (.union [a, b, c]) :=
    evaluate_union_flatten [a] [b, c] []
  refine ⟨?_, evaluate_union_perm (.swap b a []), hleft.trans hright.symm, hleft,
    fun _ => evaluate_union_self⟩
  obtain ⟨items, hvalue, hordered, hnodup, hmem⟩ := evaluate_union_spec [a, b] h
  refine ⟨items, hvalue, hordered, hnodup, fun item => ?_⟩
  rw [hmem]
  simp [Gives, value]

theorem union_is_union_of_items_attributes :
    let doc := Document.ofMarkup [.element "p" [⟨"class", "x"⟩] [.text "a"]]
    let focus : Focus := ⟨.node 1, 1, 1⟩
    let value (expr : Expr) : Value := evaluate doc expr focus
    let below : Expr := .path false [⟨.descendant, .node, []⟩]
    let attributes : Expr := .path false [⟨.attributes, .any, []⟩]
    focus.item.IsOf doc ∧
    (∃ items, value (.union [below, attributes]) = .items items ∧
      items.Pairwise (Item.Precedes doc)) ∧
    value (.union [below, attributes]) = value (.union [attributes, below]) ∧
    value (.union [.union [below, attributes], .literal "x"]) =
      value (.union [below, .union [attributes, .literal "x"]]) := by
  intro doc focus value below attributes
  have hof : focus.item.IsOf doc := (by decide : 1 < doc.size)
  obtain ⟨⟨items, hvalue, hordered, -⟩, hswap, hgroup, -⟩ :=
    union_is_union_of_items doc hof below attributes (.literal "x")
  exact ⟨hof, ⟨items, hvalue, hordered⟩, hswap, hgroup⟩

end Almanac.Selector
