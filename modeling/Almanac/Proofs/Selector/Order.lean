import Almanac.Selector.Evaluation
import Mathlib.Data.List.Forall2

/-!
# Items in order

Items are ordered by their places. Putting a list of items in document order keeps
its members (`mem_inDocumentOrder`) and makes it strictly increasing
(`pairwise_inDocumentOrder`), and a strictly increasing list is determined by its
members: two such lists whose members correspond along an order embedding correspond
item by item (`forall₂_of_pairwise`). Whatever an expression gives, its items are
strictly increasing (`pairwise_evaluate`).
-/

namespace Almanac.Selector

namespace Item

/-! ## The order of places -/

/-- Whether the place of an item comes before the place of another. -/
def Before (a b : Item) : Prop :=
  a.place.1 < b.place.1 ∨ a.place.1 = b.place.1 ∧ a.place.2 < b.place.2

theorem Before.irrefl (a : Item) : ¬ a.Before a := by
  simp only [Before]
  omega

theorem Before.ne {a b : Item} (h : a.Before b) : a ≠ b := by
  rintro rfl
  exact Before.irrefl a h

theorem Before.asymm {a b : Item} (h : a.Before b) : ¬ b.Before a := by
  simp only [Before] at *
  omega

theorem Before.trans {a b c : Item} (h₁ : a.Before b) (h₂ : b.Before c) : a.Before c := by
  simp only [Before] at *
  omega

theorem notAfter_iff {a b : Item} : a.notAfter b = true ↔ a.Before b ∨ a = b := by
  have hp : a = b ↔ a.place.1 = b.place.1 ∧ a.place.2 = b.place.2 :=
    ⟨fun h => by rw [h]; exact ⟨rfl, rfl⟩, fun h => place_injective (Prod.ext h.1 h.2)⟩
  simp only [notAfter, Before, hp, Bool.or_eq_true, Bool.and_eq_true, decide_eq_true_eq,
    beq_iff_eq]
  omega

theorem notAfter_trans (a b c : Item) (h₁ : a.notAfter b = true) (h₂ : b.notAfter c = true) :
    a.notAfter c = true := by
  simp only [notAfter, Bool.or_eq_true, Bool.and_eq_true, decide_eq_true_eq, beq_iff_eq] at *
  omega

theorem notAfter_total (a b : Item) : (a.notAfter b || b.notAfter a) = true := by
  simp only [notAfter, Bool.or_eq_true, Bool.and_eq_true, decide_eq_true_eq, beq_iff_eq]
  omega

/-! ## Sorting and dropping repetitions -/

theorem mem_dropRepeats {a : Item} : ∀ {items : List Item}, a ∈ dropRepeats items ↔ a ∈ items
  | [] => Iff.rfl
  | [_] => Iff.rfl
  | b :: c :: rest => by
    have ih : a ∈ dropRepeats (c :: rest) ↔ a ∈ c :: rest := mem_dropRepeats
    rw [dropRepeats]
    split
    · next h =>
      subst h
      rw [ih, List.mem_cons (l := b :: rest), List.mem_cons]
      tauto
    · rw [List.mem_cons, ih, List.mem_cons (b := b)]

/-- In a sorted list repetitions stand together. -/
theorem pairwise_dropRepeats : ∀ {items : List Item},
    items.Pairwise (fun a b => a.notAfter b = true) → (dropRepeats items).Pairwise Before
  | [], _ => .nil
  | [a], _ => List.pairwise_singleton ..
  | a :: b :: rest, h => by
    obtain ⟨ha, hb⟩ := List.pairwise_cons.mp h
    have ih := pairwise_dropRepeats hb
    rw [dropRepeats]
    split
    · exact ih
    · next hne =>
      refine .cons (fun c hc => ?_) ih
      have hab : a.Before b := (notAfter_iff.mp (ha b List.mem_cons_self)).resolve_right hne
      rcases List.mem_cons.mp (mem_dropRepeats.mp hc) with rfl | hc
      · exact hab
      · rcases notAfter_iff.mp ((List.pairwise_cons.mp hb).1 c hc) with hbc | rfl
        · exact hab.trans hbc
        · exact hab

theorem mem_inDocumentOrder {a : Item} {items : List Item} :
    a ∈ inDocumentOrder items ↔ a ∈ items := by
  rw [inDocumentOrder, mem_dropRepeats, List.mem_mergeSort]

/-- Items in document order are so without repetitions. -/
theorem pairwise_inDocumentOrder (items : List Item) :
    (inDocumentOrder items).Pairwise Before :=
  pairwise_dropRepeats (List.pairwise_mergeSort notAfter_trans notAfter_total items)

/-- **Strictly increasing lists correspond** item by item when their members do, along
a relation that keeps the order. -/
theorem forall₂_of_pairwise {R : Item → Item → Prop}
    (hR : ∀ {a a' b b'}, R a a' → R b b' → (a.Before b ↔ a'.Before b')) :
    ∀ {items items' : List Item}, items.Pairwise Before → items'.Pairwise Before →
      (∀ a ∈ items, ∃ a' ∈ items', R a a') → (∀ a' ∈ items', ∃ a ∈ items, R a a') →
      List.Forall₂ R items items'
  | [], [], _, _, _, _ => .nil
  | [], a' :: _, _, _, _, h' => by
    obtain ⟨a, ha, -⟩ := h' a' List.mem_cons_self
    cases ha
  | a :: _, [], _, _, h, _ => by
    obtain ⟨a', ha, -⟩ := h a List.mem_cons_self
    cases ha
  | a :: rest, a' :: rest', hs, hs', h, h' => by
    obtain ⟨ha, hr⟩ := List.pairwise_cons.mp hs
    obtain ⟨ha', hr'⟩ := List.pairwise_cons.mp hs'
    -- the least members correspond: otherwise one partner would stand before the least
    have hhead : R a a' := by
      obtain ⟨x', hx', hax⟩ := h a List.mem_cons_self
      obtain ⟨x, hx, hxa⟩ := h' a' List.mem_cons_self
      rcases List.mem_cons.mp hx' with rfl | hx'
      · exact hax
      · have hxa' : x.Before a := (hR hxa hax).mpr (ha' x' hx')
        rcases List.mem_cons.mp hx with rfl | hx
        · exact absurd hxa' (Before.irrefl x)
        · exact absurd hxa' (ha x hx).asymm
    refine .cons hhead (forall₂_of_pairwise hR hr hr' (fun b hb => ?_) fun b' hb' => ?_)
    · obtain ⟨b', hb', hbb⟩ := h b (List.mem_cons_of_mem _ hb)
      rcases List.mem_cons.mp hb' with rfl | hb'
      · exact absurd ((hR hhead hbb).mp (ha b hb)) (Before.irrefl b')
      · exact ⟨b', hb', hbb⟩
    · obtain ⟨b, hb, hbb⟩ := h' b' (List.mem_cons_of_mem _ hb')
      rcases List.mem_cons.mp hb with rfl | hb
      · exact absurd ((hR hhead hbb).mpr (ha' b' hb')) (Before.irrefl b)
      · exact ⟨b, hb, hbb⟩

/-- Lists whose members correspond along a relation that keeps the order do so item by
item once they are put in document order. -/
theorem forall₂_inDocumentOrder {R : Item → Item → Prop}
    (hR : ∀ {a a' b b'}, R a a' → R b b' → (a.Before b ↔ a'.Before b'))
    {items items' : List Item} (h : ∀ a ∈ items, ∃ a' ∈ items', R a a')
    (h' : ∀ a' ∈ items', ∃ a ∈ items, R a a') :
    List.Forall₂ R (inDocumentOrder items) (inDocumentOrder items') := by
  refine forall₂_of_pairwise hR (pairwise_inDocumentOrder _) (pairwise_inDocumentOrder _) ?_ ?_
  · intro a ha
    obtain ⟨a', ha', haa⟩ := h a (mem_inDocumentOrder.mp ha)
    exact ⟨a', mem_inDocumentOrder.mpr ha', haa⟩
  · intro a' ha'
    obtain ⟨a, ha, haa⟩ := h' a' (mem_inDocumentOrder.mp ha')
    exact ⟨a, mem_inDocumentOrder.mpr ha, haa⟩

/-- Items that are in document order stay as they are. -/
theorem inDocumentOrder_eq_self {items : List Item} (h : items.Pairwise Before) :
    inDocumentOrder items = items := by
  have := forall₂_of_pairwise (R := Eq) (by rintro a _ b _ rfl rfl; rfl)
    (pairwise_inDocumentOrder items) h
    (fun a ha => ⟨a, mem_inDocumentOrder.mp ha, rfl⟩)
    (fun a ha => ⟨a, mem_inDocumentOrder.mpr ha, rfl⟩)
  rwa [List.forall₂_eq_eq_eq] at this

end Item

/-! ## Items of an expression -/

section Evaluation

variable (doc : Document)

theorem numbered_sublist (p : Item × Nat → Bool) (items : List Item) :
    ((items.zipIdx.filter p).map (·.1)).Sublist items := by
  have h : ((items.zipIdx.filter p).map (·.1)).Sublist (items.zipIdx.map (·.1)) :=
    List.filter_sublist.map _
  rwa [List.zipIdx_map_fst] at h

/-- Predicates only leave items out. -/
theorem keepAll_sublist (predicates : List Expr) (items : List Item) :
    (keepAll doc predicates items).Sublist items := by
  induction predicates generalizing items with
  | nil => exact .refl _
  | cons predicate rest ih =>
    rw [keepAll]
    exact (ih _).trans (numbered_sublist _ items)

/-- Steps keep items in document order. -/
theorem pairwise_takeStepsFrom : ∀ (steps : List (Step Expr)) {items : List Item},
    items.Pairwise Item.Before → (takeStepsFrom doc steps items).Pairwise Item.Before
  | [], _, h => by
    rw [takeStepsFrom]
    exact h
  | ⟨_, _, _⟩ :: rest, _, _ => by
    rw [takeStepsFrom]
    exact pairwise_takeStepsFrom rest (Item.pairwise_inDocumentOrder _)

/-- **The items of an expression** are strictly increasing, whatever it is made of. -/
theorem pairwise_evaluate : ∀ (expr : Expr) (focus : Focus),
    (evaluate doc expr focus).toItems.Pairwise Item.Before
  | .operation operator left right, focus => by
    rw [evaluate]
    cases operator <;> exact .nil
  | .union branches, focus => by
    rw [evaluate]
    exact Item.pairwise_inDocumentOrder _
  | .path absolute steps, focus => by
    rw [evaluate]
    exact pairwise_takeStepsFrom doc steps (List.pairwise_singleton ..)
  | .filter base predicates steps, focus => by
    have hb := pairwise_evaluate base focus
    rw [evaluate]
    split
    · next items h =>
      rw [h] at hb
      exact pairwise_takeStepsFrom doc steps (hb.sublist (keepAll_sublist doc predicates items))
    · exact .nil
  | .literal _, _ | .number _, _ => by
    rw [evaluate]
    exact .nil
  | .call function arguments, focus => by
    rw [evaluate]
    cases function <;> exact .nil

end Evaluation

end Almanac.Selector
