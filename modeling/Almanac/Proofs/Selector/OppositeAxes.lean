import Mathlib.Data.List.Induction
import Almanac.Proofs.Selector.Axes

/-!
# Axes that lead back

A tree is walked by its pointers: up from parent to parent, sideways from a node to the one right
beside it among the children of its parent, and down by listing each child with all that is below
it. What these walks collect are the ancestors, the siblings behind and before a node, and its
descendants (`isWalk_ancestors`, `isWalk_followingSiblings`, `isWalk_precedingSiblings`,
`descendants_eq_flatMap`).

On nodes most axes have an axis that leads back (`Axis.opposite?`): one node is on the axis of
another when the other is on the opposite axis of it. No axis lists an item twice, and each lists
its items in document order or, up and back, in the reverse of it (`opposite_axes`).
-/

namespace Almanac

/-! ## Walks -/

/-- What is collected by going on from `n` for as long as there is a next one. -/
inductive IsWalk (next? : Nat → Option Nat) : Nat → List Nat → Prop
  | stop {n : Nat} : next? n = none → IsWalk next? n []
  | go {n m : Nat} {rest : List Nat} : next? n = some m → IsWalk next? m rest →
      IsWalk next? n (m :: rest)

namespace Document

/-- The node right behind a node among the children of its parent. -/
def nextSibling? (doc : Document) (n : Nat) : Option Nat :=
  ((doc.siblings n).dropWhile (· ≠ n)).tail.head?

/-- The node right before a node among the children of its parent. -/
def previousSibling? (doc : Document) (n : Nat) : Option Nat :=
  ((doc.siblings n).takeWhile (· ≠ n)).getLast?

section Walks

variable {doc : Document} {n p : Nat} {front back : List Nat}

/-- The ancestors of a node are what is passed from parent to parent. -/
theorem isWalk_ancestors (doc : Document) (n : Nat) : IsWalk doc.parent? n (doc.ancestors n) := by
  fun_induction ancestors doc n with
  | case1 n hp => exact .stop hp
  | case2 n p hp _ ih => exact .go hp ih
  | case3 n p hp hle => exact absurd (doc.bounds_of_mem_children (doc.parent?_eq_some_iff.mp hp)).1 hle

theorem siblings_eq_children (h : n ∈ doc.children p) : doc.siblings n = doc.children p := by
  rw [siblings, doc.parent?_eq_some_iff.mpr h]

theorem siblings_eq_nil (h : doc.parent? n = none) : doc.siblings n = [] := by
  rw [siblings, h]

theorem siblings_eq_of_mem {m : Nat} (h : m ∈ doc.siblings n) : doc.siblings m = doc.siblings n := by
  obtain ⟨p, hn, hm⟩ := mem_siblings_iff.mp h
  rw [siblings_eq_children hn, siblings_eq_children hm]

/-- A node with a parent stands between the siblings before it and those behind it. -/
theorem exists_siblings_split (h : n ∈ doc.children p) :
    ∃ front back, doc.siblings n = front ++ n :: back := by
  rw [siblings_eq_children h]
  exact List.append_of_mem h

section Split

variable (h : doc.siblings n = front ++ n :: back)
include h

theorem lt_of_mem_front {m : Nat} (hm : m ∈ front) : m < n := by
  have hsorted := doc.pairwise_lt_siblings n
  rw [h] at hsorted
  exact (List.pairwise_append.mp hsorted).2.2 m hm n List.mem_cons_self

theorem lt_of_mem_back {m : Nat} (hm : m ∈ back) : n < m := by
  have hsorted := doc.pairwise_lt_siblings n
  rw [h] at hsorted
  exact (List.pairwise_cons.mp (List.pairwise_append.mp hsorted).2.1).1 m hm

theorem decide_ne_of_mem_front : ∀ m ∈ front, decide (m ≠ n) = true := fun _ hm =>
  decide_eq_true (Nat.ne_of_lt (lt_of_mem_front h hm))

/-- The next sibling is the first behind the cut. -/
theorem nextSibling?_eq : doc.nextSibling? n = back.head? := by
  have hfront := decide_ne_of_mem_front h
  rw [nextSibling?, h, List.dropWhile_append_of_pos hfront, List.dropWhile_cons_of_neg (by simp),
    List.tail_cons]

theorem previousSibling?_eq : doc.previousSibling? n = front.getLast? := by
  have hfront := decide_ne_of_mem_front h
  rw [previousSibling?, h, List.takeWhile_append_of_pos hfront,
    List.takeWhile_cons_of_neg (by simp), List.append_nil]

theorem followingSiblings_eq : doc.followingSiblings n = back := by
  have hfront : front.filter (n < ·) = [] :=
    List.filter_eq_nil_iff.mpr fun m hm => by simpa using Nat.le_of_lt (lt_of_mem_front h hm)
  have hback : back.filter (n < ·) = back :=
    List.filter_eq_self.mpr fun m hm => decide_eq_true (lt_of_mem_back h hm)
  rw [followingSiblings, h, List.filter_append, hfront, List.nil_append,
    List.filter_cons_of_neg (by simp), hback]

/-- The siblings before a node are those before the cut, from the nearest on. -/
theorem precedingSiblings_eq : doc.precedingSiblings n = front.reverse := by
  have hfront : front.filter (· < n) = front :=
    List.filter_eq_self.mpr fun m hm => decide_eq_true (lt_of_mem_front h hm)
  have hback : back.filter (· < n) = [] :=
    List.filter_eq_nil_iff.mpr fun m hm => by simpa using Nat.le_of_lt (lt_of_mem_back h hm)
  rw [precedingSiblings, h, List.filter_append, hfront, List.filter_cons_of_neg (by simp), hback,
    List.append_nil]

end Split

/-- By induction on the siblings behind a node, which are those behind the next sibling and it. -/
theorem isWalk_back (h : doc.siblings n = front ++ n :: back) :
    IsWalk doc.nextSibling? n back := by
  induction back generalizing n front with
  | nil => exact .stop (nextSibling?_eq h)
  | cons m back ih =>
    have hm : doc.siblings m = (front ++ [n]) ++ m :: back := by
      rw [siblings_eq_of_mem (n := n) (h ▸ by simp), h]
      simp
    exact .go (nextSibling?_eq h) (ih hm)

/-- Going back from sibling to sibling passes what is before the cut. -/
theorem isWalk_front (h : doc.siblings n = front ++ n :: back) :
    IsWalk doc.previousSibling? n front.reverse := by
  induction front using List.reverseRecOn generalizing n back with
  | nil => exact .stop (previousSibling?_eq h)
  | append_singleton front m ih =>
    have hm : doc.siblings m = front ++ m :: (n :: back) := by
      rw [siblings_eq_of_mem (n := n) (h ▸ by simp), h]
      simp
    have hprevious : doc.previousSibling? n = some m := by
      rw [previousSibling?_eq h, List.getLast?_concat]
    rw [List.reverse_append]
    exact .go hprevious (ih hm)

/-- The siblings behind a node are what is passed from next to next. -/
theorem isWalk_followingSiblings (doc : Document) (n : Nat) :
    IsWalk doc.nextSibling? n (doc.followingSiblings n) := by
  cases hp : doc.parent? n with
  | none =>
    have hnone := siblings_eq_nil hp
    rw [followingSiblings, hnone]
    exact .stop (by rw [nextSibling?, hnone]; rfl)
  | some p =>
    obtain ⟨front, back, h⟩ := exists_siblings_split (doc.parent?_eq_some_iff.mp hp)
    rw [followingSiblings_eq h]
    exact isWalk_back h

/-- The siblings before a node are what is passed on the way back. -/
theorem isWalk_precedingSiblings (doc : Document) (n : Nat) :
    IsWalk doc.previousSibling? n (doc.precedingSiblings n) := by
  cases hp : doc.parent? n with
  | none =>
    have hnone := siblings_eq_nil hp
    rw [precedingSiblings, hnone]
    exact .stop (by rw [previousSibling?, hnone]; rfl)
  | some p =>
    obtain ⟨front, back, h⟩ := exists_siblings_split (doc.parent?_eq_some_iff.mp hp)
    rw [precedingSiblings_eq h]
    exact isWalk_front h

/-- The nodes of a tiling with all that is inside them are the numbers of its interval. -/
theorem Tiles.flatMap_eq : ∀ {nodes : List Nat} {start stop : Nat}, doc.Tiles start nodes stop →
    (nodes.flatMap fun c => c :: doc.descendants c) = List.range' start (stop - start)
  | [], start, stop, h => by
    have hstop : start = stop := h
    rw [hstop, Nat.sub_self]
    rfl
  | c :: rest, start, stop, ⟨hc, hlast, h⟩ => by
    subst hc
    have hle := h.le
    have hself : c :: doc.descendants c = List.range' c (doc.last c + 1 - c) := by
      rw [Nat.succ_sub hlast, List.range'_succ, descendants]
    have hsum : doc.last c + 1 - c + (stop - (doc.last c + 1)) = stop - c := by omega
    rw [List.flatMap_cons, h.flatMap_eq, hself, ← hsum, ← List.range'_append_1]
    congr 2
    omega

/-- **The descendants of a node** are its children, each with its own descendants behind it. -/
theorem descendants_eq_flatMap (doc : Document) (n : Nat) :
    doc.descendants n = (doc.children n).flatMap fun c => c :: doc.descendants c := by
  rw [(doc.tiles_children n).flatMap_eq, descendants, Nat.add_sub_add_right]

end Walks

end Document

namespace Selector

/-! ## Opposite axes -/

/-- The axis that leads back from a node. Nothing leads back from a node to its element's
attributes. -/
def Axis.opposite? : Axis → Option Axis
  | .child => some .parent
  | .parent => some .child
  | .descendant => some .ancestor
  | .ancestor => some .descendant
  | .descendantOrSelf => some .ancestorOrSelf
  | .ancestorOrSelf => some .descendantOrSelf
  | .followingSibling => some .precedingSibling
  | .precedingSibling => some .followingSibling
  | .itself => some .itself
  | .attributes => none

namespace Axis

variable {doc : Document} {axis axis' : Axis}

theorem opposite?_opposite (h : axis.opposite? = some axis') : axis'.opposite? = some axis := by
  cases axis <;> cases h <;> rfl

/-- An axis leads to what the opposite axis leads back from. -/
theorem Leads.back {m n : Nat} (hopposite : axis.opposite? = some axis')
    (h : axis.Leads doc (.node n) (.node m)) : axis'.Leads doc (.node m) (.node n) := by
  cases h with
  | child hc => cases hopposite; exact .parent hc
  | parent hc => cases hopposite; exact .child hc
  | descendant hd => cases hopposite; exact .ancestor hd
  | ancestor ha => cases hopposite; exact .descendant ha
  | descendantOrSelf hd => cases hopposite; exact .ancestorOrSelf hd
  | ancestorOrSelf ha => cases hopposite; exact .descendantOrSelf ha
  | followingSibling hs => cases hopposite; exact .precedingSibling hs
  | precedingSibling hs => cases hopposite; exact .followingSibling hs
  | itself => cases hopposite; exact .itself _

end Axis

/-- No axis lists an item twice. -/
theorem nodup_onAxis (doc : Document) (axis : Axis) (a : Item) : (a.onAxis doc axis).Nodup := by
  cases haxis : axis.isReverse with
  | false => exact (Item.pairwise_before_onAxis a haxis).imp Item.Before.ne
  | true => exact (Item.pairwise_after_onAxis a haxis).imp fun h => h.ne.symm

/-- **Axes lead back, and keep the order of the document**: a node is on an axis of another when the
other is on the opposite axis of it, and no axis lists an item twice. The axes down and forward are
in document order, those up and back in its reverse, and all list what the walks collect. -/
theorem opposite_axes (doc : Document) :
    (∀ axis axis' : Axis, axis.opposite? = some axis' → ∀ m n : Nat,
      .node m ∈ (Item.node n).onAxis doc axis ↔ .node n ∈ (Item.node m).onAxis doc axis') ∧
    (∀ (axis : Axis) (a : Item), (a.onAxis doc axis).Nodup) ∧
    (∀ (axis : Axis) (a : Item), a.IsOf doc → axis.isReverse = false →
      (a.onAxis doc axis).Pairwise (Item.Precedes doc)) ∧
    (∀ (axis : Axis) (a : Item), a.IsOf doc → axis.isReverse = true →
      (a.onAxis doc axis).Pairwise fun b c => c.Precedes doc b) ∧
    (∀ owner slot : Nat, (Item.attr owner slot).onAxis doc .ancestor =
      .node owner :: (Item.node owner).onAxis doc .ancestor) ∧
    ∀ n : Nat, IsWalk doc.parent? n (doc.ancestors n) ∧
      IsWalk doc.nextSibling? n (doc.followingSiblings n) ∧
      IsWalk doc.previousSibling? n (doc.precedingSiblings n) ∧
      doc.descendants n = (doc.children n).flatMap fun c => c :: doc.descendants c := by
  refine ⟨?_, nodup_onAxis doc, ?_, ?_, fun _ _ => rfl, fun n => ?_⟩
  · intro axis axis' hopposite m n
    rw [Item.mem_onAxis_iff, Item.mem_onAxis_iff]
    exact ⟨.back hopposite, .back (Axis.opposite?_opposite hopposite)⟩
  · intro axis a ha haxis
    exact (Item.pairwise_onAxis ha).imp (Item.comes_iff_precedes haxis).mp
  · intro axis a ha haxis
    exact (Item.pairwise_onAxis ha).imp (Item.comes_iff_preceded haxis).mp
  · exact ⟨doc.isWalk_ancestors n, doc.isWalk_followingSiblings n,
      doc.isWalk_precedingSiblings n, doc.descendants_eq_flatMap n⟩

/-- A list with two items: from the second item back to the first, down from the list, and up from
its attribute. -/
theorem opposite_axes_list :
    let doc := Document.ofMarkup [.element "ul" [⟨"id", "x"⟩]
      [.element "li" [] [.text "a"], .element "li" [] []], .comment "b"]
    (Axis.opposite? .followingSibling = some .precedingSibling ∧
        .node 4 ∈ (Item.node 2).onAxis doc .followingSibling ∧
        .node 2 ∈ (Item.node 4).onAxis doc .precedingSibling) ∧
      ((Item.node 1).IsOf doc ∧ Axis.descendant.isReverse = false ∧
        (Item.node 1).onAxis doc .descendant = [.node 2, .node 3, .node 4] ∧
        [Item.node 2, .node 3, .node 4].Pairwise (Item.Precedes doc)) ∧
      (Item.attr 1 0).IsOf doc ∧ Axis.ancestorOrSelf.isReverse = true ∧
        (Item.attr 1 0).onAxis doc .ancestorOrSelf = [.attr 1 0, .node 1, .node 0] ∧
        [Item.attr 1 0, .node 1, .node 0].Pairwise fun b c => c.Precedes doc b := by
  intro doc
  obtain ⟨hback, -, hforward, hreverse, -⟩ := opposite_axes doc
  have hsecond : .node 4 ∈ (Item.node 2).onAxis doc .followingSibling := by decide
  have hfirst := (hback .followingSibling .precedingSibling rfl 4 2).mp hsecond
  have hlist : (Item.node 1).IsOf doc := (by decide : 1 < doc.size)
  have hid : (Item.attr 1 0).IsOf doc := (by decide : 1 < doc.size ∧ 0 < (doc.attributes 1).length)
  have hdown : (Item.node 1).onAxis doc .descendant = [.node 2, .node 3, .node 4] := by decide
  have hup : (Item.attr 1 0).onAxis doc .ancestorOrSelf = [.attr 1 0, .node 1, .node 0] := by
    decide +kernel
  have hinside := hforward .descendant (.node 1) hlist rfl
  have habove := hreverse .ancestorOrSelf (.attr 1 0) hid rfl
  rw [hdown] at hinside
  rw [hup] at habove
  exact ⟨⟨rfl, hsecond, hfirst⟩, ⟨hlist, rfl, hdown, hinside⟩, hid, rfl, hup, habove⟩

end Selector

end Almanac
