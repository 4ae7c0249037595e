import Mathlib.Data.List.Permutation
import Almanac.Proofs.Selector.Axes
import Almanac.Selector.Index

/-!
# One index for a document

Climbing from any node of a document ends at one top (`Document.top_eq_zero`), so that the index
made from a node is the same for every node (`DocumentIndex.ofNode_eq`). Whatever the keys of the
nodes are, it numbers them in preorder (`numbersInPreorder_ofNode`): a node comes before what is
inside it, and the subtree of a node before those of its later siblings. Sorting items by these
numbers puts them in document order (`inOrder_eq`), so an expression has the value by an index
that it has without one (`evaluateIn_eq`), whichever node the index is made from
(`one_index_per_document`).
-/

namespace Almanac

/-! ## The top of a document -/

namespace Document

variable {doc : Document} {n : Nat}

/-- Every node but the root has a parent, which comes before it. -/
theorem exists_parent? (h0 : 0 < n) (hn : n < doc.size) : ∃ p, doc.parent? n = some p ∧ p < n := by
  obtain ⟨p, -, -, hc, -⟩ := doc.exists_hasPiece h0 hn
  exact ⟨p, doc.parent?_eq_some_iff.mpr hc, (doc.bounds_of_mem_children hc).1⟩

theorem top_eq_zero (hn : n < doc.size) : doc.top n = 0 := by
  fun_induction top doc n with
  | case1 n hnone =>
    refine Nat.eq_zero_of_not_pos fun h0 => ?_
    obtain ⟨p, hp, -⟩ := exists_parent? h0 hn
    rw [hnone] at hp
    cases hp
  | case2 n p hp hlt ih => exact ih (Nat.lt_trans hlt hn)
  | case3 n p hp hlt =>
    exact absurd (doc.bounds_of_mem_children (doc.parent?_eq_some_iff.mp hp)).1 hlt

theorem last_zero (doc : Document) : doc.last 0 + 1 = doc.size := by
  have hlast := doc.hasContent_zero.last
  have hsize := doc.size_eq
  omega

theorem atOrWithin_zero_iff : doc.AtOrWithin 0 n ↔ n < doc.size := by
  have hlast := doc.last_zero
  rw [atOrWithin_iff]
  omega

end Document

namespace Selector

namespace DocumentIndex

/-! ## The numbers of an index -/

section Numbers

variable {tree : KeyedDocument} {stop k n : Nat}

/-- The index that numbers the first nodes of a document as they come. -/
def upTo (tree : KeyedDocument) (stop : Nat) : DocumentIndex :=
  ⟨0, (List.range stop).map fun n => (tree.key n, n)⟩

theorem size_upTo : (upTo tree stop).size = stop := by
  rw [size, upTo, List.length_map, List.length_range]

theorem number?_upTo (hstop : stop ≤ tree.doc.size) :
    (upTo tree stop).number? k = some n ↔ n < stop ∧ tree.key n = k := by
  have hfound : ∀ {m : Nat}, (upTo tree stop).number? k = some m → m < stop ∧ tree.key m = k := by
    intro m h
    obtain ⟨before, after, horder, -⟩ := List.lookup_eq_some_iff.mp h
    have hmem : (k, m) ∈ (upTo tree stop).order := by rw [horder]; simp
    obtain ⟨m', hm', heq⟩ := List.mem_map.mp hmem
    cases heq
    exact ⟨List.mem_range.mp hm', rfl⟩
  refine ⟨hfound, ?_⟩
  rintro ⟨hn, rfl⟩
  have hsome : ((upTo tree stop).number? (tree.key n)).isSome = true :=
    List.lookup_isSome_iff.mpr
      ⟨(tree.key n, n), List.mem_map_of_mem (List.mem_range.mpr hn), BEq.rfl⟩
  obtain ⟨m, hm⟩ := Option.isSome_iff_exists.mp hsome
  obtain ⟨hlt, hkey⟩ := hfound hm
  rwa [tree.key_injective m n (Nat.lt_of_lt_of_le hlt hstop) (Nat.lt_of_lt_of_le hn hstop) hkey]
    at hm

/-- Numbering goes on with the next node. -/
theorem insert_upTo (h : stop < tree.doc.size) :
    (upTo tree stop).insert (tree.key stop) = upTo tree (stop + 1) := by
  have hnone : (upTo tree stop).number? (tree.key stop) = none := by
    refine Option.eq_none_iff_forall_ne_some.mpr fun m hm => ?_
    obtain ⟨hlt, hkey⟩ := (number?_upTo (Nat.le_of_lt h)).mp hm
    exact Nat.ne_of_lt hlt (tree.key_injective m stop (Nat.lt_trans hlt h) h hkey)
  rw [insert, hnone]
  simp only [size_upTo]
  rw [upTo, upTo, List.range_succ, List.map_append]
  rfl

/-- The nodes that come next are given the next numbers. -/
theorem foldl_insert_upTo : ∀ {start count : Nat}, start + count ≤ tree.doc.size →
    ((List.range' start count).map tree.key).foldl insert (upTo tree start) =
      upTo tree (start + count)
  | _, 0, _ => rfl
  | start, count + 1, h => by
    rw [List.range'_succ, List.map_cons, List.foldl_cons, insert_upTo (by omega),
      foldl_insert_upTo (by omega), Nat.add_right_comm, Nat.add_assoc]

/-- **The index of a document** numbers its nodes as they come, whichever of them it is made
from. -/
theorem ofNode_eq (hn : n < tree.doc.size) : ofNode tree n = upTo tree tree.doc.size := by
  have hlast := tree.doc.last_zero
  have hfirst : (⟨0, [(tree.key 0, 0)]⟩ : DocumentIndex) = upTo tree 1 := rfl
  rw [ofNode, Document.top_eq_zero hn, build, Document.descendants, hfirst,
    foldl_insert_upTo (by omega)]
  congr 1
  omega

/-- It makes no difference whether the nodes below the top are listed with the top itself. -/
theorem build_self (root : Nat) (nodes : List Nat) :
    build tree root (root :: nodes) = build tree root nodes := by
  have hsome : (⟨root, [(tree.key root, 0)]⟩ : DocumentIndex).number? (tree.key root) = some 0 := by
    simp [number?]
  rw [build, List.map_cons, List.foldl_cons, insert, hsome]
  rfl

/-- An index gives the keys of the nodes below its root the numbers from zero on, each to one key,
so that a node comes before what is inside it and the subtree of a node before those of its later
siblings. -/
structure NumbersInPreorder (tree : KeyedDocument) (index : DocumentIndex) : Prop where
  isSome_iff : ∀ k, (index.number? k).isSome = true ↔
    ∃ n, tree.doc.AtOrWithin index.root n ∧ tree.key n = k
  lt_size : ∀ k i, index.number? k = some i → i < index.size
  onto : ∀ i, i < index.size → ∃ k, index.number? k = some i
  injective : ∀ k k' i, index.number? k = some i → index.number? k' = some i → k = k'
  inside : ∀ m n i j, tree.doc.Within m n → index.number? (tree.key m) = some i →
    index.number? (tree.key n) = some j → i < j
  siblings : ∀ p c d m n i j, [c, d].Sublist (tree.doc.children p) → tree.doc.AtOrWithin c m →
    tree.doc.AtOrWithin d n → index.number? (tree.key m) = some i →
    index.number? (tree.key n) = some j → i < j

theorem number?_key (hn : n < tree.doc.size) {i : Nat} :
    (upTo tree tree.doc.size).number? (tree.key n) = some i ↔ i = n := by
  rw [number?_upTo (Nat.le_refl _)]
  constructor
  · rintro ⟨hi, hkey⟩
    exact tree.key_injective i n hi hn hkey
  · rintro rfl
    exact ⟨hn, rfl⟩

theorem numbersInPreorder_upTo : NumbersInPreorder tree (upTo tree tree.doc.size) where
  isSome_iff k := by
    have hroot : (upTo tree tree.doc.size).root = 0 := rfl
    simp only [Option.isSome_iff_exists, number?_upTo (Nat.le_refl _), hroot,
      Document.atOrWithin_zero_iff]
  lt_size k i h := by
    rw [size_upTo]
    exact ((number?_upTo (Nat.le_refl _)).mp h).1
  onto i hi := by
    rw [size_upTo] at hi
    exact ⟨tree.key i, (number?_key hi).mpr rfl⟩
  injective k k' i h h' := by
    rw [number?_upTo (Nat.le_refl _)] at h h'
    exact h.2.symm.trans h'.2
  inside m n i j hmn hi hj := by
    have hn := hmn.lt_size
    have hbounds := hmn.bounds
    rw [number?_key (Nat.lt_trans hbounds.1 hn)] at hi
    rw [number?_key hn] at hj
    omega
  siblings p c d m n i j hs hm hn hi hj := by
    have hd := tree.doc.child_lt_size (hs.subset (List.mem_cons_of_mem _ List.mem_cons_self))
    have hlast := tree.doc.last_lt_size hd
    have hcd := List.pairwise_iff_forall_sublist.mp (tree.doc.pairwise_children p) hs
    rw [Document.atOrWithin_iff] at hm hn
    rw [number?_key (by omega)] at hi hj
    omega

end Numbers

/-! ## Items by their numbers -/

section Items

variable {tree : KeyedDocument} {index : DocumentIndex} {items : List Item}

/-- An index that gives every node of a document its own number. -/
def IsExact (tree : KeyedDocument) (index : DocumentIndex) : Prop :=
  index.root = 0 ∧ ∀ n, n < tree.doc.size → index.number? (tree.key n) = some n

theorem isExact_upTo (tree : KeyedDocument) : IsExact tree (upTo tree tree.doc.size) :=
  ⟨rfl, fun _ hn => (number?_key hn).mpr rfl⟩

/-- By the index an item is sorted by its place. -/
theorem sortKey_eq_place (h : IsExact tree index) {a : Item} (ha : a.IsOf tree.doc) :
    index.sortKey tree a = a.place := by
  have hposition : ∀ {n : Nat}, n < tree.doc.size → index.positionOf tree n = n := fun hn => by
    rw [positionOf, h.2 _ hn]
    rfl
  cases a with
  | node n => rw [sortKey, hposition ha]; rfl
  | attr owner slot => rw [sortKey, hposition ha.1]; rfl

/-- Where the keys are the places, dropping repeated keys drops repeated items. -/
theorem dropSameKeys_eq (key : Item → Nat × Nat) : ∀ {items : List Item},
    (∀ a ∈ items, key a = a.place) → dropSameKeys key items = Item.dropRepeats items
  | [], _ => by rw [dropSameKeys, Item.dropRepeats]
  | [a], _ => by rw [dropSameKeys, Item.dropRepeats]
  | a :: b :: rest, h => by
    obtain ⟨ha, hb, hrest⟩ : key a = a.place ∧ key b = b.place ∧ ∀ c ∈ rest, key c = c.place := by
      simpa using h
    rw [dropSameKeys, Item.dropRepeats, ha, hb]
    by_cases hab : a = b
    · subst hab
      rw [if_pos rfl, if_pos rfl]
      exact dropSameKeys_eq key (List.forall_mem_cons.mpr ⟨ha, hrest⟩)
    · rw [if_neg (fun hplace => hab (Item.place_injective hplace)), if_neg hab]
      exact congrArg _ (dropSameKeys_eq key (List.forall_mem_cons.mpr ⟨hb, hrest⟩))
termination_by items => items.length

/-- **Items of a document are put in document order** by an index that is exact. -/
theorem inOrder_eq (h : IsExact tree index) (hitems : ∀ a ∈ items, a.IsOf tree.doc) :
    index.inOrder tree items = Item.inDocumentOrder items := by
  have hplace : ∀ a ∈ items, index.sortKey tree a = a.place :=
    fun a ha => sortKey_eq_place h (hitems a ha)
  let key := index.sortKey tree
  have hsort : (items.mergeSort fun a b =>
      (key a).1 < (key b).1 || ((key a).1 == (key b).1 && (key a).2 ≤ (key b).2)) =
        items.mergeSort Item.notAfter := by
    rw [← List.map_id (items.mergeSort _), List.map_mergeSort (s := Item.notAfter) (f := id),
      List.map_id]
    intro a ha b hb
    simp only [key, hplace a ha, hplace b hb]
    rfl
  rw [inOrder, Item.inDocumentOrder, hsort]
  exact dropSameKeys_eq _ fun a ha => hplace a (List.mem_mergeSort.mp ha)

end Items

end DocumentIndex

/-! ## Evaluation by an index -/

section Evaluation

open DocumentIndex

variable {tree : KeyedDocument} {index : DocumentIndex}

/-- By the index a step leads to the items that it leads to without. -/
theorem candidates_eq_of_isExact (h : IsExact tree index) {a : Item} (ha : a.IsOf tree.doc)
    (axis : Axis) (test : NodeTest) :
    index.candidates tree axis test a = a.candidates tree.doc axis test := by
  have hof : ∀ b ∈ (a.onAxis tree.doc axis).filter (Item.passes tree.doc axis test) ++
      a.impliedRows tree.doc axis test, b.IsOf tree.doc := by
    intro b hb
    rcases List.mem_append.mp hb with hb | hb
    · exact Item.onAxis_isOf axis ha b (List.mem_of_mem_filter hb)
    · obtain ⟨haxis, htest, hrow⟩ := Item.mem_impliedRows.mp hb
      exact (Item.Matches.toRow haxis htest hrow).isOf ha
  rw [DocumentIndex.candidates, Item.candidates]
  cases hrows : a.impliedRows tree.doc axis test with
  | nil => rfl
  | cons row rows =>
    rw [hrows] at hof
    exact inOrder_eq h hof

mutual

/-- **An expression has the same value by an exact index** as without one. -/
theorem evaluateIn_eq (h : IsExact tree index) : ∀ (expr : Expr) {focus : Focus},
    focus.item.IsOf tree.doc → evaluateIn tree index expr focus = evaluate tree.doc expr focus
  | .operation operator left right, _, hfocus => by
    rw [evaluateIn, evaluate, evaluateIn_eq h left hfocus, evaluateIn_eq h right hfocus]
  | .union branches, focus, hfocus => by
    have hof : ∀ a ∈ evaluateBranches tree.doc branches focus, a.IsOf tree.doc := by
      intro a ha
      obtain ⟨branch, -, hgives⟩ := mem_evaluateBranches.mp ha
      exact isOf_of_mem_evaluate branch hfocus a (mem_toItems_iff.mpr hgives)
    rw [evaluateIn, evaluate, evaluateBranchesIn_eq h branches hfocus, inOrder_eq h hof]
  | .path absolute steps, focus, hfocus => by
    have hstart : (if absolute then Item.node 0 else focus.item).IsOf tree.doc := by
      split
      · exact Document.atOrWithin_zero_iff.mp (.inl rfl)
      · exact hfocus
    rw [evaluateIn, evaluate, h.1,
      takeStepsFromIn_eq h steps (List.forall_mem_singleton.mpr hstart)]
  | .filter base predicates steps, focus, hfocus => by
    have hof := isOf_of_mem_evaluate base hfocus
    rw [evaluateIn, evaluate, evaluateIn_eq h base hfocus]
    cases hvalue : evaluate tree.doc base focus with
    | items items =>
      have hitems : ∀ a ∈ items, a.IsOf tree.doc := by rwa [hvalue] at hof
      have hkept : ∀ a ∈ keepAll tree.doc predicates items, a.IsOf tree.doc :=
        fun a ha => hitems a ((keepAll_sublist tree.doc predicates items).subset ha)
      dsimp only
      rw [keepAllIn_eq h predicates hitems, takeStepsFromIn_eq h steps hkept]
    | _ => rfl
  | .literal _, _, _ | .number _, _, _ => by rw [evaluateIn, evaluate]
  | .call function arguments, _, hfocus => by
    rw [evaluateIn, evaluate, evaluateArgumentsIn_eq h arguments hfocus]

theorem evaluateBranchesIn_eq (h : IsExact tree index) : ∀ (branches : List Expr)
    {focus : Focus}, focus.item.IsOf tree.doc →
      evaluateBranchesIn tree index branches focus = evaluateBranches tree.doc branches focus
  | [], _, _ => rfl
  | branch :: rest, _, hfocus => by
    rw [evaluateBranchesIn, evaluateBranches, evaluateIn_eq h branch hfocus,
      evaluateBranchesIn_eq h rest hfocus]

theorem evaluateArgumentsIn_eq (h : IsExact tree index) : ∀ (arguments : List Expr)
    {focus : Focus}, focus.item.IsOf tree.doc →
      evaluateArgumentsIn tree index arguments focus = evaluateArguments tree.doc arguments focus
  | [], _, _ => rfl
  | argument :: rest, _, hfocus => by
    rw [evaluateArgumentsIn, evaluateArguments, evaluateIn_eq h argument hfocus,
      evaluateArgumentsIn_eq h rest hfocus]

theorem takeStepsFromIn_eq (h : IsExact tree index) : ∀ (steps : List (Step Expr))
    {items : List Item}, (∀ a ∈ items, a.IsOf tree.doc) →
      takeStepsFromIn tree index steps items = takeStepsFrom tree.doc steps items
  | [], _, _ => rfl
  | ⟨axis, test, predicates⟩ :: rest, items, hitems => by
    have hled : ∀ a ∈ items, ∀ b ∈ a.candidates tree.doc axis test, b.IsOf tree.doc :=
      fun a ha b hb => (Item.mem_candidates_iff.mp hb).isOf (hitems a ha)
    have hkept : ∀ a ∈ items,
        keepAllIn tree index predicates (index.candidates tree axis test a) =
          keepAll tree.doc predicates (a.candidates tree.doc axis test) := by
      intro a ha
      rw [candidates_eq_of_isExact h (hitems a ha), keepAllIn_eq h predicates (hled a ha)]
    have hof : ∀ b ∈ items.flatMap fun a =>
        keepAll tree.doc predicates (a.candidates tree.doc axis test), b.IsOf tree.doc := by
      intro b hb
      obtain ⟨a, ha, hb⟩ := List.mem_flatMap.mp hb
      exact hled a ha b ((keepAll_sublist tree.doc predicates _).subset hb)
    rw [takeStepsFromIn, takeStepsFrom, List.flatMap_congr hkept, inOrder_eq h hof]
    exact takeStepsFromIn_eq h rest fun b hb => hof b (Item.mem_inDocumentOrder.mp hb)

theorem keepAllIn_eq (h : IsExact tree index) : ∀ (predicates : List Expr)
    {items : List Item}, (∀ a ∈ items, a.IsOf tree.doc) →
      keepAllIn tree index predicates items = keepAll tree.doc predicates items
  | [], _, _ => rfl
  | predicate :: rest, items, hitems => by
    have hfilter : (items.zipIdx.filter fun (b, i) =>
        (evaluateIn tree index predicate ⟨b, i + 1, items.length⟩).keeps (i + 1)) =
          items.zipIdx.filter fun (b, i) =>
            (evaluate tree.doc predicate ⟨b, i + 1, items.length⟩).keeps (i + 1) := by
      refine List.filter_congr fun (b, i) hb => ?_
      have hitem : b.IsOf tree.doc := hitems b (List.fst_mem_of_mem_zipIdx hb)
      have hfocus : (⟨b, i + 1, items.length⟩ : Focus).item.IsOf tree.doc := hitem
      have hvalue := evaluateIn_eq h predicate hfocus
      exact congrArg (Value.keeps · (i + 1)) hvalue
    rw [keepAllIn, keepAll, hfilter]
    exact keepAllIn_eq h rest fun a ha => hitems a ((numbered_sublist _ items).subset ha)

end

end Evaluation

/-- **One index serves a whole document**: the indexes made from any two nodes are the same,
whatever the keys of the nodes, and number them in preorder without a gap. By each of them an
expression gives what it gives without an index. -/
theorem one_index_per_document (tree : KeyedDocument) :
    (∀ m n, m < tree.doc.size → n < tree.doc.size →
      DocumentIndex.ofNode tree m = DocumentIndex.ofNode tree n) ∧
    (∀ n, n < tree.doc.size →
      DocumentIndex.NumbersInPreorder tree (DocumentIndex.ofNode tree n) ∧
      (DocumentIndex.ofNode tree n).size = tree.doc.size ∧
      (∀ m, m < tree.doc.size → tree.doc.AtOrWithin (DocumentIndex.ofNode tree n).root m) ∧
      let top := tree.doc.top n
      DocumentIndex.build tree top (top :: tree.doc.descendants top) =
        DocumentIndex.ofNode tree n) ∧
    ∀ expr context n, context < tree.doc.size → n < tree.doc.size →
      let shared := DocumentIndex.ofNode tree n
      let fresh := DocumentIndex.ofNode tree context
      (selectStringsIn tree shared expr context = selectStringsIn tree fresh expr context ∧
        selectStringsIn tree fresh expr context = selectStrings tree.doc expr context) ∧
      selectNodesIn tree shared expr context = selectNodesIn tree fresh expr context ∧
        selectNodesIn tree fresh expr context = selectNodes tree.doc expr context := by
  refine ⟨?_, ?_, ?_⟩
  · intro m n hm hn
    rw [DocumentIndex.ofNode_eq hm, DocumentIndex.ofNode_eq hn]
  · intro n hn
    refine ⟨?_, ?_, fun m hm => ?_, DocumentIndex.build_self _ _⟩ <;>
      rw [DocumentIndex.ofNode_eq hn]
    · exact DocumentIndex.numbersInPreorder_upTo
    · exact DocumentIndex.size_upTo
    · exact Document.atOrWithin_zero_iff.mpr hm
  · intro expr context n hcontext hn shared fresh
    have hfresh : fresh = DocumentIndex.upTo tree tree.doc.size := DocumentIndex.ofNode_eq hcontext
    have hsame : shared = fresh := (DocumentIndex.ofNode_eq hn).trans hfresh.symm
    have hexact : DocumentIndex.IsExact tree fresh := hfresh ▸ DocumentIndex.isExact_upTo tree
    have hfocus : (⟨.node context, 1, 1⟩ : Focus).item.IsOf tree.doc := hcontext
    have hvalue : valueAtIn tree fresh expr context = valueAt tree.doc expr context :=
      evaluateIn_eq hexact expr hfocus
    rw [hsame, selectStringsIn, selectNodesIn, hvalue]
    exact ⟨⟨rfl, rfl⟩, rfl, rfl⟩

/-- Two rows of a table, where the keys of nodes fall as the nodes go on: the index made from the
last text gives them by their places. -/
theorem one_index_per_document_backward :
    let tree : KeyedDocument :=
      { doc := Document.ofMarkup [.element "table" [] [.element "tr" [] [.text "a"],
          .element "tr" [] [.text "b"]]]
        key := fun n => 9 - n
        key_injective := fun m n (hm : m < 6) (hn : n < 6) (h : 9 - m = 9 - n) => by omega }
    let rows : Expr := .path true [⟨.descendant, .name "tr", []⟩]
    1 < tree.doc.size ∧ 5 < tree.doc.size ∧
      (DocumentIndex.ofNode tree 5).order = [(9, 0), (8, 1), (7, 2), (6, 3), (5, 4), (4, 5)] ∧
      selectStringsIn tree (DocumentIndex.ofNode tree 5) rows 1 = ["a", "b"] := by
  intro tree rows
  have hcontext : 1 < tree.doc.size := by decide
  have hlast : 5 < tree.doc.size := by decide
  obtain ⟨hsame, -, hselect⟩ := one_index_per_document tree
  obtain ⟨⟨hshared, hfresh⟩, -⟩ := hselect rows 1 5 hcontext hlast
  refine ⟨hcontext, hlast, ?_, hshared.trans (hfresh.trans ?_)⟩
  · rw [hsame 5 1 hlast hcontext]
    decide +kernel
  · cbv

end Selector

end Almanac
