import Almanac.Proofs.Document.Bodies
import Almanac.Proofs.Selector.Chains
import Almanac.Proofs.Selector.Union

/-!
# Axes told by the tree

Where an axis leads is a matter of the tree (`Axis.Leads`), and so is the order in which it
lists what it leads to: document order, or on the axes that go up and back its reverse, so that
the nearest item is the first (`Axis.Comes`). An axis lists exactly the items that it leads to,
in this order (`mem_onAxis_iff`, `pairwise_onAxis`). A step leads to those that pass its test, and
from a table to its rows also to the rows in its bodies (`Matches`); these are its candidates, in
the order of the axis, and no other list has them in this order (`inProximityOrder_iff`).
-/

namespace Almanac

namespace Document

variable {doc : Document} {n m : Nat}

/-! ## Siblings -/

/-- Of two children of one node the first stands before the second. -/
theorem pair_sublist_iff {p : Nat} :
    [n, m].Sublist (doc.children p) ↔ n ∈ doc.children p ∧ m ∈ doc.children p ∧ n < m := by
  have hlt : ∀ {c d : Nat}, [c, d].Sublist (doc.children p) → c < d := fun hs => by
    have := List.pairwise_iff_forall_sublist.mp (doc.pairwise_children p) hs
    exact Nat.lt_of_le_of_lt (doc.le_last _) this
  constructor
  · intro hs
    exact ⟨hs.subset List.mem_cons_self, hs.subset (List.mem_cons_of_mem _ List.mem_cons_self),
      hlt hs⟩
  · rintro ⟨hn, hm, hnm⟩
    rcases pair_sublist_or hn hm (Nat.ne_of_lt hnm) with hs | hs
    · exact hs
    · exact absurd (hlt hs) (Nat.lt_asymm hnm)

theorem mem_siblings_iff : m ∈ doc.siblings n ↔ ∃ p, n ∈ doc.children p ∧ m ∈ doc.children p := by
  rw [siblings]
  constructor
  · intro h
    split at h
    · cases h
    · next p hp => exact ⟨p, doc.parent?_eq_some_iff.mp hp, h⟩
  · rintro ⟨p, hn, hm⟩
    rw [doc.parent?_eq_some_iff.mpr hn]
    exact hm

/-- The siblings behind a node are those behind it among the children of its parent. -/
theorem mem_followingSiblings_iff :
    m ∈ doc.followingSiblings n ↔ ∃ p, [n, m].Sublist (doc.children p) := by
  simp only [followingSiblings, List.mem_filter, mem_siblings_iff, decide_eq_true_eq,
    pair_sublist_iff]
  tauto

theorem mem_precedingSiblings_iff :
    m ∈ doc.precedingSiblings n ↔ ∃ p, [m, n].Sublist (doc.children p) := by
  simp only [precedingSiblings, List.mem_reverse, List.mem_filter, mem_siblings_iff,
    decide_eq_true_eq, pair_sublist_iff]
  tauto

/-! ## Nodes in order -/

theorem pairwise_lt_children (n : Nat) : (doc.children n).Pairwise (· < ·) :=
  (doc.pairwise_children n).imp fun h => Nat.lt_of_le_of_lt (doc.le_last _) h

theorem pairwise_lt_siblings (n : Nat) : (doc.siblings n).Pairwise (· < ·) := by
  rw [siblings]
  split
  · exact .nil
  · exact doc.pairwise_lt_children _

theorem pairwise_ancestors (n : Nat) : (doc.ancestors n).Pairwise (· > ·) := by
  fun_induction ancestors doc n with
  | case1 => exact .nil
  | case2 n p hp _ ih =>
    exact .cons (fun a ha => (mem_ancestors_iff.mp ha).bounds.1) ih
  | case3 => exact .nil

end Document

namespace Selector

/-! ## Where an axis leads -/

/-- Where an axis leads from an item, told by the tree. -/
inductive Axis.Leads (doc : Document) : Axis → Item → Item → Prop
  | child {n c : Nat} : c ∈ doc.children n → Leads doc .child (.node n) (.node c)
  | descendant {n d : Nat} : doc.Within n d → Leads doc .descendant (.node n) (.node d)
  | descendantOrSelf {n d : Nat} : doc.AtOrWithin n d →
      Leads doc .descendantOrSelf (.node n) (.node d)
  | parent {n p : Nat} : n ∈ doc.children p → Leads doc .parent (.node n) (.node p)
  | owner {n slot : Nat} : Leads doc .parent (.attr n slot) (.node n)
  | ancestor {n a : Nat} : doc.Within a n → Leads doc .ancestor (.node n) (.node a)
  | ownerAncestor {n slot a : Nat} : doc.AtOrWithin a n →
      Leads doc .ancestor (.attr n slot) (.node a)
  | ancestorOrSelf {n a : Nat} : doc.AtOrWithin a n →
      Leads doc .ancestorOrSelf (.node n) (.node a)
  | ownerAncestorOrSelf {n slot a : Nat} : doc.AtOrWithin a n →
      Leads doc .ancestorOrSelf (.attr n slot) (.node a)
  | attributeOrSelf {n slot : Nat} : Leads doc .ancestorOrSelf (.attr n slot) (.attr n slot)
  | itself (a : Item) : Leads doc .itself a a
  | followingSibling {n m p : Nat} : [n, m].Sublist (doc.children p) →
      Leads doc .followingSibling (.node n) (.node m)
  | precedingSibling {n m p : Nat} : [m, n].Sublist (doc.children p) →
      Leads doc .precedingSibling (.node n) (.node m)
  | attributes {n slot : Nat} : slot < (doc.attributes n).length →
      Leads doc .attributes (.node n) (.attr n slot)

/-- Whether an axis goes up or back. -/
def Axis.isReverse : Axis → Bool
  | .parent | .ancestor | .ancestorOrSelf | .precedingSibling => true
  | _ => false

/-- The order in which an axis lists items: document order, or its reverse. -/
def Axis.Comes (doc : Document) (axis : Axis) (a b : Item) : Prop :=
  if axis.isReverse then b.Precedes doc a else a.Precedes doc b

namespace Item

variable {doc : Document} {axis : Axis} {a b : Item}

theorem mem_map_node {nodes : List Nat} :
    b ∈ nodes.map node ↔ ∃ n, b = node n ∧ n ∈ nodes := by
  rw [List.mem_map]
  exact ⟨fun ⟨n, hn, h⟩ => ⟨n, h.symm, hn⟩, fun ⟨n, h, hn⟩ => ⟨n, hn, h.symm⟩⟩

theorem mem_attributesOf {n : Nat} :
    b ∈ attributesOf doc n ↔ ∃ slot, b = attr n slot ∧ slot < (doc.attributes n).length := by
  simp only [attributesOf, List.mem_map, List.mem_range]
  constructor
  · rintro ⟨slot, hslot, rfl⟩
    exact ⟨slot, rfl, hslot⟩
  · rintro ⟨slot, rfl, hslot⟩
    exact ⟨slot, hslot, rfl⟩

/-- A node and its descendants are the node and what is inside it. -/
theorem mem_descendantsOrSelf {n m : Nat} : m ∈ n :: doc.descendants n ↔ doc.AtOrWithin n m := by
  rw [List.mem_cons, Document.mem_descendants_iff]
  rfl

theorem mem_ancestorsOrSelf {n m : Nat} : m ∈ n :: doc.ancestors n ↔ doc.AtOrWithin m n := by
  rw [List.mem_cons, Document.mem_ancestors_iff, Document.AtOrWithin]
  exact or_congr_left eq_comm

/-- **An axis lists the items that it leads to.** -/
theorem mem_onAxis_iff : b ∈ a.onAxis doc axis ↔ axis.Leads doc a b := by
  cases a with
  | node n =>
    cases axis with
    | itself =>
      rw [onAxis, List.mem_singleton]
      exact ⟨fun h => h ▸ .itself _, fun h => by cases h; rfl⟩
    | attributes =>
      rw [onAxis, mem_attributesOf]
      exact ⟨fun ⟨_, h, hslot⟩ => h ▸ .attributes hslot, fun h => by cases h; exact ⟨_, rfl, ‹_›⟩⟩
    | child =>
      rw [onAxis, mem_map_node]
      exact ⟨fun ⟨_, h, hm⟩ => h ▸ .child hm, fun h => by cases h; exact ⟨_, rfl, ‹_›⟩⟩
    | descendant =>
      simp only [onAxis, mem_map_node, Document.mem_descendants_iff]
      exact ⟨fun ⟨_, h, hm⟩ => h ▸ .descendant hm, fun h => by cases h; exact ⟨_, rfl, ‹_›⟩⟩
    | descendantOrSelf =>
      simp only [onAxis, mem_map_node, mem_descendantsOrSelf]
      exact ⟨fun ⟨_, h, hm⟩ => h ▸ .descendantOrSelf hm,
        fun h => by cases h; exact ⟨_, rfl, ‹_›⟩⟩
    | parent =>
      simp only [onAxis, mem_map_node, Option.mem_toList, Document.parent?_eq_some_iff]
      exact ⟨fun ⟨_, h, hm⟩ => h ▸ .parent hm, fun h => by cases h; exact ⟨_, rfl, ‹_›⟩⟩
    | ancestor =>
      simp only [onAxis, mem_map_node, Document.mem_ancestors_iff]
      exact ⟨fun ⟨_, h, hm⟩ => h ▸ .ancestor hm, fun h => by cases h; exact ⟨_, rfl, ‹_›⟩⟩
    | ancestorOrSelf =>
      simp only [onAxis, mem_map_node, mem_ancestorsOrSelf]
      exact ⟨fun ⟨_, h, hm⟩ => h ▸ .ancestorOrSelf hm, fun h => by cases h; exact ⟨_, rfl, ‹_›⟩⟩
    | followingSibling =>
      simp only [onAxis, mem_map_node, Document.mem_followingSiblings_iff]
      exact ⟨fun ⟨_, h, _, hm⟩ => h ▸ .followingSibling hm,
        fun h => by cases h; exact ⟨_, rfl, _, ‹_›⟩⟩
    | precedingSibling =>
      simp only [onAxis, mem_map_node, Document.mem_precedingSiblings_iff]
      exact ⟨fun ⟨_, h, _, hm⟩ => h ▸ .precedingSibling hm,
        fun h => by cases h; exact ⟨_, rfl, _, ‹_›⟩⟩
  | attr owner slot =>
    cases axis with
    | itself =>
      rw [onAxis, List.mem_singleton]
      exact ⟨fun h => h ▸ .itself _, fun h => by cases h; rfl⟩
    | parent =>
      rw [onAxis, List.mem_singleton]
      exact ⟨fun h => h ▸ .owner, fun h => by cases h; rfl⟩
    | ancestor =>
      simp only [onAxis, mem_map_node, mem_ancestorsOrSelf]
      exact ⟨fun ⟨_, h, hm⟩ => h ▸ .ownerAncestor hm, fun h => by cases h; exact ⟨_, rfl, ‹_›⟩⟩
    | ancestorOrSelf =>
      rw [onAxis, List.mem_cons]
      simp only [mem_map_node, mem_ancestorsOrSelf]
      constructor
      · rintro (rfl | ⟨_, rfl, hm⟩)
        · exact .attributeOrSelf
        · exact .ownerAncestorOrSelf hm
      · intro h
        cases h with
        | ownerAncestorOrSelf hm => exact .inr ⟨_, rfl, hm⟩
        | attributeOrSelf => exact .inl rfl
    | child | descendant | descendantOrSelf | followingSibling | precedingSibling
    | attributes => exact ⟨fun h => (nomatch h), fun h => by cases h⟩

/-! ## The order of an axis -/

/-- On an axis down or forward an item comes before another just when it precedes it. -/
theorem comes_iff_precedes (haxis : axis.isReverse = false) :
    axis.Comes doc a b ↔ a.Precedes doc b := by
  rw [Axis.Comes, haxis, if_neg Bool.false_ne_true]

/-- On an axis up or back an item comes before another just when the other precedes it. -/
theorem comes_iff_preceded (haxis : axis.isReverse = true) :
    axis.Comes doc a b ↔ b.Precedes doc a := by
  rw [Axis.Comes, if_pos haxis]

theorem before_of_comes (haxis : axis.isReverse = false) (h : axis.Comes doc a b) :
    a.Before b :=
  ((comes_iff_precedes haxis).mp h).before

theorem after_of_comes (haxis : axis.isReverse = true) (h : axis.Comes doc a b) :
    b.Before a :=
  ((comes_iff_preceded haxis).mp h).before

/-- Items of a document that are ordered by their places come in the order of an axis. -/
theorem pairwise_comes {items : List Item} (hof : ∀ b ∈ items, b.IsOf doc)
    (hbefore : axis.isReverse = false → items.Pairwise Before)
    (hafter : axis.isReverse = true → items.Pairwise fun b c => c.Before b) :
    items.Pairwise (axis.Comes doc) := by
  cases haxis : axis.isReverse with
  | false =>
    exact (hbefore haxis).imp_of_mem fun _ hc hbc =>
      (comes_iff_precedes haxis).mpr (hbc.precedes (hof _ hc))
  | true =>
    exact (hafter haxis).imp_of_mem fun hb _ hbc =>
      (comes_iff_preceded haxis).mpr (hbc.precedes (hof _ hb))

theorem pairwise_before_nodes {nodes : List Nat} (h : nodes.Pairwise (· < ·)) :
    (nodes.map node).Pairwise Before :=
  List.pairwise_map.mpr (h.imp fun h => .inl h)

theorem pairwise_after_nodes {nodes : List Nat} (h : nodes.Pairwise (· > ·)) :
    (nodes.map node).Pairwise fun a b => b.Before a :=
  List.pairwise_map.mpr (h.imp fun h => .inl h)

theorem pairwise_descendantsOrSelf (n : Nat) : (n :: doc.descendants n).Pairwise (· < ·) :=
  .cons (fun _ hm => (Document.mem_descendants_iff.mp hm).bounds.1) List.pairwise_lt_range'

theorem pairwise_ancestorsOrSelf (n : Nat) : (n :: doc.ancestors n).Pairwise (· > ·) :=
  .cons (fun _ hm => (Document.mem_ancestors_iff.mp hm).bounds.1) (doc.pairwise_ancestors n)

/-- The axes down and forward list items in document order. -/
theorem pairwise_before_onAxis (a : Item) (haxis : axis.isReverse = false) :
    (a.onAxis doc axis).Pairwise Before := by
  cases a with
  | node n =>
    cases axis with
    | parent | ancestor | ancestorOrSelf | precedingSibling => cases haxis
    | child => exact pairwise_before_nodes (doc.pairwise_lt_children n)
    | descendant => exact pairwise_before_nodes List.pairwise_lt_range'
    | descendantOrSelf => exact pairwise_before_nodes (pairwise_descendantsOrSelf n)
    | itself => exact List.pairwise_singleton ..
    | followingSibling =>
      exact pairwise_before_nodes ((doc.pairwise_lt_siblings n).filter _)
    | attributes =>
      exact List.pairwise_map.mpr
        (List.pairwise_lt_range.imp fun h => .inr ⟨rfl, Nat.succ_lt_succ h⟩)
  | attr owner slot =>
    cases axis with
    | itself => exact List.pairwise_singleton ..
    | parent | ancestor | ancestorOrSelf | precedingSibling => cases haxis
    | _ => exact .nil

/-- The axes up and back list the nearest item first. -/
theorem pairwise_after_onAxis (a : Item) (haxis : axis.isReverse = true) :
    (a.onAxis doc axis).Pairwise fun b c => c.Before b := by
  cases a with
  | node n =>
    cases axis with
    | parent =>
      cases hp : doc.parent? n with
      | none => simp [onAxis, hp]
      | some p => simp [onAxis, hp]
    | ancestor => exact pairwise_after_nodes (doc.pairwise_ancestors n)
    | ancestorOrSelf => exact pairwise_after_nodes (pairwise_ancestorsOrSelf n)
    | precedingSibling =>
      refine pairwise_after_nodes (List.pairwise_reverse.mpr ?_)
      exact (doc.pairwise_lt_siblings n).filter _
    | _ => cases haxis
  | attr owner slot =>
    cases axis with
    | parent => exact List.pairwise_singleton ..
    | ancestor => exact pairwise_after_nodes (pairwise_ancestorsOrSelf owner)
    | ancestorOrSelf =>
      refine .cons (fun b hb => ?_) (pairwise_after_nodes (pairwise_ancestorsOrSelf owner))
      obtain ⟨m, rfl, hm⟩ := mem_map_node.mp hb
      -- the owner comes before its attribute, and all else above it before the owner
      rcases mem_ancestorsOrSelf.mp hm with rfl | hm
      · exact .inr ⟨rfl, Nat.succ_pos slot⟩
      · exact .inl hm.bounds.1
    | precedingSibling => exact .nil
    | _ => cases haxis

/-- **An axis lists items in its order.** -/
theorem pairwise_onAxis (ha : a.IsOf doc) : (a.onAxis doc axis).Pairwise (axis.Comes doc) :=
  pairwise_comes (onAxis_isOf axis ha) (pairwise_before_onAxis a) (pairwise_after_onAxis a)

/-! ## The candidates of a step -/

/-- What a step leads to, its predicates aside: what is on its axis and passes its test, and from
a table to its rows also the rows in its bodies. -/
inductive Matches (doc : Document) (axis : Axis) (test : NodeTest) (a b : Item) : Prop
  | along : axis.Leads doc a b → b.passes doc axis test = true → Matches doc axis test a b
  | toRow : axis = .child → test.isName "tr" = true → IsBodyRow doc a b → Matches doc axis test a b

/-- The items that a step leads to, each once and in the order of its axis. -/
structure InProximityOrder (doc : Document) (axis : Axis) (test : NodeTest) (a : Item)
    (items : List Item) : Prop where
  mem_iff : ∀ b, b ∈ items ↔ Matches doc axis test a b
  pairwise : items.Pairwise (axis.Comes doc)

variable {test : NodeTest}

theorem matches_iff_leadsTo {predicates : List Expr} :
    Matches doc axis test a b ↔ Step.LeadsTo doc ⟨axis, test, predicates⟩ a b := by
  constructor
  · rintro (⟨haxis, htest⟩ | ⟨haxis, htest, hrow⟩)
    · exact .along (mem_onAxis_iff.mpr haxis) htest
    · exact .toRow haxis htest hrow
  · rintro (⟨haxis, htest⟩ | ⟨haxis, htest, hrow⟩)
    · exact .along (mem_onAxis_iff.mp haxis) htest
    · exact .toRow haxis htest hrow

/-- The candidates of a step are the items that match it. -/
theorem mem_candidates_iff :
    b ∈ a.candidates doc axis test ↔ Matches doc axis test a b := by
  let step : Step Expr := ⟨axis, test, []⟩
  have hmem : b ∈ a.candidates doc step.axis step.test ↔ step.LeadsTo doc a b := mem_candidates
  exact hmem.trans matches_iff_leadsTo.symm

/-- The candidates of a step down or forward are in document order. -/
theorem pairwise_before_candidates (a : Item) (haxis : axis.isReverse = false) :
    (a.candidates doc axis test).Pairwise Before := by
  unfold candidates
  split
  · exact (pairwise_before_onAxis a haxis).filter _
  · exact pairwise_inDocumentOrder _

theorem pairwise_after_candidates (a : Item) (haxis : axis.isReverse = true) :
    (a.candidates doc axis test).Pairwise fun b c => c.Before b := by
  have hchild : axis ≠ .child := by
    rintro rfl
    cases haxis
  rw [candidates, Correspondence.impliedRows_of_ne_child hchild]
  exact (pairwise_after_onAxis a haxis).filter _

/-- What a step leads to from an item of a document is of the document. -/
theorem Matches.isOf (h : Matches doc axis test a b) (ha : a.IsOf doc) : b.IsOf doc := by
  cases h with
  | along haxis _ => exact onAxis_isOf axis ha b (mem_onAxis_iff.mpr haxis)
  | toRow _ _ hrow =>
    cases hrow with
    | row _ _ _ hrow _ => exact doc.child_lt_size hrow

/-- The candidates of a step are in the order of its axis. -/
theorem candidates_inProximityOrder (ha : a.IsOf doc) :
    InProximityOrder doc axis test a (a.candidates doc axis test) where
  mem_iff _ := mem_candidates_iff
  pairwise := pairwise_comes (fun _ hb => (mem_candidates_iff.mp hb).isOf ha)
    (pairwise_before_candidates a) (pairwise_after_candidates a)

/-- Two lists of the same items in the order of an axis are the same. -/
theorem eq_of_pairwise_comes {items items' : List Item} (h : items.Pairwise (axis.Comes doc))
    (h' : items'.Pairwise (axis.Comes doc)) (hmem : ∀ b, b ∈ items ↔ b ∈ items') :
    items = items' := by
  cases haxis : axis.isReverse with
  | false =>
    exact eq_of_pairwise_before (h.imp (before_of_comes haxis)) (h'.imp (before_of_comes haxis))
      hmem
  | true =>
    refine List.reverse_injective (eq_of_pairwise_before ?_ ?_ ?_)
    · exact List.pairwise_reverse.mpr (h.imp (after_of_comes haxis))
    · exact List.pairwise_reverse.mpr (h'.imp (after_of_comes haxis))
    · exact fun b => by rw [List.mem_reverse, List.mem_reverse, hmem]

/-- **The candidates of a step** are the one list of the items that it leads to in the order of its
axis. -/
theorem inProximityOrder_iff (ha : a.IsOf doc) {items : List Item} :
    InProximityOrder doc axis test a items ↔ items = a.candidates doc axis test := by
  have hcandidates : InProximityOrder doc axis test a (a.candidates doc axis test) :=
    candidates_inProximityOrder ha
  constructor
  · intro h
    exact eq_of_pairwise_comes h.pairwise hcandidates.pairwise
      fun b => by rw [h.mem_iff, hcandidates.mem_iff]
  · rintro rfl
    exact hcandidates

/-- The rows that a step leads to from a table: those right in the table and those in its
bodies. -/
theorem matches_row_iff {table : Nat} (htable : doc.hasTag table "table" = true)
    (htest : test.isName "tr" = true) :
    Matches doc .child test (node table) b ↔ ∃ row, b = node row ∧ doc.hasTag row "tr" = true ∧
      (row ∈ doc.children table ∨
        ∃ body ∈ doc.children table, doc.hasTag body "tbody" = true ∧ row ∈ doc.children body) := by
  obtain ⟨asked, rfl, hasked⟩ :
      ∃ asked, test = .name asked ∧ Text.equalLatin asked "tr" = true := by
    cases test with
    | name asked => exact ⟨asked, rfl, htest⟩
    | any | text | node => cases htest
  have htag : ∀ row, doc.hasTag row asked = doc.hasTag row "tr" := Document.hasTag_congr hasked
  constructor
  · rintro (⟨haxis, hpasses⟩ | ⟨-, -, hrow⟩)
    · cases haxis with
      | child hc => exact ⟨_, rfl, (htag _).symm.trans hpasses, .inl hc⟩
    · cases hrow with
      | row _ hbody hbodyTag hrow hrowTag =>
        exact ⟨_, rfl, hrowTag, .inr ⟨_, hbody, hbodyTag, hrow⟩⟩
  · rintro ⟨row, rfl, hrowTag, hc | ⟨body, hbody, hbodyTag, hrow⟩⟩
    · exact .along (.child hc) ((htag _).trans hrowTag)
    · exact .toRow rfl htest (.row htable hbody hbodyTag hrow hrowTag)

end Item

end Selector

end Almanac
