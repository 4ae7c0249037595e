import Almanac.Proofs.Document.Tree
import Almanac.Proofs.Selector.Correspondence

/-!
# Items in document order

Document order is a matter of the tree: a node precedes its attributes, these precede
its content, and the subtree of a node precedes the subtrees of the siblings after it
(`Precedes`). On the items of a document it is the order of their places
(`precedes_iff_before`). The items that an expression gives at a node of a document
are items of the document (`has_of_mem_valueAt`) and strictly increasing
(`valueAt_in_document_order`).
-/

namespace Almanac.Selector

namespace Item

/-! ## Document order -/

/-- The node that an item is, or whose attribute it is. -/
def holder : Item → Nat
  | node n => n
  | attr n _ => n

/-- Whether an item is one of a document. -/
def IsOf (doc : Document) : Item → Prop
  | node n => n < doc.size
  | attr n slot => n < doc.size ∧ slot < (doc.attributes n).length

/-- **Document order**, told by the tree: a node comes before its attributes, these in
the order they are written, both before the content of the node, and the subtrees of
siblings follow one another. -/
inductive Precedes (doc : Document) : Item → Item → Prop
  | own (n slot : Nat) : Precedes doc (node n) (attr n slot)
  | slots {n i j : Nat} : i < j → Precedes doc (attr n i) (attr n j)
  | content {a b : Item} : doc.Within a.holder b.holder → Precedes doc a b
  | siblings {p c d : Nat} {a b : Item} : [c, d].Sublist (doc.children p) →
      doc.AtOrWithin c a.holder → doc.AtOrWithin d b.holder → Precedes doc a b

variable {doc : Document} {a b c : Item}

theorem IsOf.holder_lt (h : a.IsOf doc) : a.holder < doc.size := by
  cases a with
  | node n => exact h
  | attr n slot => exact h.1

theorem Precedes.before (h : a.Precedes doc b) : a.Before b := by
  have hplace : ∀ {a b : Item}, a.holder < b.holder → a.Before b := by
    rintro (_ | _) (_ | _) h <;> exact .inl h
  cases h with
  | own n slot => exact .inr ⟨rfl, Nat.succ_pos slot⟩
  | slots h => exact .inr ⟨rfl, Nat.succ_lt_succ h⟩
  | content h => exact hplace h.bounds.1
  | siblings hs ha hb =>
    have hlast := List.pairwise_iff_forall_sublist.mp (doc.pairwise_children _) hs
    have ha := Document.atOrWithin_iff.mp ha
    have hb := Document.atOrWithin_iff.mp hb
    exact hplace (by omega)

theorem Precedes.asymm (h : a.Precedes doc b) : ¬ b.Precedes doc a :=
  fun h' => h.before.asymm h'.before

/-- An item of a document that stands behind another by its place comes after it. -/
theorem Before.precedes (h : a.Before b) (hb : b.IsOf doc) : a.Precedes doc b := by
  have hnode : ∀ {a b : Item}, b.IsOf doc → a.holder < b.holder → a.Precedes doc b := by
    intro a b hb hlt
    -- the later node is inside the other, or siblings part the two
    by_cases hin : b.holder ≤ doc.last a.holder
    · exact .content (Document.within_iff.mpr ⟨hlt, hin⟩)
    · obtain ⟨p, c, d, hs, hc, hd⟩ :=
        Document.exists_siblings hlt hb.holder_lt (Nat.lt_of_not_le hin)
      exact .siblings hs hc hd
  cases a with
  | node m =>
    cases b with
    | node n =>
      rcases h with h | ⟨-, h⟩
      · exact hnode hb h
      · exact absurd h (Nat.lt_irrefl 0)
    | attr n slot =>
      rcases h with h | ⟨rfl : m = n, -⟩
      · exact hnode hb h
      · exact .own m slot
  | attr m i =>
    cases b with
    | node n =>
      rcases h with h | ⟨-, h⟩
      · exact hnode hb h
      · exact absurd h (Nat.not_lt_zero _)
    | attr n slot =>
      rcases h with h | ⟨rfl : m = n, hi⟩
      · exact hnode hb h
      · exact .slots (Nat.lt_of_succ_lt_succ hi)

/-- On the items of a document, document order is the order of places. -/
theorem precedes_iff_before (hb : b.IsOf doc) : a.Precedes doc b ↔ a.Before b :=
  ⟨Precedes.before, fun h => h.precedes hb⟩

end Item

/-! ## All expressions -/

namespace Fragment

/-- The fragment of all expressions. -/
def all : Fragment := ⟨true, fun _ _ => true, fun _ _ => false⟩

mutual

theorem all_has : ∀ expr : Expr, all.has expr = true
  | .operation _ left right => by rw [has, all_has left, all_has right]; rfl
  | .union branches => by rw [has, all_hasAll branches]
  | .path absolute steps => by rw [has, all_hasSteps steps]; rfl
  | .filter base predicates steps => by
    rw [has, all_has base, all_hasAll predicates, all_hasSteps steps]; rfl
  | .literal _ | .number _ => rfl
  | .call _ arguments => by rw [has, all_hasAll arguments]

theorem all_hasAll : ∀ exprs : List Expr, all.hasAll exprs = true
  | [] => rfl
  | expr :: rest => by rw [hasAll, all_has expr, all_hasAll rest]; rfl

theorem all_hasSteps : ∀ steps : List (Step Expr), all.hasSteps steps = true
  | [] => rfl
  | ⟨axis, test, predicates⟩ :: rest => by
    rw [hasSteps, all_hasAll predicates, all_hasSteps rest]; rfl

end

end Fragment

/-! ## The items of an expression are items of the document -/

section Closure

variable (doc : Document)

/-- Every node of a document corresponds to itself. -/
def Correspondence.itself : Correspondence doc doc where
  rel n n' := n = n' ∧ n < doc.size
  lt_iff := by rintro a _ b _ ⟨rfl, -⟩ ⟨rfl, -⟩; rfl
  label?_eq := by rintro a _ ⟨rfl, -⟩; rfl
  stringValue_eq := by rintro a _ ⟨rfl, -⟩; rfl

variable {doc}

theorem Item.IsOf.onItem {a : Item} (h : a.IsOf doc) :
    (Correspondence.itself doc).OnItem a a := by
  cases a with
  | node n => exact .node ⟨rfl, h⟩
  | attr n slot => exact .attr ⟨rfl, h.1⟩ h.2

theorem Item.isOf_of_onItem {a b : Item} (h : (Correspondence.itself doc).OnItem a b) :
    a = b ∧ a.IsOf doc := by
  cases h with
  | node h => exact ⟨by rw [h.1], h.2⟩
  | attr h hslot => exact ⟨by rw [h.1], h.2, hslot⟩

theorem Item.onAxis_isOf (axis : Axis) {a : Item} (h : a.IsOf doc) :
    ∀ b ∈ a.onAxis doc axis, b.IsOf doc := by
  have hnodes : ∀ {nodes : List Nat}, (∀ n ∈ nodes, n < doc.size) →
      ∀ b ∈ nodes.map Item.node, b.IsOf doc := by
    intro nodes hn b hb
    obtain ⟨n, hmem, rfl⟩ := List.mem_map.mp hb
    exact hn n hmem
  have hinside : ∀ {n m : Nat}, m ∈ doc.descendants n → m < doc.size := fun hm =>
    (Document.mem_descendants_iff.mp hm).lt_size
  have habove : ∀ {n m : Nat}, n < doc.size → m ∈ doc.ancestors n → m < doc.size :=
    fun hn hm => Nat.lt_trans (Document.mem_ancestors_iff.mp hm).bounds.1 hn
  have hself : ∀ {n : Nat} {nodes : List Nat}, n < doc.size → (∀ m ∈ nodes, m < doc.size) →
      ∀ m ∈ n :: nodes, m < doc.size := fun hn hm => List.forall_mem_cons.mpr ⟨hn, hm⟩
  cases a with
  | node n =>
    cases axis with
    | child => exact hnodes fun m hm => doc.child_lt_size hm
    | descendant => exact hnodes fun m hm => hinside hm
    | descendantOrSelf => exact hnodes (hself h fun m hm => hinside hm)
    | parent =>
      refine hnodes fun m hm => ?_
      exact doc.lt_size_of_mem_children
        (doc.parent?_eq_some_iff.mp (Option.mem_toList.mp hm))
    | ancestor => exact hnodes fun m hm => habove h hm
    | ancestorOrSelf => exact hnodes (hself h fun m hm => habove h hm)
    | itself => exact List.forall_mem_singleton.mpr h
    | followingSibling =>
      exact hnodes fun m hm => Document.lt_size_of_mem_siblings (List.mem_of_mem_filter hm)
    | precedingSibling =>
      refine hnodes fun m hm => ?_
      exact Document.lt_size_of_mem_siblings (List.mem_of_mem_filter (List.mem_reverse.mp hm))
    | attributes =>
      intro b hb
      obtain ⟨slot, hslot, rfl⟩ := List.mem_map.mp hb
      exact ⟨h, List.mem_range.mp hslot⟩
  | attr n slot =>
    cases axis with
    | itself => exact List.forall_mem_singleton.mpr h
    | parent => exact List.forall_mem_singleton.mpr h.1
    | ancestor => exact hnodes (hself h.1 fun m hm => habove h.1 hm)
    | ancestorOrSelf =>
      exact List.forall_mem_cons.mpr ⟨h, hnodes (hself h.1 fun m hm => habove h.1 hm)⟩
    | child | descendant | descendantOrSelf | followingSibling | precedingSibling
    | attributes => exact fun b hb => absurd hb List.not_mem_nil

/-- Steps lead from items of a document to items of it. -/
theorem Correspondence.itself_carries (doc : Document) :
    (Correspondence.itself doc).Carries .all where
  root _ := ⟨rfl, by rw [doc.size_eq]; omega⟩
  candidates := by
    intro axis test a a' _ h
    obtain ⟨rfl, ha⟩ := Item.isOf_of_onItem h
    refine forall₂_candidates ?_ (forall₂_impliedRows ?_ axis test h)
    · exact List.forall₂_same.mpr fun b hb => (Item.onAxis_isOf axis ha b hb).onItem
    · rintro n _ ⟨rfl, -⟩
      exact List.forall₂_same.mpr fun m hm => ⟨rfl, doc.child_lt_size hm⟩
  inside h := by cases h

/-- An expression gives only items of the document. -/
theorem isOf_of_mem_evaluate (expr : Expr) {focus : Focus} (h : focus.item.IsOf doc) :
    ∀ a ∈ (evaluate doc expr focus).toItems, a.IsOf doc := by
  intro a ha
  have hfocus : (Correspondence.itself doc).OnFocus focus focus := ⟨h.onItem, rfl, rfl⟩
  have hv := Correspondence.onValue_evaluate (Correspondence.itself_carries doc) expr
    (Fragment.all_has expr) hfocus
  obtain ⟨b, -, hab⟩ := Correspondence.exists_partner hv.toItems a ha
  exact (Item.isOf_of_onItem hab).2

/-- An expression gives items of the document. -/
theorem has_of_mem_valueAt (expr : Expr) {context : Nat} (h : context < doc.size) :
    ∀ a ∈ (valueAt doc expr context).toItems, a.IsOf doc := by
  have hfocus : (⟨.node context, 1, 1⟩ : Focus).item.IsOf doc := h
  exact isOf_of_mem_evaluate expr hfocus

end Closure

/-! ## Results in document order -/

/-- **Whatever an expression is made of**, the items that it gives at a node of a document
are items of the document, strictly increasing in document order, hence each once. Its
nodes are listed in this order, and its texts are those of the items one by one. -/
theorem valueAt_in_document_order (doc : Document) (expr : Expr) {context : Nat}
    (h : context < doc.size) :
    (∀ a ∈ (valueAt doc expr context).toItems, a.IsOf doc) ∧
    (valueAt doc expr context).toItems.Pairwise (Item.Precedes doc) ∧
    (valueAt doc expr context).toItems.Nodup ∧
    (selectNodes doc expr context).Pairwise
      (fun m n => Item.Precedes doc (.node m) (.node n)) ∧
    (selectNodes doc expr context).Nodup ∧
    ∀ items, valueAt doc expr context = .items items →
      selectStrings doc expr context = items.map (Item.stringValue doc) := by
  have hof := has_of_mem_valueAt expr h
  have hsorted : (valueAt doc expr context).toItems.Pairwise Item.Before :=
    pairwise_evaluate doc expr _
  have hitems := hsorted.imp_of_mem fun _ hb hab => hab.precedes (hof _ hb)
  have hnodes : (selectNodes doc expr context).Pairwise
      (fun m n => Item.Precedes doc (.node m) (.node n)) := by
    refine hitems.filterMap _ fun a b hab m hm n hn => ?_
    cases a <;> cases b <;> simp_all
  refine ⟨hof, hitems, hsorted.imp ?_, hnodes, hnodes.imp ?_, ?_⟩
  · rintro a _ hab rfl
    exact hab.irrefl
  · rintro m _ hmn rfl
    exact hmn.before.irrefl
  · intro items hv
    rw [selectStrings, hv, Value.texts]

theorem valueAt_in_document_order_union :
    1 < (Document.ofMarkup [.element "p" [⟨"class", "x"⟩] [.text "a", .comment "b"]]).size ∧
    (valueAt (Document.ofMarkup [.element "p" [⟨"class", "x"⟩] [.text "a", .comment "b"]])
      (.union [.path false [⟨.descendant, .node, []⟩], .path false [⟨.attributes, .any, []⟩],
        .path false [⟨.ancestorOrSelf, .node, []⟩]]) 1).toItems.Pairwise
      (Item.Precedes
        (Document.ofMarkup [.element "p" [⟨"class", "x"⟩] [.text "a", .comment "b"]])) :=
  ⟨by decide, (valueAt_in_document_order _ _ (by decide)).2.1⟩

end Almanac.Selector
