import Almanac.Proofs.Document.Tree
import Almanac.Proofs.Selector.Correspondence

/-!
# What a downward expression depends on

An expression is downward when its paths begin at the item at hand and go only to
attributes and into nodes. What it gives at a node depends only on the tree under the
node: at the roots of equal trees, wherever these stand in their documents, it gives
the same texts, and all that it finds is in the tree (`selectStrings_of_downward`).
Equal trees take up intervals of one length in the tables of their documents, so that
their nodes correspond by a shift, which keeps the order.
-/

namespace Almanac

namespace Document

/-! ## Equal trees -/

/-- Two nodes have the same tree: they are labelled alike, have as many children, and
their children in one place have the same tree. -/
inductive SameTree (doc doc' : Document) : Nat → Nat → Prop
  | node {n n' : Nat} : doc.label? n = doc'.label? n' →
      (doc.children n).length = (doc'.children n').length →
      (∀ (i c c' : Nat), (doc.children n)[i]? = some c → (doc'.children n')[i]? = some c' →
        SameTree doc doc' c c') → SameTree doc doc' n n'

variable {doc doc' : Document} {n n' : Nat}

theorem SameTree.label?_eq (h : doc.SameTree doc' n n') : doc.label? n = doc'.label? n' := by
  cases h with
  | node hl _ _ => exact hl

theorem SameTree.refl (doc : Document) (n : Nat) : doc.SameTree doc n n := by
  refine .node rfl rfl fun i c c' hi hi' => ?_
  obtain rfl : c = c' := Option.some.inj (hi.symm.trans hi')
  have hc : c ∈ doc.children n := List.mem_of_getElem? hi
  -- children have higher numbers, so that this ends with the document
  have hlt : n < c := (doc.bounds_of_mem_children hc).1
  have hsize : c < doc.size := doc.child_lt_size hc
  exact SameTree.refl doc c
termination_by doc.size - n

mutual

/-- One piece of markup makes the same tree wherever it stands. -/
theorem HasPiece.sameTree {parent parent' n n' : Nat} :
    ∀ {piece : Markup}, doc.HasPiece parent n piece → doc'.HasPiece parent' n' piece →
      doc.SameTree doc' n n'
  | .element _ _ content, h, h' => by
    have hc := h.hasContent.children
    have hc' := h'.hasContent.children
    refine .node (h.label?.trans h'.label?.symm) ?_ fun i c c' hi hi' => ?_
    · rw [hc, hc', Entry.length_numbers, Entry.length_numbers]
    · rw [hc] at hi
      rw [hc'] at hi'
      exact h.2.sameTree h'.2 i c c' hi hi'
  | .text _, h, h' | .comment _, h, h' | .doctype _, h, h' => by
    have hc := h.hasContent.children
    refine .node (h.label?.trans h'.label?.symm) ?_ fun i c c' hi => ?_
    · rw [hc, h'.hasContent.children]
      rfl
    · rw [hc] at hi
      cases hi

theorem HasPieces.sameTree {parent parent' : Nat} :
    ∀ {pieces : List Markup} {start start' : Nat}, doc.HasPieces parent start pieces →
      doc'.HasPieces parent' start' pieces → ∀ i c c' : Nat,
      (Entry.numbers start pieces)[i]? = some c → (Entry.numbers start' pieces)[i]? = some c' →
      doc.SameTree doc' c c'
  | [], _, _, _, _, _, _, _, hi, _ => by cases hi
  | piece :: rest, _, _, h, h', 0, _, _, rfl, rfl => h.1.sameTree h'.1
  | piece :: rest, _, _, h, h', i + 1, c, c', hi, hi' => h.2.sameTree h'.2 i c c' hi hi'

end

/-- Tilings by as many nodes, each as long as its partner, are a shift of one another. -/
theorem Tiles.shift : ∀ {nodes nodes' : List Nat} {start stop start' stop' : Nat},
    doc.Tiles start nodes stop → doc'.Tiles start' nodes' stop' →
    nodes.length = nodes'.length →
    (∀ (i c c' : Nat), nodes[i]? = some c → nodes'[i]? = some c' →
      doc.last c + c' = doc'.last c' + c) →
    stop + start' = stop' + start ∧
      List.Forall₂ (fun c c' => c + start' = c' + start) nodes nodes'
  | [], [], start, stop, start', stop', h, h', _, _ => by
    simp only [Tiles] at h h'
    exact ⟨by omega, .nil⟩
  | c :: rest, c' :: rest', start, stop, start', stop', h, h', hlen, hlast => by
    obtain ⟨rfl, hc, hrest⟩ := h
    obtain ⟨rfl, hc', hrest'⟩ := h'
    have hhead := hlast 0 c c' rfl rfl
    obtain ⟨hstop, hshift⟩ := hrest.shift hrest' (Nat.succ.inj hlen)
      fun i d d' hd hd' => hlast (i + 1) d d' hd hd'
    refine ⟨by omega, .cons (by omega) (hshift.imp fun d d' hd => by omega)⟩

/-- Equal trees take up intervals of one length, and their children are a shift of one
another. -/
theorem SameTree.shift (h : doc.SameTree doc' n n') :
    doc.last n + n' = doc'.last n' + n ∧
      List.Forall₂ (fun c c' => c + n' = c' + n) (doc.children n) (doc'.children n') := by
  induction h with
  | @node n n' _ hlen _ ih =>
    obtain ⟨hlast, hshift⟩ := (doc.tiles_children n).shift (doc'.tiles_children n') hlen
      fun i c c' hc hc' => (ih i c c' hc hc').1
    exact ⟨by omega, hshift.imp fun c c' hc => by omega⟩

/-- The node `m'` has the place in the tree under `n'` that `m` has in the tree under `n`. -/
def InPlace (doc : Document) (n n' m m' : Nat) : Prop := doc.AtOrWithin n m ∧ m + n' = m' + n

theorem InPlace.refl (n n' : Nat) : doc.InPlace n n' n n' := ⟨.inl rfl, Nat.add_comm n n'⟩

theorem InPlace.trans {m m' k k' : Nat} (h : doc.InPlace n n' m m')
    (hk : doc.InPlace m m' k k') : doc.InPlace n n' k k' := by
  obtain ⟨hm, hshift⟩ := h
  obtain ⟨hk, hshift'⟩ := hk
  rw [atOrWithin_iff] at hm hk
  have hlast : doc.last m ≤ doc.last n := by
    rcases Nat.eq_or_lt_of_le hm.1 with rfl | hlt
    · exact Nat.le_refl _
    · exact (within_iff.mpr ⟨hlt, hm.2⟩).bounds.2
  exact ⟨atOrWithin_iff.mpr ⟨by omega, by omega⟩, by omega⟩

/-- Nodes in one place of equal trees have the same tree. -/
theorem SameTree.at (h : doc.SameTree doc' n n') {m m' : Nat} (hm : doc.InPlace n n' m m') :
    doc.SameTree doc' m m' := by
  obtain ⟨hin, hshift⟩ := hm
  obtain ⟨hle, hm⟩ := atOrWithin_iff.mp hin
  clear hin
  induction h with
  | @node n n' hl hlen hc ih =>
    rcases Nat.eq_or_lt_of_le hle with rfl | hlt
    · obtain rfl : m' = n' := by omega
      exact .node hl hlen hc
    · -- down through the child that holds `m`
      obtain ⟨c, hmem, hcm, hmc⟩ := doc.exists_child hlt hm
      obtain ⟨i, hi⟩ := List.mem_iff_getElem?.mp hmem
      obtain ⟨hi', rfl⟩ := List.getElem?_eq_some_iff.mp hi
      have hcc := (SameTree.node hl hlen hc).shift.2.get hi' (hlen ▸ hi')
      simp only [List.get_eq_getElem] at hcc
      exact ih i _ _ hi (List.getElem?_eq_getElem (hlen ▸ hi')) (by omega) hcm hmc

theorem SameTree.children_inPlace (h : doc.SameTree doc' n n') :
    List.Forall₂ (doc.InPlace n n') (doc.children n) (doc'.children n') := by
  obtain ⟨hlen, hget⟩ := List.forall₂_iff_get.mp h.shift.2
  refine List.forall₂_iff_get.mpr ⟨hlen, fun i hi hi' => ⟨?_, hget i hi hi'⟩⟩
  exact .inr (.child (List.get_mem _ _))

theorem SameTree.descendants_inPlace (h : doc.SameTree doc' n n') :
    List.Forall₂ (doc.InPlace n n') (doc.descendants n) (doc'.descendants n') := by
  have hlast := h.shift.1
  have hle := doc.le_last n
  have hle' := doc'.le_last n'
  have hlen : doc'.last n' - n' = doc.last n - n := by omega
  rw [descendants, descendants, hlen]
  refine List.forall₂_iff_get.mpr ⟨by simp, fun i hi hi' => ?_⟩
  simp only [List.get_eq_getElem, List.getElem_range', List.length_range'] at hi ⊢
  exact ⟨atOrWithin_iff.mpr ⟨by omega, by omega⟩, by omega⟩

/-- Equal trees have the same text. -/
theorem SameTree.stringValue_eq (h : doc.SameTree doc' n n') :
    doc.stringValue n = doc'.stringValue n' := by
  have htext : ∀ m m', doc.InPlace n n' m m' → doc.text? m = doc'.text? m' := by
    intro m m' hm
    rw [text?, text?, (h.at hm).label?_eq]
  rw [stringValue, stringValue,
    Selector.Correspondence.filterMap_eq_of_forall₂ htext (.cons (.refl n n') h.descendants_inPlace)]

end Document

namespace Selector

/-! ## Downward expressions -/

/-- **The downward expressions**: their paths begin at the item at hand, and their steps
lead to attributes, to the node itself and into it. -/
def Fragment.downward : Fragment where
  absolute := false
  allows axis _ :=
    axis ∈ [.child, .descendant, .descendantOrSelf, .itself, .attributes]
  inside _ _ := false

section Shift

variable {doc doc' : Document} {r r' : Nat} (h : doc.SameTree doc' r r')

/-- The nodes of a tree correspond to those in the same places of an equal tree. -/
def Correspondence.shift : Correspondence doc doc' where
  rel := doc.InPlace r r'
  lt_iff := by
    rintro a a' b b' ⟨-, ha⟩ ⟨-, hb⟩
    omega
  label?_eq hn := (h.at hn).label?_eq
  stringValue_eq hn := (h.at hn).stringValue_eq

theorem Correspondence.shift_carries : (Correspondence.shift h).Carries .downward where
  root h := by cases h
  inside h := by cases h
  candidates := by
    intro axis test a a' haxis ha
    have hchildren : ∀ {n n'}, doc.InPlace r r' n n' →
        List.Forall₂ (doc.InPlace r r') (doc.children n) (doc'.children n') :=
      fun hn => (h.at hn).children_inPlace.imp fun _ _ hc => hn.trans hc
    have hdescendants : ∀ {n n'}, doc.InPlace r r' n n' →
        List.Forall₂ (doc.InPlace r r') (doc.descendants n) (doc'.descendants n') :=
      fun hn => (h.at hn).descendants_inPlace.imp fun _ _ hc => hn.trans hc
    refine forall₂_candidates ?_ (forall₂_impliedRows hchildren axis test ha)
    cases ha with
    | node hn =>
      cases axis with
      | child => exact forall₂_map_node (hchildren hn)
      | descendant => exact forall₂_map_node (hdescendants hn)
      | descendantOrSelf => exact forall₂_map_node (.cons hn (hdescendants hn))
      | itself => exact .cons (.node hn) .nil
      | attributes => exact forall₂_attributesOf hn
      | parent | ancestor | ancestorOrSelf | followingSibling | precedingSibling => cases haxis
    | attr hn hslot =>
      cases axis with
      | itself => exact .cons (.attr hn hslot) .nil
      | child | descendant | descendantOrSelf | attributes => exact .nil
      | parent | ancestor | ancestorOrSelf | followingSibling | precedingSibling => cases haxis

end Shift

/-- **A downward expression sees only the tree** under the node that it is evaluated at:
at nodes with the same tree, in whatever documents, it gives the same texts, and all items
and nodes that it finds are in the tree. -/
theorem selectStrings_of_downward {expr : Expr} (hexpr : Fragment.downward.has expr = true)
    {doc doc' : Document} {r r' : Nat} (h : doc.SameTree doc' r r') :
    selectStrings doc expr r = selectStrings doc' expr r' ∧
    (∀ n ∈ selectNodes doc expr r, doc.AtOrWithin r n) ∧
    ∀ a ∈ (valueAt doc expr r).toItems, doc.AtOrWithin r a.place.1 := by
  have hv := Correspondence.onValue_valueAt (Correspondence.shift_carries h) hexpr
    (Document.InPlace.refl r r')
  have hitems : ∀ a ∈ (valueAt doc expr r).toItems, doc.AtOrWithin r a.place.1 := by
    intro a ha
    obtain ⟨b, -, hab⟩ := Correspondence.exists_partner hv.toItems a ha
    cases hab with
    | node hn | attr hn _ => exact hn.1
  refine ⟨hv.texts_eq, fun n hn => ?_, hitems⟩
  obtain ⟨a, ha, hna⟩ := List.mem_filterMap.mp hn
  cases a with
  | node m =>
    obtain rfl : m = n := by simpa using hna
    exact hitems _ ha
  | attr m slot => cases hna

theorem selectStrings_of_downward_paragraph :
    Fragment.downward.has (.path false [⟨.descendant, .text, []⟩]) = true ∧
    (Document.ofMarkup [.element "p" [] [.text "a"]]).SameTree
      (Document.ofMarkup [.element "div" [] [.text "b", .element "p" [] [.text "a"]]]) 1 3 ∧
    selectStrings (Document.ofMarkup [.element "p" [] [.text "a"]])
        (.path false [⟨.descendant, .text, []⟩]) 1 =
      selectStrings (Document.ofMarkup [.element "div" [] [.text "b", .element "p" [] [.text "a"]]])
        (.path false [⟨.descendant, .text, []⟩]) 3 := by
  have h := (Document.hasPieces_content (.ofMarkup [.element "p" [] [.text "a"]])).1
  have h' := (Document.hasPieces_content
    (.ofMarkup [.element "div" [] [.text "b", .element "p" [] [.text "a"]]])).1.2.2.1
  exact ⟨rfl, h.sameTree h', (selectStrings_of_downward rfl (h.sameTree h')).1⟩

end Selector

end Almanac
