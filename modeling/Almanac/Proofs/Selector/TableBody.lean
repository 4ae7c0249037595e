import Almanac.Proofs.Document.Bodies
import Almanac.Proofs.Selector.Correspondence

/-!
# Tables whose body is left out

A step from a table to its rows reaches the rows in the bodies of the table as well.
So an expression that goes down by names and names no body does not see the bodies
which the reading of a page puts around bare rows: at a node of the bare page and at
its counterpart in the full page it gives the same texts (`selectStrings_of_bodies`).
The counterparts make a correspondence that carries such expressions: a body which the
bare page leaves out passes no test, and what a double slash reaches through it, the
step reaches from the table as well.
-/

namespace Almanac.Selector

open Almanac.Text Marked

/-! ## Expressions that name no body -/

/-- Whether a node test asks for a name other than that of a table body. -/
def NodeTest.namesNoBody : NodeTest → Bool
  | .name asked => !equalLatin asked "tbody"
  | _ => false

theorem NodeTest.exists_name {test : NodeTest} (h : test.namesNoBody = true) :
    ∃ name, test = .name name ∧ equalLatin name "tbody" = false := by
  cases test with
  | name asked => exact ⟨asked, rfl, (Bool.not_eq_true' _).mp h⟩
  | any | text | node => cases h

/-- Whether a node test is one for attributes, by name or for any of them. -/
def NodeTest.isForAttributes : NodeTest → Bool
  | .name _ | .any => true
  | _ => false

/-- **The expressions that name no body**: their steps go down by names, to attributes or
to the node itself, and a double slash is only right before a child or attribute step. -/
def Fragment.bodiless : Fragment where
  absolute := true
  allows axis test :=
    match axis with
    | .child | .descendant | .descendantOrSelf => test.namesNoBody
    | .itself => test.namesNoBody || test = .node
    | .attributes => test.isForAttributes
    | _ => false
  inside axis test :=
    match axis with
    | .child => test.namesNoBody
    | .attributes => test.isForAttributes
    | _ => false

/-! ## Tags -/

theorem table_ne_tbody : equalLatin "table" "tbody" = false := by decide

theorem tr_ne_tbody : equalLatin "tr" "tbody" = false := by decide

namespace Correspondence

open Document

variable {doc doc' : Document} {C : Correspondence doc doc'} {n n' t : Nat} {name : String}

/-! ## Steps by name -/

theorem filter_passes (axis : Axis) (nodes : List Nat) :
    (nodes.map Item.node).filter (Item.passes doc axis (.name name)) =
      (nodes.filter (doc.hasTag · name)).map .node := by
  rw [List.filter_map]
  rfl

theorem candidates_eq {axis : Axis} {test : NodeTest} {a : Item}
    (h : a.impliedRows doc axis test = []) :
    a.candidates doc axis test = (a.onAxis doc axis).filter (Item.passes doc axis test) := by
  simp only [Item.candidates, h]

/-- A node without bodies right inside it has only its own rows. -/
theorem candidates_child (h : ∀ c ∈ doc.children n, doc.hasTag c "tbody" = false) :
    (Item.node n).candidates doc .child (.name name) =
      ((doc.children n).filter (doc.hasTag · name)).map .node := by
  rw [candidates_eq, Item.onAxis, filter_passes]
  have hbodies : (doc.children n).filter (doc.hasTag · "tbody") = [] := by
    rw [List.filter_eq_nil_iff]
    exact fun c hc => by rw [h c hc]; decide
  rw [Item.impliedRows, hbodies]
  split <;> rfl

/-- A node that is no table has only its own children. -/
theorem candidates_child_of_not_table (h : doc.hasTag n "table" = false) :
    (Item.node n).candidates doc .child (.name name) =
      ((doc.children n).filter (doc.hasTag · name)).map .node := by
  rw [candidates_eq, Item.onAxis, filter_passes]
  rw [Item.impliedRows, h, Bool.and_false, if_neg Bool.false_ne_true]

theorem candidates_doubleSlash (doc : Document) (n : Nat) :
    (Item.node n).candidates doc .descendantOrSelf .node =
      (n :: doc.descendants n).map .node := by
  rw [candidates_eq (impliedRows_of_ne_child (by decide) _ _), Item.onAxis,
    List.filter_eq_self]
  intro a ha
  obtain ⟨m, -, rfl⟩ := List.mem_map.mp ha
  rfl

/-! ## Bodies that are left out -/

theorem label?_of_isBody {rel : Nat → Nat → Prop} (h : IsBody doc doc' rel t) :
    doc'.label? t = some (.element "tbody" []) := by
  obtain ⟨_, _, -, htwin⟩ := h
  exact htwin.body

theorem hasTag_of_isBody (hname : equalLatin name "tbody" = false)
    (h : IsBody doc doc' C.rel t) : doc'.hasTag t name = false := by
  rw [hasTag_of_label? (label?_of_isBody h), hname]

/-- Nodes with a name correspond when the nodes do, but for bodies. -/
theorem forall₂_named {nodes part nodes' : List Nat} (axis : Axis)
    (hname : equalLatin name "tbody" = false) (h : List.Forall₂ C.rel nodes part)
    (hpart : Thinned (IsBody doc doc' C.rel) part nodes') :
    List.Forall₂ C.OnItem ((nodes.map Item.node).filter (Item.passes doc axis (.name name)))
      ((nodes'.map Item.node).filter (Item.passes doc' axis (.name name))) := by
  rw [filter_passes, filter_passes, hpart.filter_eq fun _ ht => hasTag_of_isBody hname ht]
  exact forall₂_map_node
    ((forall₂_filter h fun _ _ hrel => hasTag_eq hrel name).imp fun _ _ h => h.2)

/-- What is named among the children of a table without a body and of its twin: either
rows, which the twin has in the body, or no rows. -/
theorem named_of_twin (h : TableTwin doc doc' C.rel n n' t)
    (hname : equalLatin name "tbody" = false) :
    ∃ before rows after before' after',
      (doc.children n).filter (doc.hasTag · name) = before ++ (rows ++ after) ∧
      (doc'.children n').filter (doc'.hasTag · name) = before' ++ after' ∧
      List.Forall₂ C.rel before before' ∧
      List.Forall₂ C.rel rows ((doc'.children t).filter (doc'.hasTag · name)) ∧
      List.Forall₂ C.rel after after' ∧
      (equalLatin name "tr" = true → before = [] ∧ after = []) ∧
      (equalLatin name "tr" = false → rows = []) := by
  obtain ⟨before, rows, after, before', after', hc, hc', hb, hr, ha, hside, hrow⟩ := h.children
  have hfilter : ∀ {nodes nodes' : List Nat}, List.Forall₂ C.rel nodes nodes' →
      List.Forall₂ C.rel (nodes.filter (doc.hasTag · name))
        (nodes'.filter (doc'.hasTag · name)) := fun h =>
    (forall₂_filter h fun _ _ hrel => hasTag_eq hrel name).imp fun _ _ h => h.2
  have hnone : equalLatin name "tr" = true → ∀ c ∈ before ++ after,
      ¬ doc.hasTag c name = true := fun htr c hmem => by
    rw [hasTag_congr htr, (hside c hmem).2]
    exact Bool.false_ne_true
  refine ⟨_, _, _, _, _, ?_, ?_, hfilter hb, hfilter hr, hfilter ha, fun htr => ⟨?_, ?_⟩,
    fun htr => ?_⟩
  · rw [hc, List.filter_append, List.filter_append]
  · rw [hc', List.filter_append, List.filter_cons, hasTag_of_label? h.body, hname,
      if_neg Bool.false_ne_true]
  · exact List.filter_eq_nil_iff.mpr fun c hmem => hnone htr c (List.mem_append_left _ hmem)
  · exact List.filter_eq_nil_iff.mpr fun c hmem => hnone htr c (List.mem_append_right _ hmem)
  · refine List.filter_eq_nil_iff.mpr fun c hmem => ?_
    rw [Bool.not_eq_true]
    rcases hrow c hmem with hc | hc
    · refine hasTag_eq_false hc ?_
      rwa [equalLatin, beq_eq_false_iff_ne, ne_comm, ← beq_eq_false_iff_ne]
    · rw [Document.hasTag, hc]
      rfl

/-- The inserted body is the one body of the twin of a table without a body. -/
theorem bodies_of_twin (h : TableTwin doc doc' C.rel n n' t) :
    (∀ c ∈ doc.children n, doc.hasTag c "tbody" = false) ∧
      (doc'.children n').filter (doc'.hasTag · "tbody") = [t] := by
  obtain ⟨before, rows, after, before', after', hc, hc', hb, -, ha, hside, hrow⟩ := h.children
  have hnone : ∀ {nodes nodes' : List Nat}, List.Forall₂ C.rel nodes nodes' →
      (∀ c ∈ nodes, doc.hasTag c "tbody" = false) →
      nodes'.filter (doc'.hasTag · "tbody") = [] := by
    intro nodes nodes' hrel hno
    refine List.filter_eq_nil_iff.mpr fun c' hc' => ?_
    obtain ⟨c, hmem, hcc⟩ := exists_partner_left hrel c' hc'
    rw [← hasTag_eq hcc, hno c hmem]
    exact Bool.false_ne_true
  constructor
  · rw [hc]
    intro c hmem
    rcases List.mem_append.mp hmem with hmem | hmem
    · exact (hside c (List.mem_append_left _ hmem)).1
    · rcases List.mem_append.mp hmem with hmem | hmem
      · rcases hrow c hmem with hc | hc
        · exact hasTag_eq_false hc tr_ne_tbody
        · rw [Document.hasTag, hc]
          rfl
      · exact (hside c (List.mem_append_right _ hmem)).1
  · rw [hc', List.filter_append, List.filter_cons, hasTag_of_label? h.body,
      hnone hb fun c hmem => (hside c (List.mem_append_left _ hmem)).1,
      hnone ha fun c hmem => (hside c (List.mem_append_right _ hmem)).1]
    rfl

theorem pairwise_map_node {nodes : List Nat} (h : nodes.Pairwise (· < ·)) :
    (nodes.map Item.node).Pairwise Item.Before :=
  List.pairwise_map.mpr (h.imp fun hlt => .inl hlt)

/-- A step from the twin to its rows leads to those in the body. -/
theorem candidates_of_twin (h : TableTwin doc doc' C.rel n n' t) (hn : C.rel n n')
    (htr : equalLatin name "tr" = true)
    (hdirect : (doc'.children n').filter (doc'.hasTag · name) = []) :
    (Item.node n').candidates doc' .child (.name name) =
      ((doc'.children t).filter (doc'.hasTag · name)).map .node := by
  have hrows : (Item.node n').impliedRows doc' .child (.name name) =
      ((doc'.children t).filter (doc'.hasTag · name)).map .node := by
    rw [Item.impliedRows, (bodies_of_twin h).2, ← hasTag_eq hn, h.isTable, NodeTest.isName, htr]
    simp only [hasTag_congr htr, List.flatMap_singleton, decide_true, Bool.and_self, if_true]
  have hsorted : ((doc'.children t).filter (doc'.hasTag · name)).Pairwise (· < ·) :=
    .filter _ ((doc'.pairwise_children t).imp fun hlt => Nat.lt_of_le_of_lt (doc'.le_last _) hlt)
  rw [Item.candidates, Item.onAxis, filter_passes, hdirect, hrows, List.map_nil]
  split
  · next hnil => rw [hnil]
  · exact Item.inDocumentOrder_eq_self (pairwise_map_node hsorted)

/-- Steps by name to the children of a table without a body and of its twin. -/
theorem forall₂_candidates_twin (h : TableTwin doc doc' C.rel n n' t) (hn : C.rel n n')
    (hname : equalLatin name "tbody" = false) :
    List.Forall₂ C.OnItem ((Item.node n).candidates doc .child (.name name))
      ((Item.node n').candidates doc' .child (.name name)) := by
  obtain ⟨before, rows, after, before', after', hc, hc', hb, hr, ha, htr, hntr⟩ :=
    named_of_twin h hname
  rw [candidates_child (bodies_of_twin h).1, hc]
  cases hcase : equalLatin name "tr" with
  | true =>
    obtain ⟨rfl, rfl⟩ := htr hcase
    cases hb
    cases ha
    rw [candidates_of_twin h hn hcase hc', List.nil_append, List.append_nil]
    exact forall₂_map_node hr
  | false =>
    obtain rfl := hntr hcase
    rw [candidates_eq, Item.onAxis, filter_passes, hc']
    · exact forall₂_map_node (List.rel_append hb ha)
    · rw [Item.impliedRows, NodeTest.isName, hcase, Bool.and_false, Bool.false_and,
        if_neg Bool.false_ne_true]

/-- What a step by name leads to from a body that is left out, it leads to from the table
as well. -/
theorem candidates_of_body (h : TableTwin doc doc' C.rel n n' t)
    (hname : equalLatin name "tbody" = false) :
    (Item.node t).candidates doc' .child (.name name) = [] ∨
      List.Forall₂ C.OnItem ((Item.node n).candidates doc .child (.name name))
        ((Item.node t).candidates doc' .child (.name name)) := by
  obtain ⟨before, rows, after, before', after', hc, -, -, hr, -, htr, hntr⟩ :=
    named_of_twin h hname
  rw [candidates_child_of_not_table (n := t) (by rw [hasTag_of_label? h.body, table_ne_tbody]),
    candidates_child (bodies_of_twin h).1, hc]
  cases hcase : equalLatin name "tr" with
  | true =>
    obtain ⟨rfl, rfl⟩ := htr hcase
    rw [List.nil_append, List.append_nil]
    exact .inr (forall₂_map_node hr)
  | false =>
    obtain rfl := hntr hcase
    left
    rw [List.forall₂_nil_left_iff.mp hr]
    rfl

/-! ## The correspondence of counterparts -/

section Carries

variable (hlocal : ∀ {n n'}, C.rel n n' → Local doc doc' C.rel n n')
include hlocal

/-- Steps by name to children of corresponding nodes. -/
theorem forall₂_candidates_child (hn : C.rel n n') (hname : equalLatin name "tbody" = false) :
    List.Forall₂ C.OnItem ((Item.node n).candidates doc .child (.name name))
      ((Item.node n').candidates doc' .child (.name name)) := by
  rcases (hlocal hn).children with hchildren | ⟨t, htwin⟩
  · refine forall₂_candidates (forall₂_map_node hchildren)
      (forall₂_impliedRows_node _ _ hn hchildren fun b b' hb hbody => ?_)
    -- a body is no table, so that its own children correspond one by one
    refine (hlocal hb).children.resolve_right ?_
    rintro ⟨t, htwin⟩
    rw [hasTag_eq_false htwin.isTable table_ne_tbody] at hbody
    cases hbody
  · exact forall₂_candidates_twin htwin hn hname

/-- Steps by name into corresponding nodes. -/
theorem forall₂_candidates_inside (hn : C.rel n n') (hname : equalLatin name "tbody" = false) :
    List.Forall₂ C.OnItem ((Item.node n).candidates doc .descendant (.name name))
        ((Item.node n').candidates doc' .descendant (.name name)) ∧
      List.Forall₂ C.OnItem ((Item.node n).candidates doc .descendantOrSelf (.name name))
        ((Item.node n').candidates doc' .descendantOrSelf (.name name)) := by
  obtain ⟨part, hrel, hpart⟩ := (hlocal hn).inside
  have hnone : ∀ (doc : Document) {axis : Axis}, axis ≠ .child → ∀ n,
      (Item.node n).impliedRows doc axis (.name name) = [] :=
    fun _ _ haxis _ => impliedRows_of_ne_child haxis _ _
  constructor
  · rw [candidates_eq (hnone doc (by decide) n), candidates_eq (hnone doc' (by decide) n')]
    exact forall₂_named _ hname hrel hpart
  · rw [candidates_eq (hnone doc (by decide) n), candidates_eq (hnone doc' (by decide) n')]
    exact forall₂_named _ hname (.cons hn hrel) (.keep hpart)

theorem bodiless_candidates {axis : Axis} {test : NodeTest} {a a' : Item}
    (h : Fragment.bodiless.allows axis test = true) (ha : C.OnItem a a') :
    List.Forall₂ C.OnItem (a.candidates doc axis test) (a'.candidates doc' axis test) := by
  cases ha with
  | attr hn hslot =>
    refine forall₂_candidates ?_ .nil
    cases axis with
    | itself => exact .cons (.attr hn hslot) .nil
    | child | descendant | descendantOrSelf | attributes => exact .nil
    | parent | ancestor | ancestorOrSelf | followingSibling | precedingSibling => cases h
  | @node n n' hn =>
    have hother : ∀ {axis : Axis}, axis ≠ .child →
        List.Forall₂ C.OnItem ((Item.node n).onAxis doc axis) ((Item.node n').onAxis doc' axis) →
        List.Forall₂ C.OnItem ((Item.node n).candidates doc axis test)
          ((Item.node n').candidates doc' axis test) := by
      intro axis haxis honAxis
      refine forall₂_candidates honAxis ?_
      rw [impliedRows_of_ne_child haxis, impliedRows_of_ne_child haxis]
      exact .nil
    cases axis with
    | child =>
      obtain ⟨name, rfl, hname⟩ := NodeTest.exists_name h
      exact forall₂_candidates_child hlocal hn hname
    | descendant =>
      obtain ⟨name, rfl, hname⟩ := NodeTest.exists_name h
      exact (forall₂_candidates_inside hlocal hn hname).1
    | descendantOrSelf =>
      obtain ⟨name, rfl, hname⟩ := NodeTest.exists_name h
      exact (forall₂_candidates_inside hlocal hn hname).2
    | itself => exact hother (by decide) (.cons (.node hn) .nil)
    | attributes => exact hother (by decide) (forall₂_attributesOf hn)
    | parent | ancestor | ancestorOrSelf | followingSibling | precedingSibling => cases h

/-- The table of a body inside the counterpart of a node lies at the node or inside it. -/
theorem mem_of_body {table table' : Nat} (hn : C.rel n n') (ht : t ∈ doc'.descendants n')
    (htable : C.rel table table') (htwin : TableTwin doc doc' C.rel table table' t) :
    table ∈ n :: doc.descendants n := by
  obtain ⟨part, hrel, hpart⟩ := (hlocal hn).inside
  rcases (Document.mem_descendants_iff.mp ht).atOrWithin_parent htwin.mem with rfl | hin
  · rw [(rel_eq_iff htable hn).mpr rfl]
    exact List.mem_cons_self
  · rcases hpart.mem_or (Document.mem_descendants_iff.mpr hin) with hmem | hbody
    · obtain ⟨other, hother, hrel⟩ := exists_partner_left hrel _ hmem
      rw [(rel_eq_iff htable hrel).mpr rfl]
      exact List.mem_cons_of_mem _ hother
    · have hno := hasTag_of_isBody table_ne_tbody hbody
      rw [← hasTag_eq htable, htwin.isTable] at hno
      cases hno

theorem bodiless_inside {axis : Axis} {test : NodeTest} {a a' : Item}
    (h : Fragment.bodiless.inside axis test = true) (ha : C.OnItem a a') :
    C.LeadsInside axis test a a' := by
  have hallows : Fragment.bodiless.allows axis test = true := by
    cases axis <;> first | exact h | cases h
  cases ha with
  | attr _ _ => exact ⟨fun _ hx => absurd hx List.not_mem_nil, fun _ hx => absurd hx List.not_mem_nil⟩
  | @node n n' hn =>
    obtain ⟨part, hrel, hpart⟩ := (hlocal hn).inside
    refine ⟨?_, ?_⟩ <;> rw [candidates_doubleSlash, candidates_doubleSlash]
    · intro x hx
      obtain ⟨m, hm, rfl⟩ := List.mem_map.mp hx
      obtain ⟨m', hm', hmm⟩ := exists_partner (.cons hn hrel) m hm
      exact ⟨.node m', List.mem_map_of_mem ((hpart.sublist.cons_cons n').subset hm'),
        bodiless_candidates hlocal hallows (.node hmm)⟩
    · have hkept : ∀ {m m' : Nat}, m ∈ n :: doc.descendants n → C.rel m m' →
          ∃ x ∈ (n :: doc.descendants n).map Item.node, List.Forall₂ C.OnItem
            (x.candidates doc axis test) ((Item.node m').candidates doc' axis test) :=
        fun hm hmm => ⟨_, List.mem_map_of_mem hm, bodiless_candidates hlocal hallows (.node hmm)⟩
      intro x' hx'
      obtain ⟨m', hm', rfl⟩ := List.mem_map.mp hx'
      rcases List.mem_cons.mp hm' with rfl | hm'
      · exact .inr (hkept List.mem_cons_self hn)
      rcases hpart.mem_or hm' with hmem | ⟨table, table', htable, htwin⟩
      · obtain ⟨m, hm, hmm⟩ := exists_partner_left hrel m' hmem
        exact .inr (hkept (List.mem_cons_of_mem _ hm) hmm)
      · -- a body that is left out: it has no attributes, and its rows are found from its table
        cases axis with
        | child =>
          obtain ⟨name, rfl, hname⟩ := NodeTest.exists_name h
          refine (candidates_of_body htwin hname).imp_right fun hrows => ?_
          exact ⟨_, List.mem_map_of_mem (mem_of_body hlocal hn hm' htable htwin), hrows⟩
        | attributes =>
          left
          rw [candidates_eq (impliedRows_of_ne_child (by decide) _ _), Item.onAxis,
            Item.attributesOf, Document.attributes, htwin.body]
          rfl
        | descendant | descendantOrSelf | itself | parent | ancestor | ancestorOrSelf
        | followingSibling | precedingSibling => cases h

/-- A correspondence of nodes around which only bodies differ carries the expressions that
name no body. -/
theorem carries_bodiless (hroot : C.rel 0 0) : C.Carries .bodiless where
  root _ := hroot
  candidates h ha := bodiless_candidates hlocal h ha
  inside h ha := bodiless_inside hlocal h ha

end Carries

/-- A node and its counterpart have the same text. -/
theorem stringValue_of_counterpart {page : List Marked} (hpage : areProper page = true)
    (hn : counterpart? page n = some n') :
    (Document.ofMarkup (bareAll page)).stringValue n =
      (Document.ofMarkup (fullAll page)).stringValue n' := by
  obtain ⟨part, hrel, hpart⟩ := (local_of_counterpart hpage hn).inside
  have htext : ∀ m m', counterpart? page m = some m' →
      (Document.ofMarkup (bareAll page)).text? m = (Document.ofMarkup (fullAll page)).text? m' := by
    intro m m' hm
    rw [Document.text?, Document.text?, (local_of_counterpart hpage hm).label]
  rw [Document.stringValue, Document.stringValue, (Thinned.keep hpart).filterMap_eq fun t ht => by
    rw [Document.text?, label?_of_isBody ht], filterMap_eq_of_forall₂ htext (.cons hn hrel)]

/-- The nodes of a bare page correspond to their counterparts in the full page. -/
def counterparts {page : List Marked} (hpage : areProper page = true) :
    Correspondence (.ofMarkup (bareAll page)) (.ofMarkup (fullAll page)) where
  rel n n' := counterpart? page n = some n'
  lt_iff := counterpart_lt_iff hpage
  label?_eq hn := (local_of_counterpart hpage hn).label
  stringValue_eq hn := stringValue_of_counterpart hpage hn

end Correspondence

/-- **The body of a table makes no difference** to an expression that names no body: at a
node of a page and at its counterpart in the page with bodies around the bare rows of some
tables, the expression gives the same texts. -/
theorem selectStrings_of_bodies {page : List Marked} (hpage : areProper page = true)
    {expr : Expr} (hexpr : Fragment.bodiless.has expr = true) {n : Nat}
    (hn : n < (Document.ofMarkup (bareAll page)).size) :
    ∃ n', counterpart? page n = some n' ∧
      selectStrings (.ofMarkup (bareAll page)) expr n =
        selectStrings (.ofMarkup (fullAll page)) expr n' := by
  obtain ⟨n', hn'⟩ := exists_counterpart hn
  have hcarries := Correspondence.carries_bodiless (C := .counterparts hpage)
    (local_of_counterpart hpage) rfl
  exact ⟨n', hn', Correspondence.selectStrings_eq hcarries hexpr hn'⟩

theorem selectStrings_of_bodies_row :
    areProper [.table "table" [] [] [.element "tr" [] [.text "a"]] []] = true ∧
    Fragment.bodiless.has (.path true
      [.toAny .descendantOrSelf, ⟨.child, .name "tr", [.number (.ofNat 1)]⟩]) = true ∧
    ∃ n', counterpart? [.table "table" [] [] [.element "tr" [] [.text "a"]] []] 2 = some n' ∧
      selectStrings (.ofMarkup (bareAll [.table "table" [] [] [.element "tr" [] [.text "a"]] []]))
          (.path true [.toAny .descendantOrSelf, ⟨.child, .name "tr", [.number (.ofNat 1)]⟩]) 2 =
        selectStrings (.ofMarkup (fullAll [.table "table" [] [] [.element "tr" [] [.text "a"]] []]))
          (.path true [.toAny .descendantOrSelf, ⟨.child, .name "tr", [.number (.ofNat 1)]⟩]) n' :=
  ⟨by decide, by decide, selectStrings_of_bodies (by decide) (by decide) (by decide)⟩

end Almanac.Selector
