import Almanac.Proofs.Selector.Order

/-!
# Corresponding nodes of two documents

A correspondence relates nodes of two documents so that it keeps their order, what
they are and their texts. A fragment is a syntactic class of expressions, given by
the steps that their paths may take. When every such step leads from corresponding
items to corresponding items, so does every expression of the fragment: its values
at corresponding items correspond (`onValue_evaluate`), and it gives the same texts
(`texts_evaluate_eq`).
-/

namespace Almanac.Selector

/-! ## Fragments -/

/-- A class of expressions: whether paths may begin at the document, the steps that
may be taken, and the steps that may be taken right behind a double slash, which
need not be a step of the class by itself. -/
structure Fragment where
  absolute : Bool
  allows : Axis → NodeTest → Bool
  inside : Axis → NodeTest → Bool

/-- Whether a step is what a double slash stands for. -/
def Step.isDoubleSlash {ε : Type} (step : Step ε) : Bool :=
  step.axis = .descendantOrSelf && step.test = .node && step.predicates.isEmpty

theorem eq_of_isDoubleSlash {ε : Type} {axis : Axis} {test : NodeTest} {predicates : List ε}
    (h : Step.isDoubleSlash ⟨axis, test, predicates⟩ = true) :
    axis = .descendantOrSelf ∧ test = .node ∧ predicates = [] := by
  simpa only [Step.isDoubleSlash, Bool.and_eq_true, decide_eq_true_eq, List.isEmpty_iff,
    and_assoc] using h

namespace Fragment

/-- Whether steps begin with one that may be taken right behind a double slash. -/
def goesInside (F : Fragment) : List (Step Expr) → Bool
  | [] => false
  | step :: _ => F.inside step.axis step.test

mutual

/-- Whether an expression is in a fragment. -/
def has (F : Fragment) : Expr → Bool
  | .operation _ left right => F.has left && F.has right
  | .union branches => F.hasAll branches
  | .path absolute steps => (F.absolute || !absolute) && F.hasSteps steps
  | .filter base predicates steps => F.has base && F.hasAll predicates && F.hasSteps steps
  | .literal _ | .number _ => true
  | .call _ arguments => F.hasAll arguments

/-- Whether all expressions are in a fragment. -/
def hasAll (F : Fragment) : List Expr → Bool
  | [] => true
  | expr :: rest => F.has expr && F.hasAll rest

/-- Whether all steps may be taken and their predicates are in the fragment. -/
def hasSteps (F : Fragment) : List (Step Expr) → Bool
  | [] => true
  | ⟨axis, test, predicates⟩ :: rest =>
    (F.allows axis test && F.hasAll predicates ||
      Step.isDoubleSlash ⟨axis, test, predicates⟩ && F.goesInside rest) && F.hasSteps rest

end

theorem hasAll_of_hasSteps {F : Fragment} {step : Step Expr} {rest : List (Step Expr)}
    (h : F.hasSteps (step :: rest) = true) :
    F.hasAll step.predicates = true ∧ F.hasSteps rest = true := by
  rw [hasSteps, Bool.and_eq_true, Bool.or_eq_true, Bool.and_eq_true, Bool.and_eq_true] at h
  refine ⟨?_, h.2⟩
  rcases h.1 with ⟨-, hp⟩ | ⟨hslash, -⟩
  · exact hp
  · rw [(eq_of_isDoubleSlash hslash).2.2]
    rfl

end Fragment

/-! ## Correspondences -/

/-- A relation between the nodes of two documents that keeps their order, what they
are and their texts. -/
structure Correspondence (doc doc' : Document) where
  rel : Nat → Nat → Prop
  lt_iff : ∀ {a a' b b'}, rel a a' → rel b b' → (a < b ↔ a' < b')
  label?_eq : ∀ {a a'}, rel a a' → doc.label? a = doc'.label? a'
  stringValue_eq : ∀ {a a'}, rel a a' → doc.stringValue a = doc'.stringValue a'

namespace Correspondence

variable {doc doc' : Document} (C : Correspondence doc doc')

/-- Items correspond when they are corresponding nodes, or attributes in one slot of
corresponding elements. -/
inductive OnItem : Item → Item → Prop
  | node {n n' : Nat} : C.rel n n' → OnItem (.node n) (.node n')
  | attr {n n' slot : Nat} : C.rel n n' → slot < (doc.attributes n).length →
      OnItem (.attr n slot) (.attr n' slot)

/-- Values correspond when they are equal or their items correspond one by one. -/
inductive OnValue : Value → Value → Prop
  | items {found found' : List Item} : List.Forall₂ C.OnItem found found' →
      OnValue (.items found) (.items found')
  | text (s : String) : OnValue (.text s) (.text s)
  | number (n : Number) : OnValue (.number n) (.number n)
  | truth (b : Bool) : OnValue (.truth b) (.truth b)

/-- Foci correspond when their items do, at one place in lists of one length. -/
structure OnFocus (focus focus' : Focus) : Prop where
  item : C.OnItem focus.item focus'.item
  position : focus.position = focus'.position
  size : focus.size = focus'.size

variable {C}

section Nodes

variable {n n' : Nat} (h : C.rel n n')
include h

theorem tag?_eq : doc.tag? n = doc'.tag? n' := by
  rw [Document.tag?, Document.tag?, C.label?_eq h]

theorem attributes_eq : doc.attributes n = doc'.attributes n' := by
  rw [Document.attributes, Document.attributes, C.label?_eq h]

theorem text?_eq : doc.text? n = doc'.text? n' := by
  rw [Document.text?, Document.text?, C.label?_eq h]

theorem hasTag_eq (tag : String) : doc.hasTag n tag = doc'.hasTag n' tag := by
  rw [Document.hasTag, Document.hasTag, tag?_eq h]

theorem isElement_eq : doc.isElement n = doc'.isElement n' := by
  rw [Document.isElement, Document.isElement, tag?_eq h]

end Nodes

/-- Corresponding nodes are the same in one document just when they are in the other. -/
theorem rel_eq_iff {a a' b b' : Nat} (ha : C.rel a a') (hb : C.rel b b') : a = b ↔ a' = b' := by
  have h₁ := C.lt_iff ha hb
  have h₂ := C.lt_iff hb ha
  omega

/-! ### Items -/

namespace OnItem

variable {a a' b b' : Item}

/-- Corresponding items are in the same order. -/
theorem before_iff (ha : C.OnItem a a') (hb : C.OnItem b b') : a.Before b ↔ a'.Before b' := by
  cases ha with
  | node ha | attr ha _ =>
    cases hb with
    | node hb | attr hb _ =>
      have h₁ := C.lt_iff ha hb
      have h₂ := rel_eq_iff ha hb
      simp only [Item.Before, Item.place]
      omega

/-- Corresponding items have the same text. -/
theorem stringValue_eq (h : C.OnItem a a') : a.stringValue doc = a'.stringValue doc' := by
  cases h with
  | node h => exact C.stringValue_eq h
  | attr h _ => rw [Item.stringValue, Item.stringValue, attributes_eq h]

theorem passes_eq (axis : Axis) (test : NodeTest) (h : C.OnItem a a') :
    a.passes doc axis test = a'.passes doc' axis test := by
  cases h with
  | node h =>
    simp only [Item.passes]
    rw [isElement_eq h, text?_eq h]
    cases test with
    | name text => exact hasTag_eq h text
    | any | text | node => rfl
  | attr h _ => simp only [Item.passes, attributes_eq h]

end OnItem

section Lists

variable {items items' : List Item}

theorem forall₂_filter {α β : Type} {R : α → β → Prop} {p : α → Bool} {q : β → Bool} {l : List α}
    {l' : List β} (h : List.Forall₂ R l l') (hpq : ∀ a b, R a b → p a = q b) :
    List.Forall₂ (fun a b => p a = true ∧ R a b) (l.filter p) (l'.filter q) := by
  induction h with
  | nil => exact .nil
  | @cons a b _ _ hab _ ih =>
    rw [List.filter_cons, List.filter_cons, ← hpq a b hab]
    split
    · next hp => exact .cons ⟨hp, hab⟩ ih
    · exact ih

/-- Related members that are mapped alike are mapped to one list. -/
theorem filterMap_eq_of_forall₂ {α β γ : Type} {R : α → β → Prop} {f : α → Option γ}
    {g : β → Option γ} (hfg : ∀ a b, R a b → f a = g b) {l : List α} {l' : List β}
    (h : List.Forall₂ R l l') : l.filterMap f = l'.filterMap g := by
  induction h with
  | nil => rfl
  | cons hab _ ih => rw [List.filterMap_cons, List.filterMap_cons, hfg _ _ hab, ih]

theorem exists_partner {α β : Type} {R : α → β → Prop} {l : List α} {l' : List β}
    (h : List.Forall₂ R l l') : ∀ a ∈ l, ∃ b ∈ l', R a b := by
  induction h with
  | nil => intro a ha; cases ha
  | @cons a b _ _ hab _ ih =>
    intro x hx
    rcases List.mem_cons.mp hx with rfl | hx
    · exact ⟨b, List.mem_cons_self, hab⟩
    · obtain ⟨y, hy, hxy⟩ := ih x hx
      exact ⟨y, List.mem_cons_of_mem _ hy, hxy⟩

theorem exists_partner_left {α β : Type} {R : α → β → Prop} {l : List α} {l' : List β}
    (h : List.Forall₂ R l l') : ∀ b ∈ l', ∃ a ∈ l, R a b :=
  exists_partner (R := fun b a => R a b) h.flip

/-- Items that correspond one by one still do so in document order. -/
theorem forall₂_inDocumentOrder (h : List.Forall₂ C.OnItem items items') :
    List.Forall₂ C.OnItem (Item.inDocumentOrder items) (Item.inDocumentOrder items') :=
  Item.forall₂_inDocumentOrder OnItem.before_iff (exists_partner h) (exists_partner_left h)

theorem map_stringValue_eq (h : List.Forall₂ C.OnItem items items') :
    items.map (Item.stringValue doc) = items'.map (Item.stringValue doc') := by
  induction h with
  | nil => rfl
  | cons hab _ ih => rw [List.map_cons, List.map_cons, hab.stringValue_eq, ih]

theorem forall₂_map_node {nodes nodes' : List Nat} (h : List.Forall₂ C.rel nodes nodes') :
    List.Forall₂ C.OnItem (nodes.map .node) (nodes'.map .node) := by
  induction h with
  | nil => exact .nil
  | cons hab _ ih => exact .cons (.node hab) ih

theorem forall₂_attributesOf {n n' : Nat} (h : C.rel n n') :
    List.Forall₂ C.OnItem (Item.attributesOf doc n) (Item.attributesOf doc' n') := by
  rw [Item.attributesOf, Item.attributesOf, ← attributes_eq h]
  rw [List.forall₂_map_left_iff, List.forall₂_map_right_iff, List.forall₂_same]
  exact fun slot hslot => .attr h (List.mem_range.mp hslot)

end Lists

/-! ### Values -/

namespace OnValue

variable {v v' : Value} (h : C.OnValue v v')
include h

theorem toItems : List.Forall₂ C.OnItem v.toItems v'.toItems := by
  cases h with
  | items h => exact h
  | text s | number n | truth b => exact .nil

theorem toBool_eq : v.toBool = v'.toBool := by
  cases h with
  | items h => cases h <;> rfl
  | text s | number n | truth b => rfl

theorem toText_eq : v.toText doc = v'.toText doc' := by
  cases h with
  | items h =>
    cases h with
    | nil => rfl
    | cons h _ => exact h.stringValue_eq
  | text s | number n | truth b => rfl

theorem texts_eq : v.texts doc = v'.texts doc' := by
  cases h with
  | items h => exact map_stringValue_eq h
  | text s | number n | truth b => rfl

theorem atoms_eq : v.atoms doc = v'.atoms doc' := by
  cases h with
  | items h =>
    have := congrArg (List.map Value.Atom.text) (map_stringValue_eq h)
    rw [List.map_map, List.map_map] at this
    exact this
  | text s | number n | truth b => rfl

theorem keeps_eq (position : Nat) : v.keeps position = v'.keeps position := by
  have hb := toBool_eq h
  cases h with
  | items h => exact hb
  | text s | number n | truth b => rfl

end OnValue

/-- Comparisons of corresponding values come out alike. -/
theorem ofValues_eq (comparison : Comparison) {v v' w w' : Value} (hv : C.OnValue v v')
    (hw : C.OnValue w w') : comparison.ofValues doc v w = comparison.ofValues doc' v' w' := by
  have hvb := hv.toBool_eq
  have hwb := hw.toBool_eq
  have hva := hv.atoms_eq
  have hwa := hw.atoms_eq
  cases hv <;> cases hw <;> simp only [Comparison.ofValues, hvb, hwb, hva, hwa]

/-- Operators give corresponding values. -/
theorem onValue_operator (operator : Operator) {v v' w w' : Value} (hv : C.OnValue v v')
    (hw : C.OnValue w w') : C.OnValue (operator.apply doc v w) (operator.apply doc' v' w') := by
  cases operator with
  | or => rw [Operator.apply, hv.toBool_eq, hw.toBool_eq]; exact .truth _
  | and => rw [Operator.apply, hv.toBool_eq, hw.toBool_eq]; exact .truth _
  | compare comparison => rw [Operator.apply, ofValues_eq comparison hv hw]; exact .truth _

section Functions

variable {focus focus' : Focus} {arguments arguments' : List Value}

theorem argumentText_eq (hf : C.OnFocus focus focus')
    (ha : List.Forall₂ C.OnValue arguments arguments') (i : Nat) :
    focus.argumentText doc arguments i = focus'.argumentText doc' arguments' i := by
  induction ha generalizing i with
  | nil => exact hf.item.stringValue_eq
  | cons hv _ ih =>
    cases i with
    | zero => exact hv.toText_eq
    | succ i => exact ih i

theorem map_toText_eq (ha : List.Forall₂ C.OnValue arguments arguments') :
    arguments.map (Value.toText doc) = arguments'.map (Value.toText doc') := by
  induction ha with
  | nil => rfl
  | cons hv _ ih => rw [List.map_cons, List.map_cons, hv.toText_eq, ih]

theorem onValue_function (function : Function) (hf : C.OnFocus focus focus')
    (ha : List.Forall₂ C.OnValue arguments arguments') :
    C.OnValue (function.apply doc focus arguments) (function.apply doc' focus' arguments') := by
  have htext := argumentText_eq hf ha
  have hmap := map_toText_eq ha
  have hbool : ((arguments[0]?).map Value.toBool).getD false =
      ((arguments'[0]?).map Value.toBool).getD false := by
    cases ha with
    | nil => rfl
    | cons hv _ => exact hv.toBool_eq
  have hcount : ((arguments[0]?).map Value.toItems |>.getD []).length =
      ((arguments'[0]?).map Value.toItems |>.getD []).length := by
    cases ha with
    | nil => rfl
    | cons hv _ => exact hv.toItems.length_eq
  cases function <;>
    simp only [Function.apply, htext, hmap, hbool, hcount, hf.position, hf.size] <;> constructor

end Functions

/-! ### Expressions -/

variable (C) in
/-- From the nodes at and inside an item and from those at and inside another, a step leads
to corresponding items, but for nodes from which it leads nowhere or to what it reaches
from some other node as well. -/
structure LeadsInside (axis : Axis) (test : NodeTest) (a a' : Item) : Prop where
  forth : ∀ x ∈ a.candidates doc .descendantOrSelf .node,
    ∃ x' ∈ a'.candidates doc' .descendantOrSelf .node,
      List.Forall₂ C.OnItem (x.candidates doc axis test) (x'.candidates doc' axis test)
  back : ∀ x' ∈ a'.candidates doc' .descendantOrSelf .node, x'.candidates doc' axis test = [] ∨
    ∃ x ∈ a.candidates doc .descendantOrSelf .node,
      List.Forall₂ C.OnItem (x.candidates doc axis test) (x'.candidates doc' axis test)

variable (C) in
/-- A correspondence carries a fragment when the steps of the fragment lead from
corresponding items to corresponding items, from right behind a double slash at least
as `LeadsInside` says. -/
structure Carries (F : Fragment) : Prop where
  root : F.absolute = true → C.rel 0 0
  candidates : ∀ {axis test a a'}, F.allows axis test = true → C.OnItem a a' →
    List.Forall₂ C.OnItem (a.candidates doc axis test) (a'.candidates doc' axis test)
  inside : ∀ {axis test a a'}, F.inside axis test = true → C.OnItem a a' →
    C.LeadsInside axis test a a'

/-- Filtering by a predicate whose values correspond. -/
theorem forall₂_keep {predicate : Expr}
    (hp : ∀ {focus focus'}, C.OnFocus focus focus' →
      C.OnValue (evaluate doc predicate focus) (evaluate doc' predicate focus'))
    {items items' : List Item} (h : List.Forall₂ C.OnItem items items') :
    List.Forall₂ C.OnItem
      ((items.zipIdx.filter fun (item, i) =>
        (evaluate doc predicate ⟨item, i + 1, items.length⟩).keeps (i + 1)).map (·.1))
      ((items'.zipIdx.filter fun (item, i) =>
        (evaluate doc' predicate ⟨item, i + 1, items'.length⟩).keeps (i + 1)).map (·.1)) := by
  -- the lists are as long as one another, so that the foci have one size
  rw [← h.length_eq]
  generalize items.length = size
  have hz : ∀ k, List.Forall₂ (fun x x' => C.OnItem x.1 x'.1 ∧ x.2 = x'.2)
      (items.zipIdx k) (items'.zipIdx k) := by
    induction h with
    | nil => exact fun _ => .nil
    | cons hab _ ih => exact fun k => .cons ⟨hab, rfl⟩ (ih (k + 1))
  rw [List.forall₂_map_left_iff, List.forall₂_map_right_iff]
  refine (forall₂_filter (hz 0) ?_).imp fun _ _ h => h.2.1
  rintro ⟨a, i⟩ ⟨a', _⟩ ⟨ha, rfl⟩
  exact (@hp ⟨a, i + 1, size⟩ ⟨a', i + 1, size⟩ ⟨ha, rfl, rfl⟩).keeps_eq _

/-- What is taken from items in document order is what is taken from the items. -/
theorem forall₂_flatMap_inDocumentOrder {f g : Item → List Item} {items items' : List Item}
    (h : ∀ x ∈ items, ∀ y ∈ f x, ∃ x' ∈ items', ∃ y' ∈ g x', C.OnItem y y')
    (h' : ∀ x' ∈ items', ∀ y' ∈ g x', ∃ x ∈ items, ∃ y ∈ f x, C.OnItem y y') :
    List.Forall₂ C.OnItem (Item.inDocumentOrder (items.flatMap f))
      (Item.inDocumentOrder (items'.flatMap g)) := by
  refine Item.forall₂_inDocumentOrder OnItem.before_iff ?_ ?_
  · intro y hy
    obtain ⟨x, hx, hxy⟩ := List.mem_flatMap.mp hy
    obtain ⟨x', hx', y', hy', hyy⟩ := h x hx y hxy
    exact ⟨y', List.mem_flatMap.mpr ⟨x', hx', hy'⟩, hyy⟩
  · intro y' hy'
    obtain ⟨x', hx', hxy'⟩ := List.mem_flatMap.mp hy'
    obtain ⟨x, hx, y, hy, hyy⟩ := h' x' hx' y' hxy'
    exact ⟨y, List.mem_flatMap.mpr ⟨x, hx, hy⟩, hyy⟩

/-- A double slash and a step that may follow it, taken together. -/
theorem Carries.forall₂_inside {F : Fragment} (hC : C.Carries F) {axis : Axis} {test : NodeTest}
    {predicates : List Expr} (hin : F.inside axis test = true)
    (hp : ∀ {items items' : List Item}, List.Forall₂ C.OnItem items items' →
      List.Forall₂ C.OnItem (keepAll doc predicates items) (keepAll doc' predicates items'))
    {items items' : List Item} (hi : List.Forall₂ C.OnItem items items') :
    List.Forall₂ C.OnItem
      (Item.inDocumentOrder ((Item.inDocumentOrder (items.flatMap fun item =>
        keepAll doc [] (item.candidates doc .descendantOrSelf .node))).flatMap fun item =>
          keepAll doc predicates (item.candidates doc axis test)))
      (Item.inDocumentOrder ((Item.inDocumentOrder (items'.flatMap fun item =>
        keepAll doc' [] (item.candidates doc' .descendantOrSelf .node))).flatMap fun item =>
          keepAll doc' predicates (item.candidates doc' axis test))) := by
  refine forall₂_flatMap_inDocumentOrder ?_ ?_
  · intro x hx y hy
    obtain ⟨a, ha, hxa⟩ := List.mem_flatMap.mp (Item.mem_inDocumentOrder.mp hx)
    obtain ⟨a', ha', haa⟩ := exists_partner hi a ha
    obtain ⟨x', hx', hxx⟩ := (hC.inside hin haa).forth x hxa
    obtain ⟨y', hy', hyy⟩ := exists_partner (hp hxx) y hy
    exact ⟨x', Item.mem_inDocumentOrder.mpr (List.mem_flatMap.mpr ⟨a', ha', hx'⟩), y', hy', hyy⟩
  · intro x' hx' y' hy'
    obtain ⟨a', ha', hxa'⟩ := List.mem_flatMap.mp (Item.mem_inDocumentOrder.mp hx')
    obtain ⟨a, ha, haa⟩ := exists_partner_left hi a' ha'
    rcases (hC.inside hin haa).back x' hxa' with hnone | ⟨x, hx, hxx⟩
    · have hmem := (keepAll_sublist doc' predicates _).subset hy'
      rw [hnone] at hmem
      cases hmem
    · obtain ⟨y, hy, hyy⟩ := exists_partner_left (hp hxx) y' hy'
      exact ⟨x, Item.mem_inDocumentOrder.mpr (List.mem_flatMap.mpr ⟨a, ha, hx⟩), y, hy, hyy⟩

section Evaluation

set_option linter.unusedSectionVars false

variable {F : Fragment} (hC : C.Carries F)
include hC

mutual

/-- **Values of an expression of the fragment** at corresponding items correspond. -/
theorem onValue_evaluate (expr : Expr) {focus focus' : Focus} (h : F.has expr = true)
    (hf : C.OnFocus focus focus') :
    C.OnValue (evaluate doc expr focus) (evaluate doc' expr focus') := by
  match expr with
  | .operation operator left right =>
    rw [Fragment.has, Bool.and_eq_true] at h
    rw [evaluate, evaluate]
    exact onValue_operator operator (onValue_evaluate left h.1 hf) (onValue_evaluate right h.2 hf)
  | .union branches =>
    rw [Fragment.has] at h
    rw [evaluate, evaluate]
    exact .items (forall₂_inDocumentOrder (forall₂_evaluateBranches branches h hf))
  | .path absolute steps =>
    rw [Fragment.has, Bool.and_eq_true] at h
    rw [evaluate, evaluate]
    refine .items (forall₂_takeStepsFrom steps h.2 (.cons ?_ .nil))
    cases absolute with
    | true => exact .node (hC.root (by simpa using h.1))
    | false => exact hf.item
  | .filter base predicates steps =>
    rw [Fragment.has, Bool.and_eq_true, Bool.and_eq_true] at h
    have hb := onValue_evaluate base h.1.1 hf
    rw [evaluate, evaluate]
    generalize evaluate doc base focus = v at hb ⊢
    generalize evaluate doc' base focus' = v' at hb ⊢
    cases hb with
    | items hi =>
      exact .items (forall₂_takeStepsFrom steps h.2 (forall₂_keepAll predicates h.1.2 hi))
    | text _ | number _ | truth _ => exact .items .nil
  | .literal text => exact .text text
  | .number value => exact .number value
  | .call function arguments =>
    rw [Fragment.has] at h
    rw [evaluate, evaluate]
    exact onValue_function function hf (forall₂_evaluateArguments arguments h hf)
termination_by structural expr

/-- The branches of a union give corresponding items. -/
theorem forall₂_evaluateBranches (branches : List Expr) {focus focus' : Focus}
    (h : F.hasAll branches = true) (hf : C.OnFocus focus focus') :
    List.Forall₂ C.OnItem (evaluateBranches doc branches focus)
      (evaluateBranches doc' branches focus') := by
  match branches with
  | [] => exact .nil
  | branch :: rest =>
    rw [Fragment.hasAll, Bool.and_eq_true] at h
    rw [evaluateBranches, evaluateBranches]
    exact List.rel_append (onValue_evaluate branch h.1 hf).toItems
      (forall₂_evaluateBranches rest h.2 hf)
termination_by structural branches

theorem forall₂_evaluateArguments (arguments : List Expr) {focus focus' : Focus}
    (h : F.hasAll arguments = true) (hf : C.OnFocus focus focus') :
    List.Forall₂ C.OnValue (evaluateArguments doc arguments focus)
      (evaluateArguments doc' arguments focus') := by
  match arguments with
  | [] => exact .nil
  | argument :: rest =>
    rw [Fragment.hasAll, Bool.and_eq_true] at h
    rw [evaluateArguments, evaluateArguments]
    exact .cons (onValue_evaluate argument h.1 hf) (forall₂_evaluateArguments rest h.2 hf)
termination_by structural arguments

/-- Steps of the fragment lead from corresponding items to corresponding items. -/
theorem forall₂_takeStepsFrom (steps : List (Step Expr)) {items items' : List Item}
    (h : F.hasSteps steps = true) (hi : List.Forall₂ C.OnItem items items') :
    List.Forall₂ C.OnItem (takeStepsFrom doc steps items) (takeStepsFrom doc' steps items') := by
  match steps with
  | [] => exact hi
  | ⟨axis, test, predicates⟩ :: rest =>
    rw [Fragment.hasSteps, Bool.and_eq_true, Bool.or_eq_true, Bool.and_eq_true,
      Bool.and_eq_true] at h
    obtain ⟨⟨ha, hp⟩ | ⟨hslash, hin⟩, hrest⟩ := h
    · rw [takeStepsFrom, takeStepsFrom]
      refine forall₂_takeStepsFrom rest hrest (forall₂_inDocumentOrder ?_)
      exact List.rel_flatMap hi fun a a' haa =>
        forall₂_keepAll predicates hp (hC.candidates ha haa)
    · -- the nodes between the two steps need not correspond, so both are taken together
      match rest with
      | ⟨axis₂, test₂, predicates₂⟩ :: rest₂ =>
        obtain ⟨hp, hrest⟩ := Fragment.hasAll_of_hasSteps hrest
        obtain ⟨rfl, rfl, rfl⟩ := eq_of_isDoubleSlash hslash
        rw [takeStepsFrom, takeStepsFrom, takeStepsFrom, takeStepsFrom]
        exact forall₂_takeStepsFrom rest₂ hrest
          (hC.forall₂_inside hin (fun hl => forall₂_keepAll predicates₂ hp hl) hi)
termination_by structural steps

/-- Predicates of the fragment keep corresponding items of lists that correspond. -/
theorem forall₂_keepAll (predicates : List Expr) {items items' : List Item}
    (h : F.hasAll predicates = true) (hi : List.Forall₂ C.OnItem items items') :
    List.Forall₂ C.OnItem (keepAll doc predicates items) (keepAll doc' predicates items') := by
  match predicates with
  | [] => exact hi
  | predicate :: rest =>
    rw [Fragment.hasAll, Bool.and_eq_true] at h
    rw [keepAll, keepAll]
    exact forall₂_keepAll rest h.2
      (forall₂_keep (fun hf => onValue_evaluate predicate h.1 hf) hi)
termination_by structural predicates

end

/-- **An expression of the fragment** gives the same texts at corresponding nodes, and
its items there correspond. -/
theorem onValue_valueAt {expr : Expr} (h : F.has expr = true) {n n' : Nat} (hn : C.rel n n') :
    C.OnValue (valueAt doc expr n) (valueAt doc' expr n') :=
  onValue_evaluate hC expr h ⟨.node hn, rfl, rfl⟩

/-- An expression of the fragment gives the same texts at corresponding nodes. -/
theorem selectStrings_eq {expr : Expr} (h : F.has expr = true) {n n' : Nat} (hn : C.rel n n') :
    selectStrings doc expr n = selectStrings doc' expr n' :=
  (onValue_valueAt hC h hn).texts_eq

end Evaluation

/-! ### Candidates of a step -/

theorem impliedRows_of_ne_child {axis : Axis} (h : axis ≠ .child) (test : NodeTest) (a : Item) :
    a.impliedRows doc axis test = [] := by
  cases a with
  | node n => simp only [Item.impliedRows, h, decide_false, Bool.false_and, Bool.false_eq_true,
      ite_false]
  | attr owner slot => rfl

/-- What a step leads to corresponds when the items on its axis and the rows that it
reaches through the bodies of a table do. -/
theorem forall₂_candidates {axis : Axis} {test : NodeTest} {a a' : Item}
    (haxis : List.Forall₂ C.OnItem (a.onAxis doc axis) (a'.onAxis doc' axis))
    (hrows : List.Forall₂ C.OnItem (a.impliedRows doc axis test) (a'.impliedRows doc' axis test)) :
    List.Forall₂ C.OnItem (a.candidates doc axis test) (a'.candidates doc' axis test) := by
  have hdirect := (forall₂_filter haxis fun _ _ h => h.passes_eq axis test).imp fun _ _ h => h.2
  simp only [Item.candidates]
  generalize a.impliedRows doc axis test = rows at hrows ⊢
  generalize a'.impliedRows doc' axis test = rows' at hrows ⊢
  cases hrows with
  | nil => exact hdirect
  | cons h hs => exact forall₂_inDocumentOrder (List.rel_append hdirect (.cons h hs))

/-- The rows of corresponding tables correspond when the children of the tables and of
their bodies do. -/
theorem forall₂_impliedRows_node (axis : Axis) (test : NodeTest) {n n' : Nat} (h : C.rel n n')
    (hchildren : List.Forall₂ C.rel (doc.children n) (doc'.children n'))
    (hbodies : ∀ b b', C.rel b b' → doc.hasTag b "tbody" = true →
      List.Forall₂ C.rel (doc.children b) (doc'.children b')) :
    List.Forall₂ C.OnItem ((Item.node n).impliedRows doc axis test)
      ((Item.node n').impliedRows doc' axis test) := by
  rw [Item.impliedRows, Item.impliedRows, hasTag_eq h]
  split
  · have hrows := List.rel_flatMap (forall₂_filter hchildren fun _ _ h => hasTag_eq h "tbody")
      fun b b' h => hbodies b b' h.2 h.1
    exact forall₂_map_node ((forall₂_filter hrows fun _ _ h => hasTag_eq h "tr").imp
      fun _ _ h => h.2)
  · exact .nil

/-- Corresponding items have corresponding implied rows, where children correspond. -/
theorem forall₂_impliedRows
    (hchildren : ∀ {n n'}, C.rel n n' → List.Forall₂ C.rel (doc.children n) (doc'.children n'))
    (axis : Axis) (test : NodeTest) {a a' : Item} (h : C.OnItem a a') :
    List.Forall₂ C.OnItem (a.impliedRows doc axis test) (a'.impliedRows doc' axis test) := by
  cases h with
  | attr _ _ => exact .nil
  | node h => exact forall₂_impliedRows_node axis test h (hchildren h) fun _ _ hb _ => hchildren hb

end Correspondence

end Almanac.Selector
