import Almanac.Proofs.Document.Bodies
import Almanac.Proofs.Selector.Chains
import Almanac.Proofs.Selector.Rendering
import Almanac.Proofs.Selector.Union

/-!
# The double slash

A double slash is read as a slash, a step to the node at hand and every node inside it, and
another slash. So a step behind it reaches an item through its parent, and a row of a table
through the table and through the body; the descendant axis reaches each of them once. As long
as the predicates of the step are tests, which number nothing, both lead to the same items
(`takeStepsFrom_doubleSlash`). An expression that is followed by either way of writing the step
is read as its items and the steps from them (`Grammar.Path.followed`), so that the two give the
same list (`double_slash_is_descendant`).
-/

namespace Almanac.Selector

open Grammar

namespace Grammar

/-! ## Readings in front of more tokens -/

section Append

variable {more : List Token}

/-- A direction is read whatever is behind what is left. -/
theorem Direction.append {ts rest : List Token} {axis : Axis} :
    Direction ts axis rest → Direction (ts ++ more) axis (rest ++ more)
  | .absent => .absent
  | .atSign => .atSign
  | .named h => .named h

theorem Test.append {ts rest : List Token} {test : NodeTest} :
    Test ts test rest → Test (ts ++ more) test (rest ++ more)
  | .any => .any
  | .text => .text
  | .node => .node
  | .name => .name

mutual

/-- A reading is one also in front of more tokens, if no step can begin with them. -/
theorem Operands.append (hmore : Ends Token.startsStep more) {levels : List Level}
    {ts rest : List Token} {expr : Expr} :
    Operands levels ts expr rest → Operands levels (ts ++ more) expr (rest ++ more)
  | .alternatives h => .alternatives (h.append hmore)
  | .joined h hchain => .joined (h.append hmore) (hchain.append hmore)

theorem Operations.append (hmore : Ends Token.startsStep more) {level : Level}
    {tighter : List Level} {ts rest : List Token} {chain : List (Operator × Expr)} :
    Operations level tighter ts chain rest →
      Operations level tighter (ts ++ more) chain (rest ++ more)
  | .none => .none
  | .more hop h hchain => .more hop (h.append hmore) (hchain.append hmore)

theorem Alternatives.append (hmore : Ends Token.startsStep more) {ts rest : List Token}
    {expr : Expr} : Alternatives ts expr rest → Alternatives (ts ++ more) expr (rest ++ more)
  | .one h => .one (h.append hmore)
  | .many h hbranches => .many (h.append hmore) (hbranches.append hmore)

theorem Branches.append (hmore : Ends Token.startsStep more) {ts rest : List Token}
    {branches : List Expr} :
    Branches ts branches rest → Branches (ts ++ more) branches (rest ++ more)
  | .none => .none
  | .more h hbranches => .more (h.append hmore) (hbranches.append hmore)

theorem Path.append (hmore : Ends Token.startsStep more) {ts rest : List Token} {expr : Expr} :
    Path ts expr rest → Path (ts ++ more) expr (rest ++ more)
  | .literal => .literal
  | .number => .number
  | .parens h htail => .parens (h.append hmore) (htail.append hmore)
  | .call htext hnode hfunction h htakes htail =>
    .call htext hnode hfunction (h.append hmore) htakes (htail.append hmore)
  | .root h => .root (Ends.append h hmore)
  | .fromRoot h => .fromRoot (h.append hmore)
  | .inDocument h => .inDocument (h.append hmore)
  | .relative h => .relative (h.append hmore)

theorem Tail.append (hmore : Ends Token.startsStep more) {ts rest : List Token}
    {predicates : List Expr} {steps : List (Step Expr)} :
    Tail ts predicates steps rest → Tail (ts ++ more) predicates steps (rest ++ more)
  | .predicates h => .predicates (h.append hmore)
  | .slash h hsteps => .slash (h.append hmore) (hsteps.append hmore)
  | .doubleSlash h hsteps => .doubleSlash (h.append hmore) (hsteps.append hmore)

theorem Steps.append (hmore : Ends Token.startsStep more) {ts rest : List Token}
    {steps : List (Step Expr)} : Steps ts steps rest → Steps (ts ++ more) steps (rest ++ more)
  | .mk h hsteps => .mk (h.append hmore) (hsteps.append hmore)

theorem MoreSteps.append (hmore : Ends Token.startsStep more) {ts rest : List Token}
    {steps : List (Step Expr)} :
    MoreSteps ts steps rest → MoreSteps (ts ++ more) steps (rest ++ more)
  | .none => .none
  | .slash h hsteps => .slash (h.append hmore) (hsteps.append hmore)
  | .doubleSlash h hsteps => .doubleSlash (h.append hmore) (hsteps.append hmore)

theorem OneStep.append (hmore : Ends Token.startsStep more) {ts rest : List Token}
    {step : Step Expr} : OneStep ts step rest → OneStep (ts ++ more) step (rest ++ more)
  | .dot => .dot
  | .doubleDot => .doubleDot
  | .test hdirection htest h => .test hdirection.append htest.append (h.append hmore)

theorem Predicates.append (hmore : Ends Token.startsStep more) {ts rest : List Token}
    {predicates : List Expr} :
    Predicates ts predicates rest → Predicates (ts ++ more) predicates (rest ++ more)
  | .none => .none
  | .more h hpredicates => .more (h.append hmore) (hpredicates.append hmore)

theorem Arguments.append (hmore : Ends Token.startsStep more) {ts rest : List Token}
    {arguments : List Expr} :
    Arguments ts arguments rest → Arguments (ts ++ more) arguments (rest ++ more)
  | .none => .none
  | .some h harguments => .some (h.append hmore) (harguments.append hmore)

theorem MoreArguments.append (hmore : Ends Token.startsStep more) {ts rest : List Token}
    {arguments : List Expr} :
    MoreArguments ts arguments rest → MoreArguments (ts ++ more) arguments (rest ++ more)
  | .none => .none
  | .more h harguments => .more (h.append hmore) (harguments.append hmore)

end

end Append

/-! ## More steps behind an expression -/

section Followed

variable {ts between rest : List Token} {steps new : List (Step Expr)}

theorem MoreSteps.trans {ts between rest : List Token} {steps new : List (Step Expr)} :
    MoreSteps ts steps between → MoreSteps between new rest → MoreSteps ts (steps ++ new) rest
  | .none, hnew => hnew
  | .slash h hmore, hnew => .slash h (hmore.trans hnew)
  | .doubleSlash h hmore, hnew => .doubleSlash h (hmore.trans hnew)

theorem Steps.followed (h : Steps ts steps between) (hnew : MoreSteps between new rest) :
    Steps ts (steps ++ new) rest := by
  obtain ⟨hstep, hmore⟩ := h
  exact .mk hstep (hmore.trans hnew)

theorem Tail.followed {predicates : List Expr} (h : Tail ts predicates steps between)
    (hnew : MoreSteps between new rest) : Tail ts predicates (steps ++ new) rest := by
  cases h with
  | predicates h => exact .of_moreSteps h hnew
  | slash h hsteps => exact .slash h (hsteps.followed hnew)
  | doubleSlash h hsteps => exact .doubleSlash h (hsteps.followed hnew)

end Followed

end Grammar

/-! ## The value of an expression with more steps -/

/-- Whether it is seen from the form of an expression that its value is a list of items. -/
def Expr.givesItems : Expr → Bool
  | .union _ | .path _ _ | .filter _ _ _ => true
  | _ => false

/-- An expression gives what some steps lead to from the items of another. -/
def Expr.Follows (expr base : Expr) (new : List (Step Expr)) : Prop :=
  ∀ (doc : Document) (focus : Focus), evaluate doc expr focus =
    .items (takeStepsFrom doc new (evaluate doc base focus).toItems)

section Value

variable {new : List (Step Expr)}

theorem follows_path (absolute : Bool) (steps new : List (Step Expr)) :
    (Expr.path absolute (steps ++ new)).Follows (.path absolute steps) new := by
  intro doc focus
  rw [evaluate, evaluate, takeStepsFrom_append]
  rfl

theorem takeStepsFrom_nil (doc : Document) (steps : List (Step Expr)) :
    takeStepsFrom doc steps [] = [] := by
  induction steps with
  | nil => rfl
  | cons step rest ih =>
    obtain ⟨axis, test, predicates⟩ := step
    rw [takeStepsFrom, List.flatMap_nil, Item.inDocumentOrder_eq_self .nil]
    exact ih

theorem follows_filter (base : Expr) (predicates : List Expr) (steps new : List (Step Expr)) :
    (Expr.filter base predicates (steps ++ new)).Follows (.filter base predicates steps) new := by
  intro doc focus
  rw [evaluate, evaluate]
  cases evaluate doc base focus with
  | items items =>
    dsimp only
    rw [takeStepsFrom_append]
    rfl
  | _ => exact congrArg Value.items (takeStepsFrom_nil doc new).symm

theorem follows_base (base : Expr) (new : List (Step Expr)) :
    (Expr.filter base [] new).Follows base new := by
  intro doc focus
  rw [evaluate]
  cases evaluate doc base focus with
  | items items => rfl
  | _ => exact congrArg Value.items (takeStepsFrom_nil doc new).symm

/-- An expression goes on with the steps behind it, whether it has predicates and steps or not. -/
theorem follows_filtered (hnew : new ≠ []) (base : Expr) (predicates : List Expr)
    (steps : List (Step Expr)) :
    (filtered base predicates (steps ++ new)).Follows (filtered base predicates steps) new := by
  have hsome : filtered base predicates (steps ++ new) = .filter base predicates (steps ++ new) :=
    if_neg (by simp [hnew])
  rw [hsome, filtered]
  split
  · next hnone =>
    -- without a filter and without steps the base stands by itself
    obtain ⟨rfl, rfl⟩ : predicates = [] ∧ steps = [] := by simpa using hnone
    exact follows_base base new
  · exact follows_filter base predicates steps new

/-- **An expression that steps follow** gives what these lead to from its items. A slash by itself
cannot be followed, as the slash of the steps would stand where a step begins. -/
theorem Grammar.Path.followed {ts between rest : List Token} {expr : Expr}
    (h : Path ts expr between) (hexpr : ts.head? = some .openParen ∨ expr.givesItems = true)
    (hslash : ts ≠ .slash :: between) (hnew : new ≠ []) (hmore : MoreSteps between new rest) :
    ∃ whole, Path ts whole rest ∧ whole.Follows expr new := by
  cases h with
  | literal => simp [Expr.givesItems] at hexpr
  | number => simp [Expr.givesItems] at hexpr
  | parens h htail => exact ⟨_, .parens h (htail.followed hmore), follows_filtered hnew _ _ _⟩
  | call htext hnode hfunction h htakes htail =>
    exact ⟨_, .call htext hnode hfunction h htakes (htail.followed hmore),
      follows_filtered hnew _ _ _⟩
  | root => exact absurd rfl hslash
  | fromRoot h => exact ⟨_, .fromRoot (h.followed hmore), follows_path _ _ _⟩
  | inDocument h => exact ⟨_, .inDocument (h.followed hmore), follows_path true (_ :: _) _⟩
  | relative h => exact ⟨_, .relative (h.followed hmore), follows_path _ _ _⟩

end Value

/-! ## The descendant axis in two steps -/

section Descendants

variable {doc : Document} {test : NodeTest} {predicates : List Expr}

/-- What lies inside a node is the child of the node or of a node inside it. -/
theorem within_iff_child {n c : Nat} :
    doc.Within n c ↔ ∃ m, doc.AtOrWithin n m ∧ c ∈ doc.children m := by
  constructor
  · intro h
    cases h with
    | child hc => exact ⟨n, .inl rfl, hc⟩
    | deeper hm hc => exact ⟨_, .inr hm, hc⟩
  · rintro ⟨m, rfl | hm, hc⟩
    · exact .child hc
    · exact .deeper hm hc

/-- The step in a double slash leads to a node and to what is inside it. -/
theorem leadsTo_descendantOrSelf {a m : Item} :
    (Step.toAny .descendantOrSelf).LeadsTo doc a m ↔
      ∃ n k, a = .node n ∧ m = .node k ∧ doc.AtOrWithin n k := by
  constructor
  · intro h
    cases h with
    | along haxis _ =>
      cases a with
      | attr owner slot => cases haxis
      | node n =>
        obtain ⟨k, hk, rfl⟩ := List.mem_map.mp haxis
        refine ⟨n, k, rfl, rfl, ?_⟩
        exact (List.mem_cons.mp hk).imp id Document.mem_descendants_iff.mp
    | toRow haxis _ _ => cases haxis
  · rintro ⟨n, k, rfl, rfl, hk⟩
    refine .along (List.mem_map_of_mem (List.mem_cons.mpr ?_)) rfl
    exact hk.imp id Document.mem_descendants_iff.mpr

/-- A step on the descendant axis leads to what is inside a node and passes the test. -/
theorem leadsTo_descendant {a b : Item} :
    Step.LeadsTo doc ⟨.descendant, test, predicates⟩ a b ↔
      ∃ n c, a = .node n ∧ b = .node c ∧ doc.Within n c ∧
        Item.passes doc .descendant test (.node c) = true := by
  constructor
  · intro h
    cases h with
    | along haxis htest =>
      cases a with
      | attr owner slot => cases haxis
      | node n =>
        obtain ⟨c, hc, rfl⟩ := List.mem_map.mp haxis
        exact ⟨n, c, rfl, rfl, Document.mem_descendants_iff.mp hc, htest⟩
    | toRow haxis _ _ => cases haxis
  · rintro ⟨n, c, rfl, rfl, hc, htest⟩
    exact .along (List.mem_map_of_mem (Document.mem_descendants_iff.mpr hc)) htest

/-- A row of a body passes a test for rows. -/
theorem passes_of_isName {name : String} (h : test.isName name = true) {c : Nat}
    (hc : doc.hasTag c name = true) (axis : Axis) :
    Item.passes doc axis test (.node c) = true := by
  cases test with
  | name asked => exact (Document.hasTag_congr h c).trans hc
  | any | text | node => cases h

/-- **A step behind a double slash** leads where the step on the descendant axis leads. -/
theorem leadsTo_child_iff {a b : Item} :
    (∃ m, (Step.toAny .descendantOrSelf).LeadsTo doc a m ∧
      Step.LeadsTo doc ⟨.child, test, predicates⟩ m b) ↔
      Step.LeadsTo doc ⟨.descendant, test, predicates⟩ a b := by
  rw [leadsTo_descendant]
  constructor
  · rintro ⟨m, hm, hb⟩
    obtain ⟨n, k, rfl, rfl, hk⟩ := leadsTo_descendantOrSelf.mp hm
    cases hb with
    | along haxis htest =>
      obtain ⟨c, hc, rfl⟩ := List.mem_map.mp haxis
      exact ⟨n, c, rfl, rfl, within_iff_child.mpr ⟨k, hk, hc⟩, htest⟩
    | toRow _ hname hrow =>
      cases hrow with
      | row _ hbody _ hrow htag =>
        -- the row is the child of a body inside the table
        have hinside := within_iff_child.mpr ⟨k, hk, hbody⟩
        exact ⟨n, _, rfl, rfl, .deeper hinside hrow, passes_of_isName hname htag _⟩
  · rintro ⟨n, c, rfl, rfl, hc, htest⟩
    obtain ⟨k, hk, hchild⟩ := within_iff_child.mp hc
    exact ⟨.node k, leadsTo_descendantOrSelf.mpr ⟨n, k, rfl, rfl, hk⟩,
      .along (List.mem_map_of_mem hchild) htest⟩

/-- Behind the step in a double slash a step to children links to what the descendant axis links to.
-/
theorem links_child_iff {a b : Item} :
    (∃ m, (Step.toAny .descendantOrSelf).Links doc a m ∧
      Step.Links doc ⟨.child, test, predicates⟩ m b) ↔
      Step.Links doc ⟨.descendant, test, predicates⟩ a b := by
  constructor
  · rintro ⟨m, hm, hb⟩
    exact ⟨leadsTo_child_iff.mp ⟨m, hm.leads, hb.leads⟩, hb.holds⟩
  · intro h
    obtain ⟨m, hm, hb⟩ := leadsTo_child_iff.mpr h.leads
    exact ⟨m, ⟨hm, fun p hp => absurd hp List.not_mem_nil⟩, hb, h.holds⟩

/-- The steps of a double slash give the items that the descendant axis gives. -/
theorem takeStepsFrom_doubleSlash (h : ∀ p ∈ predicates, p.isTest = true) (items : List Item) :
    takeStepsFrom doc [.toAny .descendantOrSelf, ⟨.child, test, predicates⟩] items =
      takeStepsFrom doc [⟨.descendant, test, predicates⟩] items := by
  have hsorted : ∀ (step : Step Expr) (rest : List (Step Expr)),
      (takeStepsFrom doc (step :: rest) items).Pairwise Item.Before := by
    rintro ⟨axis, test, predicates⟩ rest
    rw [takeStepsFrom]
    exact pairwise_takeStepsFrom doc rest (Item.pairwise_inDocumentOrder _)
  refine Item.eq_of_pairwise_before (hsorted _ _) (hsorted _ _) fun b => ?_
  have hnone : ∀ p ∈ (Step.toAny .descendantOrSelf : Step Expr).predicates, p.isTest = true :=
    fun p hp => absurd hp List.not_mem_nil
  rw [mem_takeStepsFrom (List.forall_mem_cons.mpr ⟨hnone, List.forall_mem_singleton.mpr h⟩),
    mem_takeStepsFrom (List.forall_mem_singleton.mpr h)]
  simp only [IsChain, exists_eq_right, links_child_iff]

end Descendants

/-! ## Both ways of writing the step -/

/-- Two lists of tokens are read as expressions that give one list of items at every focus: those
that a step links some of the items to start from to. -/
def BothGive (doc : Document) (step : Step Expr) (start : Focus → List Item)
    (ts ts' : List Token) : Prop :=
  ∃ expr expr', Derives ts expr ∧ Derives ts' expr' ∧
    (∀ focus, ∃ items, evaluate doc expr focus = .items items ∧
      evaluate doc expr' focus = .items items ∧
      ∀ b, b ∈ items ↔ ∃ a ∈ start focus, step.Links doc a b) ∧
    ∀ context, selectStrings doc expr context = selectStrings doc expr' context ∧
      selectNodes doc expr context = selectNodes doc expr' context

section Written

variable {doc : Document} {test : NodeTest} {predicates : List Expr}

/-- Both ways of writing the step give the same if both trees take it from the same items. -/
theorem bothGive_of_follows (h : ∀ p ∈ predicates, p.isTest = true) {ts ts' : List Token}
    {expr expr' : Expr} {start : Focus → List Item} (hexpr : Derives ts expr)
    (hexpr' : Derives ts' expr')
    (hvalue : ∀ focus, evaluate doc expr focus = .items (takeStepsFrom doc
      [.toAny .descendantOrSelf, ⟨.child, test, predicates⟩] (start focus)))
    (hvalue' : ∀ focus, evaluate doc expr' focus = .items (takeStepsFrom doc
      [⟨.descendant, test, predicates⟩] (start focus))) :
    BothGive doc ⟨.descendant, test, predicates⟩ start ts ts' := by
  have hsame : ∀ focus, evaluate doc expr focus = evaluate doc expr' focus := by
    intro focus
    rw [hvalue, hvalue', takeStepsFrom_doubleSlash h]
  refine ⟨expr, expr', hexpr, hexpr', fun focus => ?_, fun context => ?_⟩
  · refine ⟨_, (hsame focus).trans (hvalue' focus), hvalue' focus, fun b => ?_⟩
    have hstep : ∀ p ∈ (⟨.descendant, test, predicates⟩ : Step Expr).predicates,
        p.isTest = true := h
    exact mem_takeStep hstep
  · rw [selectStrings, selectStrings, selectNodes, selectNodes, valueAt, valueAt, hsame]
    exact ⟨rfl, rfl⟩

/-- Both ways of writing the step behind an expression that can be followed by steps. -/
theorem bothGive_of_path {us us' : List Token} (htest : Test us test us')
    (hpredicates : Predicates us' predicates []) (h : ∀ p ∈ predicates, p.isTest = true)
    {ts : List Token} {expr : Expr} (hpath : Path ts expr [])
    (hexpr : ts.head? = some .openParen ∨ expr.givesItems = true) (hslash : ts ≠ [.slash]) :
    BothGive doc ⟨.descendant, test, predicates⟩ (fun focus => (evaluate doc expr focus).toItems)
      (ts ++ .doubleSlash :: us) (ts ++ .slash :: .name "descendant" :: .doubleColon :: us) := by
  have hshort : MoreSteps (.doubleSlash :: us)
      [.toAny .descendantOrSelf, ⟨.child, test, predicates⟩] [] :=
    .doubleSlash (.test .absent htest hpredicates) .none
  have hlong : MoreSteps (.slash :: .name "descendant" :: .doubleColon :: us)
      [⟨.descendant, test, predicates⟩] [] :=
    .slash (.test (.named rfl) htest hpredicates) .none
  have hfollowed : ∀ {more : List Token} {new : List (Step Expr)}, MoreSteps more new [] →
      new ≠ [] → ∃ whole, Path (ts ++ more) whole [] ∧ whole.Follows expr new := by
    intro more new hmore hnew
    have hends : Ends Token.startsStep more := hmore.ends (fun t ht => by cases ht) rfl rfl
    refine (hpath.append hends).followed ?_ ?_ hnew hmore
    · exact hexpr.imp_left fun hhead => by rw [List.head?_append, hhead]; rfl
    · exact fun heq => hslash (List.append_cancel_right heq)
  obtain ⟨short, hshortPath, hshortValue⟩ := hfollowed hshort (by simp)
  obtain ⟨long, hlongPath, hlongValue⟩ := hfollowed hlong (by simp)
  exact bothGive_of_follows h (operands_of_path hshortPath _) (operands_of_path hlongPath _)
    (hshortValue doc) (hlongValue doc)

end Written

/-- **A double slash stands for the descendant axis**, up to positions: with predicates that are
tests, `E//t P` and `E/descendant::t P` give the same list, the items that a step on the descendant
axis links the items of `E` to. `E` is in parentheses unless it is a path, or left out. -/
theorem double_slash_is_descendant (doc : Document) {us us' : List Token} {test : NodeTest}
    {predicates : List Expr} (htest : Test us test us')
    (hpredicates : Predicates us' predicates []) (h : ∀ p ∈ predicates, p.isTest = true) :
    let Same := BothGive doc ⟨.descendant, test, predicates⟩
    let items (expr : Expr) (focus : Focus) : List Item := (evaluate doc expr focus).toItems
    let short : List Token := .doubleSlash :: us
    let long : List Token := .slash :: .name "descendant" :: .doubleColon :: us
    (∀ ts expr, Path ts expr [] → expr.givesItems = true → ts ≠ [.slash] →
      Same (items expr) (ts ++ short) (ts ++ long)) ∧
    (∀ ts expr, Derives ts expr →
      Same (items expr) (parens ts ++ short) (parens ts ++ long)) ∧
    Same (fun _ => [.node 0]) short long := by
  refine ⟨?_, ?_, ?_⟩
  · intro ts expr hpath hexpr hslash
    exact bothGive_of_path htest hpredicates h hpath (.inr hexpr) hslash
  · intro ts expr hexpr
    have hpath : Path (parens ts) (filtered expr [] []) [] :=
      .parens (hexpr.append (ends_cons.mpr rfl)) (.predicates .none)
    exact bothGive_of_path htest hpredicates h hpath (.inl rfl) (by simp [parens])
  · have hshort : Path (.doubleSlash :: us)
        (.path true [.toAny .descendantOrSelf, ⟨.child, test, predicates⟩]) [] :=
      .inDocument (.mk (.test .absent htest hpredicates) .none)
    have hlong : Path (.slash :: .name "descendant" :: .doubleColon :: us)
        (.path true [⟨.descendant, test, predicates⟩]) [] :=
      .fromRoot (.mk (.test (.named rfl) htest hpredicates) .none)
    exact bothGive_of_follows h (operands_of_path hshort _) (operands_of_path hlong _)
      (fun _ => by rw [evaluate]; rfl) (fun _ => by rw [evaluate]; rfl)

/-- The rows of tables that have a cell: of a table as it is written, of all tables in
parentheses, and in the document. -/
theorem double_slash_is_descendant_row :
    let doc := Document.ofMarkup [.element "table" [] [.element "tbody" []
      [.element "tr" [] [.element "td" [] [.text "a"]], .element "tr" [] []]]]
    let cell : Expr := .path false [⟨.child, .name "td", []⟩]
    let us : List Token := [.name "tr", .openBracket, .name "td", .closeBracket]
    let table : List Token := [.name "table"]
    let tables : Expr := .path false [⟨.child, .name "table", []⟩]
    Test us (.name "tr") us.tail ∧ Predicates us.tail [cell] [] ∧
      (∀ p ∈ [cell], p.isTest = true) ∧ Path table tables [] ∧
      BothGive doc ⟨.descendant, .name "tr", [cell]⟩
        (fun focus => (evaluate doc tables focus).toItems)
        (table ++ .doubleSlash :: us)
        (table ++ .slash :: .name "descendant" :: .doubleColon :: us) ∧
      BothGive doc ⟨.descendant, .name "tr", [cell]⟩
        (fun focus => (evaluate doc tables focus).toItems)
        (parens table ++ .doubleSlash :: us)
        (parens table ++ .slash :: .name "descendant" :: .doubleColon :: us) ∧
      selectStrings doc (.path false [⟨.child, .name "table", []⟩,
        ⟨.descendant, .name "tr", [cell]⟩]) 0 = ["a"] := by
  intro doc cell us table tables
  have hname : ∀ name rest, Text.lowerLatin name = name →
      Test (.name name :: rest) (.name name) rest :=
    fun name rest hlower => by
      have htest : Test (.name name :: rest) (.name (Text.lowerLatin name)) rest := .name
      rwa [hlower] at htest
  have hpath : ∀ name rest, Text.lowerLatin name = name →
      Path (.name name :: rest) (.path false [⟨.child, .name name, []⟩]) rest :=
    fun name rest hlower => .relative (.mk (.test .absent (hname name rest hlower) .none) .none)
  have htest : Test us (.name "tr") us.tail := hname "tr" _ (by decide)
  have hpredicates : Predicates us.tail [cell] [] :=
    .more (operands_of_path (hpath "td" _ (by decide)) _) .none
  have htables : Path table tables [] := hpath "table" _ (by decide)
  have h : ∀ p ∈ [cell], p.isTest = true := by decide
  have hboth := double_slash_is_descendant doc htest hpredicates h
  exact ⟨htest, hpredicates, h, htables, hboth.1 table tables htables rfl (by decide),
    hboth.2.1 table tables (operands_of_path htables _), by decide +kernel⟩

end Almanac.Selector
