import Almanac.Selector.Parser

/-!
# The grammar of selector expressions

The grammar is a relation between the tokens at hand, the tree that is read off their
front and the tokens left. A repetition may end at any point, so that the relation says
which readings there are and not which of them is taken:

* `Or = And ('or' And)*`, `And = Equ ('and' Equ)*`, `Equ = Rel (('=' | '!=') Rel)*` and
  `Rel = Un (('<' | '<=' | '>' | '>=') Un)*` are `Operands`, by their levels;
* `Un = P ('|' P)*` is `Alternatives`;
* `P = literal | number | '(' Or ')' Tail | function '(' [Or (',' Or)*] ')' Tail |
  '/' [Steps] | '//' Steps | Steps` is `Path`;
* `Tail = ('[' Or ']')* [('/' | '//') Steps]` is `Tail`;
* `Steps = Step (('/' | '//') Step)*` is `Steps`;
* `Step = '.' | '..' | ['@' | axis '::'] Test ('[' Or ']')*` is `OneStep`;
* `Test = '*' | ('text' | 'node') '(' ')' | name` is `Test`.

A tree is derived from tokens when it is read off them and none are left (`Derives`).
-/

namespace Almanac.Selector.Grammar

open Almanac.Text

/-! ## Parts without expressions in them -/

/-- The operators of the levels. -/
inductive Joins : Level → Token → Operator → Prop
  | or : Joins .disjunction (.name "or") .or
  | and : Joins .conjunction (.name "and") .and
  | equal : Joins .equality .equal (.compare .equal)
  | notEqual : Joins .equality .notEqual (.compare .notEqual)
  | less : Joins .order .less (.compare .less)
  | lessEqual : Joins .order .lessEqual (.compare .lessEqual)
  | greater : Joins .order .greater (.compare .greater)
  | greaterEqual : Joins .order .greaterEqual (.compare .greaterEqual)

/-- The axis of a step. -/
inductive Direction : List Token → Axis → List Token → Prop
  | absent {rest : List Token} : Direction rest .child rest
  | atSign {rest : List Token} : Direction (.atSign :: rest) .attributes rest
  | named {name : String} {axis : Axis} {rest : List Token} : Axis.ofName? name = some axis →
      Direction (.name name :: .doubleColon :: rest) axis rest

/-- The node test of a step. -/
inductive Test : List Token → NodeTest → List Token → Prop
  | any {rest : List Token} : Test (.star :: rest) .any rest
  | text {rest : List Token} : Test (.name "text" :: .openParen :: .closeParen :: rest) .text rest
  | node {rest : List Token} : Test (.name "node" :: .openParen :: .closeParen :: rest) .node rest
  | name {name : String} {rest : List Token} :
      Test (.name name :: rest) (.name (lowerLatin name)) rest

/-! ## Trees -/

/-- Operands joined by operators, which group to the left. -/
def joined (left : Expr) (chain : List (Operator × Expr)) : Expr :=
  chain.foldl (fun whole (operator, right) => .operation operator whole right) left

/-- An expression with what filters it, if anything does. -/
def filtered (base : Expr) (predicates : List Expr) (steps : List (Step Expr)) : Expr :=
  if predicates.isEmpty && steps.isEmpty then base else .filter base predicates steps

/-! ## Expressions -/

mutual

/-- Operands joined by the operators of the first level, each of which holds operands
joined by the operators of the levels after it. -/
inductive Operands : List Level → List Token → Expr → List Token → Prop
  | alternatives {ts rest : List Token} {expr : Expr} : Alternatives ts expr rest →
      Operands [] ts expr rest
  | joined {level : Level} {tighter : List Level} {ts between rest : List Token} {left : Expr}
      {chain : List (Operator × Expr)} : Operands tighter ts left between →
      Operations level tighter between chain rest →
      Operands (level :: tighter) ts (joined left chain) rest

/-- The operators of a level with the operands right of them. -/
inductive Operations :
    Level → List Level → List Token → List (Operator × Expr) → List Token → Prop
  | none {level : Level} {tighter : List Level} {rest : List Token} :
      Operations level tighter rest [] rest
  | more {level : Level} {tighter : List Level} {t : Token} {ts between rest : List Token}
      {operator : Operator} {right : Expr} {chain : List (Operator × Expr)} :
      Joins level t operator → Operands tighter ts right between →
      Operations level tighter between chain rest →
      Operations level tighter (t :: ts) ((operator, right) :: chain) rest

/-- A path, or a union of two paths or more. -/
inductive Alternatives : List Token → Expr → List Token → Prop
  | one {ts rest : List Token} {expr : Expr} : Path ts expr rest → Alternatives ts expr rest
  | many {ts between rest : List Token} {first second : Expr} {more : List Expr} :
      Path ts first between → Branches between (second :: more) rest →
      Alternatives ts (.union (first :: second :: more)) rest

/-- Bars with the paths after them. -/
inductive Branches : List Token → List Expr → List Token → Prop
  | none {rest : List Token} : Branches rest [] rest
  | more {ts between rest : List Token} {branch : Expr} {more : List Expr} :
      Path ts branch between → Branches between more rest →
      Branches (.bar :: ts) (branch :: more) rest

/-- A literal, a number, an expression in parentheses or a call with what filters it, or a
location path. A slash is a path by itself only where no step can begin behind it. -/
inductive Path : List Token → Expr → List Token → Prop
  | literal {text : String} {rest : List Token} :
      Path (.literal text :: rest) (.literal text) rest
  | number {value : Number} {rest : List Token} :
      Path (.number value :: rest) (.number value) rest
  | parens {ts between rest : List Token} {inner : Expr} {predicates : List Expr}
      {steps : List (Step Expr)} :
      Operands Level.loosestFirst ts inner (.closeParen :: between) →
      Tail between predicates steps rest →
      Path (.openParen :: ts) (filtered inner predicates steps) rest
  | call {name : String} {function : Function} {ts between rest : List Token}
      {arguments predicates : List Expr} {steps : List (Step Expr)} :
      name ≠ "text" → name ≠ "node" → Function.ofName? name = some function →
      Arguments ts arguments between → function.takes arguments.length = true →
      Tail between predicates steps rest →
      Path (.name name :: .openParen :: ts) (filtered (.call function arguments) predicates steps)
        rest
  | root {rest : List Token} : (∀ t ∈ rest.head?, t.startsStep = false) →
      Path (.slash :: rest) (.path true []) rest
  | fromRoot {ts rest : List Token} {steps : List (Step Expr)} : Steps ts steps rest →
      Path (.slash :: ts) (.path true steps) rest
  | inDocument {ts rest : List Token} {steps : List (Step Expr)} : Steps ts steps rest →
      Path (.doubleSlash :: ts) (.path true (.toAny .descendantOrSelf :: steps)) rest
  | relative {ts rest : List Token} {steps : List (Step Expr)} : Steps ts steps rest →
      Path ts (.path false steps) rest

/-- Predicates and steps behind an expression. -/
inductive Tail : List Token → List Expr → List (Step Expr) → List Token → Prop
  | predicates {ts rest : List Token} {predicates : List Expr} : Predicates ts predicates rest →
      Tail ts predicates [] rest
  | slash {ts between rest : List Token} {predicates : List Expr} {steps : List (Step Expr)} :
      Predicates ts predicates (.slash :: between) → Steps between steps rest →
      Tail ts predicates steps rest
  | doubleSlash {ts between rest : List Token} {predicates : List Expr}
      {steps : List (Step Expr)} :
      Predicates ts predicates (.doubleSlash :: between) → Steps between steps rest →
      Tail ts predicates (.toAny .descendantOrSelf :: steps) rest

/-- Steps with a slash or double slash between each two. -/
inductive Steps : List Token → List (Step Expr) → List Token → Prop
  | mk {ts between rest : List Token} {step : Step Expr} {more : List (Step Expr)} :
      OneStep ts step between → MoreSteps between more rest → Steps ts (step :: more) rest

/-- Slashes and double slashes with the steps after them. -/
inductive MoreSteps : List Token → List (Step Expr) → List Token → Prop
  | none {rest : List Token} : MoreSteps rest [] rest
  | slash {ts between rest : List Token} {step : Step Expr} {more : List (Step Expr)} :
      OneStep ts step between → MoreSteps between more rest →
      MoreSteps (.slash :: ts) (step :: more) rest
  | doubleSlash {ts between rest : List Token} {step : Step Expr} {more : List (Step Expr)} :
      OneStep ts step between → MoreSteps between more rest →
      MoreSteps (.doubleSlash :: ts) (.toAny .descendantOrSelf :: step :: more) rest

/-- A dot, two dots, or an axis, a node test and predicates. -/
inductive OneStep : List Token → Step Expr → List Token → Prop
  | dot {rest : List Token} : OneStep (.dot :: rest) (.toAny .itself) rest
  | doubleDot {rest : List Token} : OneStep (.doubleDot :: rest) (.toAny .parent) rest
  | test {ts ts₁ ts₂ rest : List Token} {axis : Axis} {test : NodeTest} {predicates : List Expr} :
      Direction ts axis ts₁ → Test ts₁ test ts₂ → Predicates ts₂ predicates rest →
      OneStep ts ⟨axis, test, predicates⟩ rest

/-- Expressions in brackets. -/
inductive Predicates : List Token → List Expr → List Token → Prop
  | none {rest : List Token} : Predicates rest [] rest
  | more {ts between rest : List Token} {predicate : Expr} {more : List Expr} :
      Operands Level.loosestFirst ts predicate (.closeBracket :: between) →
      Predicates between more rest → Predicates (.openBracket :: ts) (predicate :: more) rest

/-- The arguments of a call, up to its closing parenthesis. -/
inductive Arguments : List Token → List Expr → List Token → Prop
  | none {rest : List Token} : Arguments (.closeParen :: rest) [] rest
  | some {ts between rest : List Token} {first : Expr} {more : List Expr} :
      Operands Level.loosestFirst ts first between → MoreArguments between more rest →
      Arguments ts (first :: more) rest

/-- Commas with the arguments after them, up to the closing parenthesis. -/
inductive MoreArguments : List Token → List Expr → List Token → Prop
  | none {rest : List Token} : MoreArguments (.closeParen :: rest) [] rest
  | more {ts between rest : List Token} {argument : Expr} {more : List Expr} :
      Operands Level.loosestFirst ts argument between → MoreArguments between more rest →
      MoreArguments (.comma :: ts) (argument :: more) rest

end

/-- **The tree of an expression** is derived from all its tokens. -/
def Derives (ts : List Token) (expr : Expr) : Prop := Operands Level.loosestFirst ts expr []

/-! ## Operators -/

theorem joins_iff {level : Level} {t : Token} {operator : Operator} :
    Joins level t operator ↔ level.operator? t = some operator := by
  constructor
  · rintro ⟨⟩ <;> rfl
  · intro h
    rw [Level.operator?.eq_def] at h
    split at h <;> cases h <;> constructor

/-- A token is an operator on one level. -/
theorem Joins.level_eq {level other : Level} {t : Token} {operator operator' : Operator}
    (h : Joins level t operator) (h' : Joins other t operator') : level = other := by
  generalize hu : t = u at h'
  cases h <;> cases h' <;> first | rfl | simp at hu

/-! ## Repetitions -/

theorem Branches.eq_of_nil {ts rest : List Token} (h : Branches ts [] rest) : ts = rest := by
  cases h
  rfl

/-- What filters an expression, read as predicates and then slashes with steps. -/
theorem Tail.of_moreSteps {ts between rest : List Token} {predicates : List Expr}
    {steps : List (Step Expr)} (h : Predicates ts predicates between)
    (hsteps : MoreSteps between steps rest) : Tail ts predicates steps rest := by
  cases hsteps with
  | none => exact .predicates h
  | slash hstep hmore => exact .slash h (.mk hstep hmore)
  | doubleSlash hstep hmore => exact .doubleSlash h (.mk hstep hmore)

/-! ## First tokens -/

theorem Test.startsStep {ts rest : List Token} {test : NodeTest} (h : Test ts test rest) :
    ∃ t after, ts = t :: after ∧ t.startsStep = true := by
  cases h <;> exact ⟨_, _, rfl, rfl⟩

theorem OneStep.startsStep {ts rest : List Token} {step : Step Expr} (h : OneStep ts step rest) :
    ∃ t after, ts = t :: after ∧ t.startsStep = true := by
  cases h with
  | dot | doubleDot => exact ⟨_, _, rfl, rfl⟩
  | test hdirection htest _ =>
    cases hdirection with
    | absent => exact htest.startsStep
    | atSign | named _ => exact ⟨_, _, rfl, rfl⟩

/-- The tokens that no slash can stand alone before are those that some step begins with. -/
theorem startsStep_iff {t : Token} :
    t.startsStep = true ↔ ∃ ts step rest, OneStep (t :: ts) step rest := by
  constructor
  · intro h
    cases t with
    | name text => exact ⟨[], _, [], .test .absent .name .none⟩
    | star => exact ⟨[], _, [], .test .absent .any .none⟩
    | atSign => exact ⟨[.star], _, [], .test .atSign .any .none⟩
    | dot => exact ⟨[], _, [], .dot⟩
    | doubleDot => exact ⟨[], _, [], .doubleDot⟩
    | _ => cases h
  · rintro ⟨ts, step, rest, h⟩
    obtain ⟨_, _, heq, ht⟩ := h.startsStep
    cases heq
    exact ht

theorem Steps.startsStep {ts rest : List Token} {steps : List (Step Expr)}
    (h : Steps ts steps rest) : ∃ t after, ts = t :: after ∧ t.startsStep = true := by
  cases h with
  | mk hstep _ => exact hstep.startsStep

theorem Path.head?_ne {ts rest : List Token} {expr : Expr} (h : Path ts expr rest) :
    ts.head? ≠ some .closeParen := by
  cases h with
  | relative hsteps =>
    obtain ⟨t, after, rfl, ht⟩ := hsteps.startsStep
    rintro ⟨⟩
    cases ht
  | _ => rintro ⟨⟩

/-- No expression begins with a closing parenthesis. -/
theorem Operands.head?_ne : ∀ {levels : List Level} {ts rest : List Token} {expr : Expr},
    Operands levels ts expr rest → ts.head? ≠ some .closeParen
  | _, _, _, _, .alternatives (.one h) => h.head?_ne
  | _, _, _, _, .alternatives (.many h _) => h.head?_ne
  | _, _, _, _, .joined h _ => h.head?_ne

end Almanac.Selector.Grammar
