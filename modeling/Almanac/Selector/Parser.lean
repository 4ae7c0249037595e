import Almanac.Remainder
import Almanac.Selector.Expr
import Almanac.Selector.Lexer

/-!
# From tokens to expressions

The grammar, loosest binding first: `or`, `and`, equality, order, union, and then
paths and filters. Binary operators group to the left. Each parser returns what
it read and the lexemes left, which are fewer than before (or, for parsers of what
may be absent, no more); a failure is reported at the first lexeme that cannot go on.
-/

namespace Almanac.Selector

open Almanac.Text

/-! ## Results of parsers -/

/-- Something read off the front of `ts`, and the lexemes left, or why not. -/
abbrev Taken (α : Type) (ts : List Lexeme) : Type := Except Error (α × Shorter ts)

/-- Something that may be absent from the front of `ts`, and the lexemes left. -/
abbrev Optional (α : Type) (ts : List Lexeme) : Type := Except Error (α × NoLonger ts)

/-- The error for lexemes that cannot go on as they do, in an expression of `stop`
characters. -/
def unexpected (stop : Nat) : List Lexeme → Error
  | [] => .unexpectedEnd stop
  | t :: _ => .unexpectedToken t.token t.position

/-- Takes one given token. -/
def expect (stop : Nat) (token : Token) : (ts : List Lexeme) → Taken Unit ts
  | [] => .error (.unexpectedEnd stop)
  | t :: rest =>
    if t.token = token then .ok ((), .tail) else .error (unexpected stop (t :: rest))

/-! ## Parts without expressions in them -/

/-- The levels of binary operators. -/
inductive Level where
  | disjunction
  | conjunction
  | equality
  | order
  deriving Repr, DecidableEq

/-- The levels of binary operators, loosest first. -/
def Level.loosestFirst : List Level := [.disjunction, .conjunction, .equality, .order]

/-- The operator that a token is on a level. -/
def Level.operator? : Level → Token → Option Operator
  | .disjunction, .name "or" => some .or
  | .conjunction, .name "and" => some .and
  | .equality, .equal => some (.compare .equal)
  | .equality, .notEqual => some (.compare .notEqual)
  | .order, .less => some (.compare .less)
  | .order, .lessEqual => some (.compare .lessEqual)
  | .order, .greater => some (.compare .greater)
  | .order, .greaterEqual => some (.compare .greaterEqual)
  | _, _ => none

/-- The node test that a name is when parentheses follow it. -/
def nodeType? (name : String) : Option NodeTest :=
  if name = "text" then some .text else if name = "node" then some .node else none

/-- Whether a step can begin with a token. -/
def Token.startsStep : Token → Bool
  | .name _ | .star | .atSign | .dot | .doubleDot => true
  | _ => false

/-- Whether a step can begin here. -/
def atStepStart : List Lexeme → Bool
  | [] => false
  | t :: _ => t.token.startsStep

/-- The axis that a step names, the child axis if it names none. -/
def takeAxis (ts : List Lexeme) : Optional Axis ts :=
  match ts with
  | ⟨.atSign, _⟩ :: _ => .ok (.attributes, Shorter.tail.toNoLonger)
  | ⟨.name name, position⟩ :: ⟨.doubleColon, _⟩ :: _ =>
    match Axis.ofName? name with
    | some axis => .ok (axis, Shorter.tail.cons.toNoLonger)
    | none => .error (.unknownAxis name position)
  | ts => .ok (.child, .all ts)

/-- A node test: a star, a node type with its parentheses, or a name, of which
Latin capitals are made small. -/
def takeNodeTest (stop : Nat) (ts : List Lexeme) : Taken NodeTest ts :=
  match ts with
  | ⟨.star, _⟩ :: _ => .ok (.any, .tail)
  | ⟨.name name, _⟩ :: ⟨.openParen, _⟩ :: rest =>
    match nodeType? name with
    | some test => do
      let ((), after) ← expect stop .closeParen rest
      return (test, after.cons.cons)
    | none => .ok (.name (lowerLatin name), .tail)
  | ⟨.name name, _⟩ :: _ => .ok (.name (lowerLatin name), .tail)
  | ts => .error (unexpected stop ts)

/-! ## Expressions -/

mutual

/-- Operands joined by the operators of the first level, each of which holds
operands joined by the operators of the levels after it. -/
def takeOperands (stop : Nat) (levels : List Level) (ts : List Lexeme) : Taken Expr ts :=
  match levels with
  | [] => takeUnion stop ts
  | level :: tighter => do
    let (left, rest) ← takeOperands stop tighter ts
    let (whole, after) ← takeOperations stop level tighter left rest.list
    return (whole, rest.trans after)
termination_by (ts.length, 5 + levels.length)
decreasing_by all_goals grind

/-- The operators of a level with the operands right of them, joined to the
expression left of them. -/
def takeOperations (stop : Nat) (level : Level) (tighter : List Level) (left : Expr)
    (ts : List Lexeme) : Optional Expr ts :=
  match ts with
  | [] => .ok (left, .all [])
  | t :: rest =>
    match level.operator? t.token with
    | none => .ok (left, .all (t :: rest))
    | some operator => do
      let (right, rest') ← takeOperands stop tighter rest
      let (whole, after) ←
        takeOperations stop level tighter (.operation operator left right) rest'.list
      return (whole, (rest'.trans after).cons.toNoLonger)
termination_by (ts.length, 0)
decreasing_by all_goals grind

/-- Paths joined by bars; a single path is no union. -/
def takeUnion (stop : Nat) (ts : List Lexeme) : Taken Expr ts := do
  let (first, rest) ← takePath stop ts
  let (more, after) ← takeBranches stop rest.list
  return (if more.isEmpty then first else .union (first :: more), rest.trans after)
termination_by (ts.length, 4)
decreasing_by all_goals grind

/-- Bars with the paths after them. -/
def takeBranches (stop : Nat) (ts : List Lexeme) : Optional (List Expr) ts :=
  match ts with
  | ⟨.bar, _⟩ :: rest => do
    let (branch, rest') ← takePath stop rest
    let (more, after) ← takeBranches stop rest'.list
    return (branch :: more, (rest'.trans after).cons.toNoLonger)
  | ts => .ok ([], .all ts)
termination_by (ts.length, 0)
decreasing_by all_goals grind

/-- A literal, a number, an expression in parentheses or a call with what filters
it, or a location path. -/
def takePath (stop : Nat) (ts : List Lexeme) : Taken Expr ts :=
  match ts with
  | [] => .error (.unexpectedEnd stop)
  | ⟨.literal text, _⟩ :: _ => .ok (.literal text, .tail)
  | ⟨.number value, _⟩ :: _ => .ok (.number value, .tail)
  | ⟨.openParen, _⟩ :: rest => do
    let (inner, rest₁) ← takeOperands stop Level.loosestFirst rest
    let ((), rest₂) ← expect stop .closeParen rest₁.list
    let (whole, after) ← takeFilter stop inner rest₂.list
    return (whole, (rest₁.trans (rest₂.trans after)).cons)
  | ⟨.slash, _⟩ :: rest =>
    if atStepStart rest then do
      let (steps, after) ← takeSteps stop rest
      return (.path true steps, after.cons)
    else .ok (.path true [], .tail)
  | ⟨.doubleSlash, _⟩ :: rest => do
    let (steps, after) ← takeSteps stop rest
    return (.path true (Step.toAny .descendantOrSelf :: steps), after.cons)
  | ⟨.name name, position⟩ :: ⟨.openParen, p⟩ :: rest =>
    if (nodeType? name).isSome then do
      let (steps, after) ← takeSteps stop (⟨.name name, position⟩ :: ⟨.openParen, p⟩ :: rest)
      return (.path false steps, after)
    else
      match Function.ofName? name with
      | none => .error (.unknownFunction name position)
      | some function => do
        let (arguments, rest') ← takeArguments stop rest
        if function.takes arguments.length then do
          let (whole, after) ← takeFilter stop (.call function arguments) rest'.list
          return (whole, (rest'.trans after).cons.cons)
        else .error (.wrongArity name arguments.length)
  | t :: rest =>
    if t.token.startsStep then do
      let (steps, after) ← takeSteps stop (t :: rest)
      return (.path false steps, after)
    else .error (unexpected stop (t :: rest))
termination_by (ts.length, 3)
decreasing_by all_goals grind

/-- Predicates and steps behind an expression, which is left as it is when there
are none. -/
def takeFilter (stop : Nat) (base : Expr) (ts : List Lexeme) : Optional Expr ts := do
  let (predicates, rest) ← takePredicates stop ts
  let (steps, after) ← takeMoreSteps stop rest.list
  return (if predicates.isEmpty && steps.isEmpty then base else .filter base predicates steps,
    rest.trans after)
termination_by (ts.length, 2)
decreasing_by all_goals grind

/-- Steps with a slash or double slash between each two. -/
def takeSteps (stop : Nat) (ts : List Lexeme) : Taken (List (Step Expr)) ts := do
  let (first, rest) ← takeStep stop ts
  let (more, after) ← takeMoreSteps stop rest.list
  return (first :: more, rest.trans after)
termination_by (ts.length, 2)
decreasing_by all_goals grind

/-- Slashes and double slashes with the steps after them. -/
def takeMoreSteps (stop : Nat) (ts : List Lexeme) : Optional (List (Step Expr)) ts :=
  match ts with
  | ⟨.slash, _⟩ :: rest => do
    let (step, rest') ← takeStep stop rest
    let (more, after) ← takeMoreSteps stop rest'.list
    return (step :: more, (rest'.trans after).cons.toNoLonger)
  | ⟨.doubleSlash, _⟩ :: rest => do
    let (step, rest') ← takeStep stop rest
    let (more, after) ← takeMoreSteps stop rest'.list
    return (Step.toAny .descendantOrSelf :: step :: more, (rest'.trans after).cons.toNoLonger)
  | ts => .ok ([], .all ts)
termination_by (ts.length, 0)
decreasing_by all_goals grind

/-- A step: a dot, two dots, or an axis, a node test and predicates. -/
def takeStep (stop : Nat) (ts : List Lexeme) : Taken (Step Expr) ts :=
  match ts with
  | ⟨.dot, _⟩ :: _ => .ok (Step.toAny .itself, .tail)
  | ⟨.doubleDot, _⟩ :: _ => .ok (Step.toAny .parent, .tail)
  | ts => do
    let (axis, rest₁) ← takeAxis ts
    let (test, rest₂) ← takeNodeTest stop rest₁.list
    let (predicates, after) ← takePredicates stop rest₂.list
    return (⟨axis, test, predicates⟩, rest₁.transShorter (rest₂.trans after))
termination_by (ts.length, 1)
decreasing_by all_goals grind

/-- Expressions in brackets. -/
def takePredicates (stop : Nat) (ts : List Lexeme) : Optional (List Expr) ts :=
  match ts with
  | ⟨.openBracket, _⟩ :: rest => do
    let (predicate, rest₁) ← takeOperands stop Level.loosestFirst rest
    let ((), rest₂) ← expect stop .closeBracket rest₁.list
    let (more, after) ← takePredicates stop rest₂.list
    return (predicate :: more, (rest₁.trans (rest₂.trans after)).cons.toNoLonger)
  | ts => .ok ([], .all ts)
termination_by (ts.length, 0)
decreasing_by all_goals grind

/-- The arguments of a call, up to its closing parenthesis. -/
def takeArguments (stop : Nat) (ts : List Lexeme) : Taken (List Expr) ts :=
  match ts with
  | ⟨.closeParen, _⟩ :: _ => .ok ([], .tail)
  | ts => do
    let (first, rest) ← takeOperands stop Level.loosestFirst ts
    let (more, after) ← takeMoreArguments stop rest.list
    return (first :: more, rest.trans after)
termination_by (ts.length, 6 + Level.loosestFirst.length)
decreasing_by all_goals grind

/-- The arguments after the first: a closing parenthesis, or a comma and an
argument. -/
def takeMoreArguments (stop : Nat) (ts : List Lexeme) : Taken (List Expr) ts :=
  match ts with
  | ⟨.closeParen, _⟩ :: _ => .ok ([], .tail)
  | ⟨.comma, _⟩ :: rest => do
    let (argument, rest') ← takeOperands stop Level.loosestFirst rest
    let (more, after) ← takeMoreArguments stop rest'.list
    return (argument :: more, (rest'.trans after).cons)
  | ts => .error (unexpected stop ts)
termination_by (ts.length, 0)
decreasing_by all_goals grind

end

/-- The expression that all lexemes make up. -/
def parse (stop : Nat) (ts : List Lexeme) : Except Error Expr :=
  if ts.isEmpty then .error .empty
  else do
    let (expr, rest) ← takeOperands stop Level.loosestFirst ts
    if rest.list.isEmpty then return expr else .error (unexpected stop rest.list)

/-- The expression that a text is. -/
def compile (source : String) : Except Error Expr := do
  parse source.toList.length (← lex source)

end Almanac.Selector
