import Almanac.Proofs.Selector.Lexing
import Almanac.Proofs.Selector.ParserComplete

/-!
# Renderings of selector expressions

An expression is rendered with its axes in full, parentheses around what is filtered and around
operands and branches, and single spaces between its tokens (`Expr.render`). The trees that
compiling gives are those of `Printable`: of a union there are two branches or more, something
is filtered by something, a relative path has steps. From the tokens of such a tree the grammar
derives it (`Printable.derives`), and the parser gives nothing else. So an expression compiles
to itself when it is rendered, if its numbers are small and whole (`compile_render`).
-/

namespace Almanac.Selector

open Text Grammar

/-! ## Tokens of trees -/

/-- The token of an operator. -/
def Operator.token : Operator → Token
  | or => .name "or"
  | and => .name "and"
  | compare .equal => .equal
  | compare .notEqual => .notEqual
  | compare .less => .less
  | compare .lessEqual => .lessEqual
  | compare .greater => .greater
  | compare .greaterEqual => .greaterEqual

/-- The level of an operator. -/
def Operator.level : Operator → Level
  | or => .disjunction
  | and => .conjunction
  | compare .equal | compare .notEqual => .equality
  | compare .less | compare .lessEqual | compare .greater | compare .greaterEqual => .order

/-- The tokens of a node test. -/
def NodeTest.tokens : NodeTest → List Token
  | name asked => [.name asked]
  | any => [.star]
  | text => [.name "text", .openParen, .closeParen]
  | node => [.name "node", .openParen, .closeParen]

/-- Tokens in parentheses. -/
def parens (ts : List Token) : List Token := .openParen :: (ts ++ [.closeParen])

/-- Tokens in brackets. -/
def brackets (ts : List Token) : List Token := .openBracket :: (ts ++ [.closeBracket])

/-- Parts with a separator between each two. -/
def separated (separator : Token) : List (List Token) → List Token
  | [] => []
  | first :: more => first ++ more.flatMap (separator :: ·)

mutual

/-- The tokens of an expression. -/
def Expr.tokens : Expr → List Token
  | .operation operator left right =>
    parens left.tokens ++ operator.token :: parens right.tokens
  | .union branches => separated .bar ((tokensOfAll branches).map parens)
  | .path absolute steps =>
    (if absolute then [.slash] else []) ++ separated .slash (tokensOfSteps steps)
  | .filter base predicates steps =>
    parens base.tokens ++ (tokensOfAll predicates).flatMap brackets ++
      (tokensOfSteps steps).flatMap (.slash :: ·)
  | .literal text => [.literal text]
  | .number value => [.number value]
  | .call function arguments =>
    .name function.name :: parens (separated .comma (tokensOfAll arguments))

def tokensOfAll : List Expr → List (List Token)
  | [] => []
  | expr :: more => expr.tokens :: tokensOfAll more

def tokensOfSteps : List (Step Expr) → List (List Token)
  | [] => []
  | step :: more => tokensOfStep step :: tokensOfSteps more

def tokensOfStep : Step Expr → List Token
  | ⟨axis, test, predicates⟩ =>
    .name axis.name :: .doubleColon :: (test.tokens ++ (tokensOfAll predicates).flatMap brackets)

end

/-- The text of an expression. -/
def Expr.render (expr : Expr) : String := String.ofList (spaced expr.tokens)

mutual

/-- The numbers in an expression. -/
def Expr.numbers : Expr → List Number
  | .operation _ left right => left.numbers ++ right.numbers
  | .union branches => numbersOfAll branches
  | .path _ steps => numbersOfSteps steps
  | .filter base predicates steps =>
    base.numbers ++ numbersOfAll predicates ++ numbersOfSteps steps
  | .literal _ => []
  | .number value => [value]
  | .call _ arguments => numbersOfAll arguments

def numbersOfAll : List Expr → List Number
  | [] => []
  | expr :: more => expr.numbers ++ numbersOfAll more

def numbersOfSteps : List (Step Expr) → List Number
  | [] => []
  | step :: more => numbersOfStep step ++ numbersOfSteps more

def numbersOfStep : Step Expr → List Number
  | ⟨_, _, predicates⟩ => numbersOfAll predicates

end

theorem tokensOfAll_eq (exprs : List Expr) : tokensOfAll exprs = exprs.map Expr.tokens := by
  induction exprs with
  | nil => rfl
  | cons expr exprs ih => rw [tokensOfAll, List.map_cons, ih]

theorem tokensOfSteps_eq (steps : List (Step Expr)) :
    tokensOfSteps steps = steps.map tokensOfStep := by
  induction steps with
  | nil => rfl
  | cons step steps ih => rw [tokensOfSteps, List.map_cons, ih]

theorem numbersOfAll_eq (exprs : List Expr) : numbersOfAll exprs = exprs.flatMap Expr.numbers := by
  induction exprs with
  | nil => rfl
  | cons expr exprs ih => rw [numbersOfAll, List.flatMap_cons, ih]

theorem numbersOfSteps_eq (steps : List (Step Expr)) :
    numbersOfSteps steps = steps.flatMap fun step => step.predicates.flatMap Expr.numbers := by
  induction steps with
  | nil => rfl
  | cons step steps ih => rw [numbersOfSteps, numbersOfStep, numbersOfAll_eq, List.flatMap_cons, ih]

/-! ## Trees of expressions -/

/-- A node test of an expression: a name has only small Latin letters. -/
def NodeTest.IsLexical : NodeTest → Prop
  | name asked => isNameText asked.toList = true ∧ lowerLatin asked = asked
  | _ => True

/-- The trees of expressions. -/
inductive Printable : Expr → Prop
  | operation {operator : Operator} {left right : Expr} : Printable left → Printable right →
      Printable (.operation operator left right)
  | union {first second : Expr} {more : List Expr} :
      (∀ branch ∈ first :: second :: more, Printable branch) →
      Printable (.union (first :: second :: more))
  | path {absolute : Bool} {steps : List (Step Expr)} : (absolute = true ∨ steps ≠ []) →
      (∀ step ∈ steps, step.test.IsLexical) →
      (∀ step ∈ steps, ∀ predicate ∈ step.predicates, Printable predicate) →
      Printable (.path absolute steps)
  | filter {base : Expr} {predicates : List Expr} {steps : List (Step Expr)} :
      (predicates ≠ [] ∨ steps ≠ []) → Printable base →
      (∀ predicate ∈ predicates, Printable predicate) →
      (∀ step ∈ steps, step.test.IsLexical) →
      (∀ step ∈ steps, ∀ predicate ∈ step.predicates, Printable predicate) →
      Printable (.filter base predicates steps)
  | literal {text : String} : (Token.literal text).IsLexical → Printable (.literal text)
  | number {value : Number} : value.IsHeld → Printable (.number value)
  | call {function : Function} {arguments : List Expr} :
      function.takes arguments.length = true →
      (∀ argument ∈ arguments, Printable argument) → Printable (.call function arguments)

/-! ## From trees to tokens and back -/

theorem axis_ofName?_name (axis : Axis) : Axis.ofName? axis.name = some axis := by
  cases axis <;> decide

theorem function_ofName?_name (function : Function) :
    Function.ofName? function.name = some function := by
  cases function <;> decide

/-- No function has the name of a type of nodes. -/
theorem function_name_ne (function : Function) :
    function.name ≠ "text" ∧ function.name ≠ "node" := by
  cases function <;> decide

/-- The token of an operator joins operands on the level of the operator. -/
theorem joins_token (operator : Operator) : Joins operator.level operator.token operator := by
  cases operator with
  | or => exact .or
  | and => exact .and
  | compare comparison => cases comparison <;> constructor

theorem level_mem (operator : Operator) : operator.level ∈ Level.loosestFirst := by
  cases operator with
  | or | and => decide
  | compare comparison => cases comparison <;> decide

/-- What is read as operands of no level is read as operands of all levels. -/
theorem operands_of_nil {ts rest : List Token} {expr : Expr} (h : Operands [] ts expr rest)
    (levels : List Level) : Operands levels ts expr rest := by
  induction levels with
  | nil => exact h
  | cons level levels ih => exact .joined ih .none

theorem operands_of_path {ts rest : List Token} {expr : Expr} (h : Path ts expr rest)
    (levels : List Level) : Operands levels ts expr rest :=
  operands_of_nil (.alternatives (.one h)) levels

theorem filtered_nil (base : Expr) : filtered base [] [] = base := rfl

/-- One operator with a path on each side. -/
theorem operands_of_joins {level : Level} {t : Token} {operator : Operator}
    {ts between rest : List Token} {left right : Expr} (hjoins : Joins level t operator)
    (hleft : Path ts left (t :: between)) (hright : Path between right rest) {levels : List Level}
    (hlevel : level ∈ levels) : Operands levels ts (.operation operator left right) rest := by
  induction levels with
  | nil => cases hlevel
  | cons first tighter ih =>
    by_cases heq : level = first
    · subst heq
      exact .joined (operands_of_path hleft tighter)
        (.more hjoins (operands_of_path hright tighter) .none)
    · exact .joined (ih ((List.mem_cons.mp hlevel).resolve_left heq)) .none

/-- Whether a tree is read off its tokens, in front of what ends it. -/
def IsRead (expr : Expr) : Prop :=
  ∀ rest : List Token, (∀ t ∈ rest.head?, t.startsStep = false) →
    Operands Level.loosestFirst (expr.tokens ++ rest) expr rest

/-- In parentheses a tree is read whatever is behind it. -/
theorem IsRead.parens {expr : Expr} (h : IsRead expr) (rest : List Token) :
    Path (parens expr.tokens ++ rest) expr rest := by
  have hclosed := h (.closeParen :: rest) (by rintro t ⟨⟩; rfl)
  have hpath : Path _ (filtered expr [] []) rest := .parens hclosed (.predicates .none)
  simpa [Selector.parens, filtered_nil] using hpath

/-- Trees that are read are read in brackets, as predicates. -/
theorem predicates_of_isRead {predicates : List Expr}
    (h : ∀ predicate ∈ predicates, IsRead predicate) (rest : List Token) :
    Predicates ((predicates.map Expr.tokens).flatMap brackets ++ rest) predicates rest := by
  induction predicates with
  | nil => exact .none
  | cons predicate predicates ih =>
    obtain ⟨hpredicate, hmore⟩ := List.forall_mem_cons.mp h
    have hclosed := hpredicate (.closeBracket ::
      ((predicates.map Expr.tokens).flatMap brackets ++ rest)) (by rintro t ⟨⟩; rfl)
    have hpredicates := Predicates.more hclosed (ih hmore)
    simpa [brackets] using hpredicates

theorem test_tokens {test : NodeTest} (h : test.IsLexical) (rest : List Token) :
    Test (test.tokens ++ rest) test rest := by
  cases test with
  | name asked =>
    have hname : Test (.name asked :: rest) (.name (lowerLatin asked)) rest := .name
    rwa [h.2] at hname
  | any => exact .any
  | text => exact .text
  | node => exact .node

theorem oneStep_tokens {step : Step Expr} (htest : step.test.IsLexical)
    (h : ∀ predicate ∈ step.predicates, IsRead predicate) (rest : List Token) :
    OneStep (tokensOfStep step ++ rest) step rest := by
  obtain ⟨axis, test, predicates⟩ := step
  have hstep := OneStep.test (.named (axis_ofName?_name axis)) (test_tokens htest _)
    (predicates_of_isRead h rest)
  simpa [tokensOfStep, tokensOfAll_eq] using hstep

section Steps

variable {steps : List (Step Expr)} (htests : ∀ step ∈ steps, step.test.IsLexical)
  (h : ∀ step ∈ steps, ∀ predicate ∈ step.predicates, IsRead predicate)
include htests h

theorem moreSteps_tokens (rest : List Token) :
    MoreSteps ((steps.map tokensOfStep).flatMap (.slash :: ·) ++ rest) steps rest := by
  induction steps with
  | nil => exact .none
  | cons step steps ih =>
    obtain ⟨htest, htests⟩ := List.forall_mem_cons.mp htests
    obtain ⟨hstep, hsteps⟩ := List.forall_mem_cons.mp h
    have hmore := MoreSteps.slash (oneStep_tokens htest hstep _) (ih htests hsteps)
    simpa using hmore

/-- Steps are read off their tokens with slashes between them. -/
theorem steps_tokens (hne : steps ≠ []) (rest : List Token) :
    Steps (separated .slash (steps.map tokensOfStep) ++ rest) steps rest := by
  obtain ⟨step, steps, rfl⟩ := List.ne_nil_iff_exists_cons.mp hne
  obtain ⟨htest, htests⟩ := List.forall_mem_cons.mp htests
  obtain ⟨hstep, hsteps⟩ := List.forall_mem_cons.mp h
  have hmore := Steps.mk (oneStep_tokens htest hstep _) (moreSteps_tokens htests hsteps rest)
  simpa [separated] using hmore

end Steps

/-- Branches behind the first are read in parentheses with a bar before each. -/
theorem branches_of_isRead {branches : List Expr} (h : ∀ branch ∈ branches, IsRead branch)
    (rest : List Token) :
    Branches ((branches.map fun branch => parens branch.tokens).flatMap (.bar :: ·) ++ rest)
      branches rest := by
  induction branches with
  | nil => exact .none
  | cons branch branches ih =>
    obtain ⟨hbranch, hmore⟩ := List.forall_mem_cons.mp h
    have hbranches := Branches.more (hbranch.parens _) (ih hmore)
    simpa using hbranches

/-- Behind an argument stands a comma or the closing parenthesis. -/
theorem not_startsStep_moreArguments (arguments : List Expr) (rest : List Token) :
    ∀ t ∈ ((arguments.map Expr.tokens).flatMap (Token.comma :: ·) ++ .closeParen :: rest).head?,
      t.startsStep = false := by
  cases arguments <;> rintro t ⟨⟩ <;> rfl

theorem moreArguments_of_isRead {arguments : List Expr}
    (h : ∀ argument ∈ arguments, IsRead argument) (rest : List Token) :
    MoreArguments ((arguments.map Expr.tokens).flatMap (.comma :: ·) ++ .closeParen :: rest)
      arguments rest := by
  induction arguments with
  | nil => exact .none
  | cons argument arguments ih =>
    obtain ⟨hargument, hmore⟩ := List.forall_mem_cons.mp h
    have harguments := MoreArguments.more
      (hargument _ (not_startsStep_moreArguments arguments rest)) (ih hmore)
    simpa using harguments

theorem arguments_of_isRead {arguments : List Expr}
    (h : ∀ argument ∈ arguments, IsRead argument) (rest : List Token) :
    Arguments (separated .comma (arguments.map Expr.tokens) ++ .closeParen :: rest)
      arguments rest := by
  cases arguments with
  | nil => exact .none
  | cons argument arguments =>
    obtain ⟨hargument, hmore⟩ := List.forall_mem_cons.mp h
    have harguments := Arguments.some (hargument _ (not_startsStep_moreArguments arguments rest))
      (moreArguments_of_isRead hmore rest)
    simpa [separated] using harguments

/-- A tree is read off its tokens. -/
theorem Printable.isRead {expr : Expr} (h : Printable expr) : IsRead expr := by
  induction h with
  | @operation operator left right _ _ hleft hright =>
    intro rest _
    have hoperands := operands_of_joins (joins_token operator) (hleft.parens _)
      (hright.parens rest) (level_mem operator)
    simpa [Expr.tokens] using hoperands
  | @union first second more _ ih =>
    intro rest _
    obtain ⟨hfirst, hmore⟩ := List.forall_mem_cons.mp ih
    have hunion := operands_of_nil (.alternatives (.many (hfirst.parens _)
      (branches_of_isRead hmore rest))) Level.loosestFirst
    simpa [Expr.tokens, tokensOfAll_eq, separated, Function.comp_def] using hunion
  | @path absolute steps hpath htests _ ih =>
    intro rest hends
    refine operands_of_path ?_ _
    rw [Expr.tokens, tokensOfSteps_eq]
    cases absolute with
    | false =>
      have hne : steps ≠ [] := hpath.resolve_left Bool.false_ne_true
      exact .relative (steps_tokens htests ih hne rest)
    | true =>
      by_cases hne : steps = []
      -- only a slash by itself depends on what stands behind it
      · subst hne
        exact .root hends
      · exact .fromRoot (steps_tokens htests ih hne rest)
  | @filter base predicates steps hfilter _ _ htests _ hbase hpredicates hsteps =>
    intro rest _
    refine operands_of_path ?_ _
    have hbase := hbase (.closeParen :: ((predicates.map Expr.tokens).flatMap brackets ++
      ((steps.map tokensOfStep).flatMap (.slash :: ·) ++ rest))) (by rintro t ⟨⟩; rfl)
    have htail := Tail.of_moreSteps (predicates_of_isRead hpredicates _)
      (moreSteps_tokens htests hsteps rest)
    have hfiltered : filtered base predicates steps = .filter base predicates steps := by
      refine if_neg ?_
      rw [Bool.and_eq_true, List.isEmpty_iff, List.isEmpty_iff]
      rintro ⟨hp, hs⟩
      exact hfilter.elim (· hp) (· hs)
    have hpath := Path.parens hbase htail
    rw [hfiltered] at hpath
    simpa [Expr.tokens, parens, tokensOfAll_eq, tokensOfSteps_eq] using hpath
  | literal _ => exact fun rest _ => operands_of_path .literal _
  | number _ => exact fun rest _ => operands_of_path .number _
  | @call function arguments htakes _ ih =>
    intro rest _
    refine operands_of_path ?_ _
    obtain ⟨htext, hnode⟩ := function_name_ne function
    have hcall : Path _ (filtered (.call function arguments) [] []) rest :=
      .call htext hnode (function_ofName?_name function) (arguments_of_isRead ih rest) htakes
        (.predicates .none)
    simpa [Expr.tokens, parens, tokensOfAll_eq, filtered_nil] using hcall

/-! ## From expressions to trees -/

/-- Whether lexing makes all the tokens. -/
def AreLexical (ts : List Token) : Prop := ∀ t ∈ ts, t.IsLexical

theorem AreLexical.tail {t : Token} {ts : List Token} (h : AreLexical (t :: ts)) : AreLexical ts :=
  (List.forall_mem_cons.mp h).2

/-- A base with predicates and steps behind it is printable if its parts are. -/
theorem printable_filtered {base : Expr} {predicates : List Expr} {steps : List (Step Expr)}
    (hbase : Printable base) (hpredicates : ∀ predicate ∈ predicates, Printable predicate)
    (htests : ∀ step ∈ steps, step.test.IsLexical)
    (hsteps : ∀ step ∈ steps, ∀ predicate ∈ step.predicates, Printable predicate) :
    Printable (filtered base predicates steps) := by
  unfold filtered
  split
  · exact hbase
  · next hfilter =>
    rw [Bool.and_eq_true, List.isEmpty_iff, List.isEmpty_iff, not_and_or] at hfilter
    exact .filter hfilter hbase hpredicates htests hsteps

/-- Operands that are joined are printable if each of them is. -/
theorem printable_joined {left : Expr} {chain : List (Operator × Expr)} (hleft : Printable left)
    (h : ∀ part ∈ chain, Printable part.2) : Printable (joined left chain) := by
  induction chain generalizing left with
  | nil => exact hleft
  | cons part chain ih =>
    obtain ⟨hpart, hchain⟩ := List.forall_mem_cons.mp h
    exact ih (.operation hleft hpart) hchain

theorem direction_lexical {ts rest : List Token} {axis : Axis} (h : Direction ts axis rest)
    (hts : AreLexical ts) : AreLexical rest := by
  cases h with
  | absent => exact hts
  | atSign => exact hts.tail
  | named _ => exact hts.tail.tail

/-- A node test that is read off lexical tokens is lexical. -/
theorem test_lexical {ts rest : List Token} {test : NodeTest} (h : Test ts test rest)
    (hts : AreLexical ts) : test.IsLexical ∧ AreLexical rest := by
  cases h with
  | any => exact ⟨trivial, hts.tail⟩
  | text | node => exact ⟨trivial, hts.tail.tail.tail⟩
  | name =>
    have hname := isNameText_lowerLatin (hts _ List.mem_cons_self)
    exact ⟨⟨hname, lowerLatin_lowerLatin _⟩, hts.tail⟩

/-- Whether steps can stand in the tree of an expression. -/
def ArePrintable (steps : List (Step Expr)) : Prop :=
  (∀ step ∈ steps, step.test.IsLexical) ∧
    ∀ step ∈ steps, ∀ predicate ∈ step.predicates, Printable predicate

theorem ArePrintable.cons {step : Step Expr} {steps : List (Step Expr)}
    (htest : step.test.IsLexical) (hstep : ∀ predicate ∈ step.predicates, Printable predicate)
    (h : ArePrintable steps) : ArePrintable (step :: steps) :=
  ⟨List.forall_mem_cons.mpr ⟨htest, h.1⟩, List.forall_mem_cons.mpr ⟨hstep, h.2⟩⟩

theorem ArePrintable.toAny {axis : Axis} {steps : List (Step Expr)} (h : ArePrintable steps) :
    ArePrintable (.toAny axis :: steps) :=
  h.cons trivial (List.forall_mem_nil _)

mutual

/-- What is read off lexical tokens is printable, one kind of phrase at a time. -/
theorem operands_printable {levels : List Level} {ts rest : List Token} {expr : Expr} :
    Operands levels ts expr rest → AreLexical ts → Printable expr ∧ AreLexical rest
  | .alternatives h, hts => alternatives_printable h hts
  | .joined h hchain, hts => by
    obtain ⟨hleft, hbetween⟩ := operands_printable h hts
    obtain ⟨hparts, hrest⟩ := operations_printable hchain hbetween
    exact ⟨printable_joined hleft hparts, hrest⟩

theorem operations_printable {level : Level} {tighter : List Level} {ts rest : List Token}
    {chain : List (Operator × Expr)} : Operations level tighter ts chain rest → AreLexical ts →
      (∀ part ∈ chain, Printable part.2) ∧ AreLexical rest
  | .none, hts => ⟨List.forall_mem_nil _, hts⟩
  | .more _ h hchain, hts => by
    obtain ⟨hright, hbetween⟩ := operands_printable h hts.tail
    obtain ⟨hparts, hrest⟩ := operations_printable hchain hbetween
    exact ⟨List.forall_mem_cons.mpr ⟨hright, hparts⟩, hrest⟩

theorem alternatives_printable {ts rest : List Token} {expr : Expr} :
    Alternatives ts expr rest → AreLexical ts → Printable expr ∧ AreLexical rest
  | .one h, hts => path_printable h hts
  | .many h hbranches, hts => by
    obtain ⟨hfirst, hbetween⟩ := path_printable h hts
    obtain ⟨hmore, hrest⟩ := branches_printable hbranches hbetween
    exact ⟨.union (List.forall_mem_cons.mpr ⟨hfirst, hmore⟩), hrest⟩

theorem branches_printable {ts rest : List Token} {branches : List Expr} :
    Branches ts branches rest → AreLexical ts →
      (∀ branch ∈ branches, Printable branch) ∧ AreLexical rest
  | .none, hts => ⟨List.forall_mem_nil _, hts⟩
  | .more h hbranches, hts => by
    obtain ⟨hbranch, hbetween⟩ := path_printable h hts.tail
    obtain ⟨hmore, hrest⟩ := branches_printable hbranches hbetween
    exact ⟨List.forall_mem_cons.mpr ⟨hbranch, hmore⟩, hrest⟩

theorem path_printable {ts rest : List Token} {expr : Expr} :
    Path ts expr rest → AreLexical ts → Printable expr ∧ AreLexical rest
  | .literal, hts => ⟨.literal (hts _ List.mem_cons_self), hts.tail⟩
  | .number, hts => ⟨.number (hts _ List.mem_cons_self), hts.tail⟩
  | .parens h htail, hts => by
    obtain ⟨hinner, hbetween⟩ := operands_printable h hts.tail
    obtain ⟨hpredicates, hsteps, hrest⟩ := tail_printable htail hbetween.tail
    exact ⟨printable_filtered hinner hpredicates hsteps.1 hsteps.2, hrest⟩
  | .call _ _ _ h htakes htail, hts => by
    obtain ⟨harguments, hbetween⟩ := arguments_printable h hts.tail.tail
    obtain ⟨hpredicates, hsteps, hrest⟩ := tail_printable htail hbetween
    exact ⟨printable_filtered (.call htakes harguments) hpredicates hsteps.1 hsteps.2, hrest⟩
  | .root _, hts => ⟨.path (.inl rfl) (List.forall_mem_nil _) (List.forall_mem_nil _), hts.tail⟩
  | .fromRoot h, hts => by
    obtain ⟨_, hsteps, hrest⟩ := steps_printable h hts.tail
    exact ⟨.path (.inl rfl) hsteps.1 hsteps.2, hrest⟩
  | .inDocument h, hts => by
    obtain ⟨_, hsteps, hrest⟩ := steps_printable h hts.tail
    exact ⟨.path (.inl rfl) hsteps.toAny.1 hsteps.toAny.2, hrest⟩
  | .relative h, hts => by
    obtain ⟨hne, hsteps, hrest⟩ := steps_printable h hts
    exact ⟨.path (.inr hne) hsteps.1 hsteps.2, hrest⟩

theorem tail_printable {ts rest : List Token} {predicates : List Expr}
    {steps : List (Step Expr)} : Tail ts predicates steps rest → AreLexical ts →
      (∀ predicate ∈ predicates, Printable predicate) ∧ ArePrintable steps ∧ AreLexical rest
  | .predicates h, hts => by
    obtain ⟨hpredicates, hrest⟩ := predicates_printable h hts
    exact ⟨hpredicates, ⟨List.forall_mem_nil _, List.forall_mem_nil _⟩, hrest⟩
  | .slash h hsteps, hts => by
    obtain ⟨hpredicates, hbetween⟩ := predicates_printable h hts
    obtain ⟨_, hsteps, hrest⟩ := steps_printable hsteps hbetween.tail
    exact ⟨hpredicates, hsteps, hrest⟩
  | .doubleSlash h hsteps, hts => by
    obtain ⟨hpredicates, hbetween⟩ := predicates_printable h hts
    obtain ⟨_, hsteps, hrest⟩ := steps_printable hsteps hbetween.tail
    exact ⟨hpredicates, hsteps.toAny, hrest⟩

theorem steps_printable {ts rest : List Token} {steps : List (Step Expr)} :
    Steps ts steps rest → AreLexical ts → steps ≠ [] ∧ ArePrintable steps ∧ AreLexical rest
  | .mk h hmore, hts => by
    obtain ⟨htest, hstep, hbetween⟩ := oneStep_printable h hts
    obtain ⟨hsteps, hrest⟩ := moreSteps_printable hmore hbetween
    exact ⟨List.cons_ne_nil _ _, hsteps.cons htest hstep, hrest⟩

theorem moreSteps_printable {ts rest : List Token} {steps : List (Step Expr)} :
    MoreSteps ts steps rest → AreLexical ts → ArePrintable steps ∧ AreLexical rest
  | .none, hts => ⟨⟨List.forall_mem_nil _, List.forall_mem_nil _⟩, hts⟩
  | .slash h hmore, hts => by
    obtain ⟨htest, hstep, hbetween⟩ := oneStep_printable h hts.tail
    obtain ⟨hsteps, hrest⟩ := moreSteps_printable hmore hbetween
    exact ⟨hsteps.cons htest hstep, hrest⟩
  | .doubleSlash h hmore, hts => by
    obtain ⟨htest, hstep, hbetween⟩ := oneStep_printable h hts.tail
    obtain ⟨hsteps, hrest⟩ := moreSteps_printable hmore hbetween
    exact ⟨(hsteps.cons htest hstep).toAny, hrest⟩

theorem oneStep_printable {ts rest : List Token} {step : Step Expr} :
    OneStep ts step rest → AreLexical ts → step.test.IsLexical ∧
      (∀ predicate ∈ step.predicates, Printable predicate) ∧ AreLexical rest
  | .dot, hts | .doubleDot, hts => ⟨trivial, List.forall_mem_nil _, hts.tail⟩
  | .test hdirection htest h, hts => by
    obtain ⟨hlexical, hts₂⟩ := test_lexical htest (direction_lexical hdirection hts)
    obtain ⟨hpredicates, hrest⟩ := predicates_printable h hts₂
    exact ⟨hlexical, hpredicates, hrest⟩

theorem predicates_printable {ts rest : List Token} {predicates : List Expr} :
    Predicates ts predicates rest → AreLexical ts →
      (∀ predicate ∈ predicates, Printable predicate) ∧ AreLexical rest
  | .none, hts => ⟨List.forall_mem_nil _, hts⟩
  | .more h hmore, hts => by
    obtain ⟨hpredicate, hbetween⟩ := operands_printable h hts.tail
    obtain ⟨hpredicates, hrest⟩ := predicates_printable hmore hbetween.tail
    exact ⟨List.forall_mem_cons.mpr ⟨hpredicate, hpredicates⟩, hrest⟩

theorem arguments_printable {ts rest : List Token} {arguments : List Expr} :
    Arguments ts arguments rest → AreLexical ts →
      (∀ argument ∈ arguments, Printable argument) ∧ AreLexical rest
  | .none, hts => ⟨List.forall_mem_nil _, hts.tail⟩
  | .some h hmore, hts => by
    obtain ⟨hargument, hbetween⟩ := operands_printable h hts
    obtain ⟨harguments, hrest⟩ := moreArguments_printable hmore hbetween
    exact ⟨List.forall_mem_cons.mpr ⟨hargument, harguments⟩, hrest⟩

theorem moreArguments_printable {ts rest : List Token} {arguments : List Expr} :
    MoreArguments ts arguments rest → AreLexical ts →
      (∀ argument ∈ arguments, Printable argument) ∧ AreLexical rest
  | .none, hts => ⟨List.forall_mem_nil _, hts.tail⟩
  | .more h hmore, hts => by
    obtain ⟨hargument, hbetween⟩ := operands_printable h hts.tail
    obtain ⟨harguments, hrest⟩ := moreArguments_printable hmore hbetween
    exact ⟨List.forall_mem_cons.mpr ⟨hargument, harguments⟩, hrest⟩

end

/-- What compiles is the tree of an expression. -/
theorem printable_of_compile {source : String} {expr : Expr} (h : compile source = .ok expr) :
    Printable expr := by
  obtain ⟨lexemes, hlex, hparse⟩ := bind_eq_ok h
  exact (operands_printable (derives_of_parse hparse) (isLexical_of_lexFrom hlex)).1

/-! ## Renderings -/

/-- Whether all the tokens can be written. -/
def AreWritable (ts : List Token) : Prop := ∀ t ∈ ts, t.IsWritable

theorem AreWritable.append {ts ts' : List Token} (h : AreWritable ts) (h' : AreWritable ts') :
    AreWritable (ts ++ ts') := List.forall_mem_append.mpr ⟨h, h'⟩

theorem AreWritable.cons {t : Token} {ts : List Token} (ht : t.IsWritable) (h : AreWritable ts) :
    AreWritable (t :: ts) := List.forall_mem_cons.mpr ⟨ht, h⟩

theorem AreWritable.single {t : Token} (ht : t.IsWritable) : AreWritable [t] :=
  List.forall_mem_singleton.mpr ht

theorem AreWritable.parens {ts : List Token} (h : AreWritable ts) : AreWritable (parens ts) := by
  have hopen : Token.openParen.IsWritable := trivial
  have hclose : Token.closeParen.IsWritable := trivial
  exact (h.append (.single hclose)).cons hopen

theorem AreWritable.brackets {ts : List Token} (h : AreWritable ts) :
    AreWritable (brackets ts) := by
  have hopen : Token.openBracket.IsWritable := trivial
  have hclose : Token.closeBracket.IsWritable := trivial
  exact (h.append (.single hclose)).cons hopen

theorem areWritable_flatMap {α : Type} {f : α → List Token} {parts : List α}
    (h : ∀ part ∈ parts, AreWritable (f part)) : AreWritable (parts.flatMap f) := by
  intro t ht
  obtain ⟨part, hpart, ht⟩ := List.mem_flatMap.mp ht
  exact h part hpart t ht

/-- Parts that can be written can be written with a separator between them. -/
theorem areWritable_separated {separator : Token} (hseparator : separator.IsWritable)
    {parts : List (List Token)} (h : ∀ part ∈ parts, AreWritable part) :
    AreWritable (separated separator parts) := by
  cases parts with
  | nil => exact List.forall_mem_nil _
  | cons first more =>
    obtain ⟨hfirst, hmore⟩ := List.forall_mem_cons.mp h
    exact hfirst.append (areWritable_flatMap fun part hpart => (hmore part hpart).cons hseparator)

theorem isWritable_name {name : String} (h : isNameText name.toList = true) :
    (Token.name name).IsWritable := h

theorem areWritable_test {test : NodeTest} (h : test.IsLexical) : AreWritable test.tokens := by
  have hparens : AreWritable [.openParen, .closeParen] := AreWritable.parens (List.forall_mem_nil _)
  cases test with
  | name asked => exact .single (isWritable_name h.1)
  | any =>
    have hstar : Token.star.IsWritable := trivial
    exact .single hstar
  | text => exact .cons (isWritable_name (by decide)) hparens
  | node => exact .cons (isWritable_name (by decide)) hparens

theorem isWritable_operator (operator : Operator) : operator.token.IsWritable := by
  cases operator with
  | or | and => exact isWritable_name (by decide)
  | compare comparison => cases comparison <;> trivial

theorem areWritable_predicates {predicates : List Expr}
    (h : ∀ predicate ∈ predicates, AreWritable predicate.tokens) :
    AreWritable ((tokensOfAll predicates).flatMap brackets) := by
  rw [tokensOfAll_eq, List.flatMap_map]
  exact areWritable_flatMap fun predicate hpredicate => (h predicate hpredicate).brackets

theorem areWritable_step {step : Step Expr} (htest : step.test.IsLexical)
    (h : ∀ predicate ∈ step.predicates, AreWritable predicate.tokens) :
    AreWritable (tokensOfStep step) := by
  obtain ⟨axis, test, predicates⟩ := step
  have haxis : (Token.name axis.name).IsWritable := isWritable_name (isNameText_axis axis)
  have hcolons : Token.doubleColon.IsWritable := trivial
  exact (((areWritable_test htest).append (areWritable_predicates h)).cons hcolons).cons haxis

/-! ## Numbers -/

/-- The numbers in an expression are whole and small. -/
def HasSmallNumbers (expr : Expr) : Prop := ∀ value ∈ expr.numbers, value.IsSmallWhole

theorem hasSmallNumbers_of_mem {exprs : List Expr}
    (h : ∀ value ∈ numbersOfAll exprs, value.IsSmallWhole) {expr : Expr} (hmem : expr ∈ exprs) :
    HasSmallNumbers expr := by
  rw [numbersOfAll_eq] at h
  exact fun value hvalue => h value (List.mem_flatMap.mpr ⟨expr, hmem, hvalue⟩)

theorem areWritable_steps {steps : List (Step Expr)}
    (htests : ∀ step ∈ steps, step.test.IsLexical)
    (h : ∀ step ∈ steps, ∀ predicate ∈ step.predicates,
      HasSmallNumbers predicate → AreWritable predicate.tokens)
    (hnumbers : ∀ value ∈ numbersOfSteps steps, value.IsSmallWhole) :
    ∀ part ∈ tokensOfSteps steps, AreWritable part := by
  rw [tokensOfSteps_eq, List.forall_mem_map]
  rw [numbersOfSteps_eq] at hnumbers
  intro step hstep
  refine areWritable_step (htests step hstep) fun predicate hpredicate => ?_
  refine h step hstep predicate hpredicate fun value hvalue => ?_
  have hmem := List.mem_flatMap.mpr ⟨predicate, hpredicate, hvalue⟩
  exact hnumbers value (List.mem_flatMap.mpr ⟨step, hstep, hmem⟩)

/-- The tokens of a printable tree with small numbers can all be written. -/
theorem Printable.areWritable {expr : Expr} (h : Printable expr) (hnumbers : HasSmallNumbers expr) :
    AreWritable expr.tokens := by
  have hslash : Token.slash.IsWritable := trivial
  induction h with
  | @operation operator left right _ _ hleft hright =>
    obtain ⟨hl, hr⟩ := List.forall_mem_append.mp hnumbers
    exact (hleft hl).parens.append ((hright hr).parens.cons (isWritable_operator operator))
  | @union first second more _ ih =>
    have hbar : Token.bar.IsWritable := trivial
    rw [Expr.tokens, tokensOfAll_eq]
    refine areWritable_separated hbar ?_
    rw [List.map_map, List.forall_mem_map]
    intro branch hbranch
    exact (ih branch hbranch (hasSmallNumbers_of_mem hnumbers hbranch)).parens
  | @path absolute steps _ htests _ ih =>
    have hsteps := areWritable_steps htests ih hnumbers
    refine AreWritable.append ?_ (areWritable_separated hslash hsteps)
    cases absolute with
    | false => exact List.forall_mem_nil _
    | true => exact .single hslash
  | @filter base predicates steps _ _ _ htests _ hbase hpredicates hsteps =>
    obtain ⟨hfront, hback⟩ := List.forall_mem_append.mp hnumbers
    obtain ⟨hb, hp⟩ := List.forall_mem_append.mp hfront
    have hsteps := areWritable_steps htests hsteps hback
    refine ((hbase hb).parens.append (areWritable_predicates fun predicate hmem => ?_)).append
      (areWritable_flatMap fun part hpart => (hsteps part hpart).cons hslash)
    exact hpredicates predicate hmem (hasSmallNumbers_of_mem hp hmem)
  | literal h => exact .single h
  | number h =>
    have hsmall := hnumbers _ (List.mem_singleton.mpr rfl)
    exact .single (h.eq_of_isSmallWhole hsmall)
  | @call function arguments _ _ ih =>
    have hcomma : Token.comma.IsWritable := trivial
    rw [Expr.tokens, tokensOfAll_eq]
    refine AreWritable.cons (isWritable_name (isNameText_function function))
      (areWritable_separated hcomma ?_).parens
    rw [List.forall_mem_map]
    intro argument hargument
    exact ih argument hargument (hasSmallNumbers_of_mem hnumbers hargument)

/-! ## Compiling a rendering -/

/-- A tree with small whole numbers is compiled from its rendering. -/
theorem Printable.compile_eq {expr : Expr} (h : Printable expr) (hnumbers : HasSmallNumbers expr) :
    compile expr.render = .ok expr := by
  obtain ⟨lexemes, hlex, htokens⟩ := lexFrom_spaced (h.areWritable hnumbers) 0
  have hderives : Derives (tokens lexemes) expr := by
    have hread := h.isRead [] (by rintro t ⟨⟩)
    rwa [List.append_nil, ← htokens] at hread
  rw [compile, lex, Expr.render, String.toList_ofList, hlex]
  exact parse_of_derives _ hderives

/-- The printable trees with small numbers are those that expressions compile to. -/
theorem exists_source_iff {expr : Expr} (hnumbers : HasSmallNumbers expr) :
    (∃ source, compile source = .ok expr) ↔ Printable expr := by
  constructor
  · rintro ⟨source, h⟩
    exact printable_of_compile h
  · intro h
    exact ⟨expr.render, h.compile_eq hnumbers⟩

/-- **What an expression compiles to is compiled from its rendering too**, and from no other
tree's. -/
theorem compile_render {source : String} {expr : Expr} (h : compile source = .ok expr)
    (hnumbers : HasSmallNumbers expr) : compile expr.render = .ok expr ∧
      ∀ {other : Expr} {source' : String}, compile source' = .ok other → HasSmallNumbers other →
        other.render = expr.render → other = expr := by
  have hself := (printable_of_compile h).compile_eq hnumbers
  refine ⟨hself, fun {other source'} hother hothers heq => ?_⟩
  have hsame := (printable_of_compile hother).compile_eq hothers
  rw [heq, hself] at hsame
  exact (Except.ok.inj hsame).symm

/-- A name like an operator, a step behind a filtered path without steps. -/
theorem compile_render_comparison :
    let expr : Expr := .operation (.compare .equal)
      (.filter (.path true []) [.number (.finite false 2 0)] [⟨.child, .name "or", []⟩])
      (.literal "text")
    let source := "( ( / ) [ 2 ] / child :: or ) = ( \"text\" )"
    compile source = .ok expr ∧ HasSmallNumbers expr ∧ expr.render = source ∧
      compile expr.render = .ok expr := by
  intro expr source
  have hsmall : Number.IsSmallWhole (.finite false 2 0) := ⟨2, rfl, by decide⟩
  have hnumbers : HasSmallNumbers expr := List.forall_mem_singleton.mpr hsmall
  have hrender : expr.render = source := by decide +kernel
  have hroot : Printable (.path true []) :=
    .path (.inl rfl) (List.forall_mem_nil _) (List.forall_mem_nil _)
  have htwo : Printable (.number (.finite false 2 0)) := .number (Number.isHeld_natural 2)
  have hname : NodeTest.IsLexical (.name "or") := ⟨by decide, by decide⟩
  have hfilter : Printable
      (.filter (.path true []) [.number (.finite false 2 0)] [⟨.child, .name "or", []⟩]) :=
    .filter (.inl (List.cons_ne_nil _ _)) hroot (List.forall_mem_singleton.mpr htwo)
      (List.forall_mem_singleton.mpr hname) (List.forall_mem_singleton.mpr (List.forall_mem_nil _))
  have hliteral : Printable (.literal "text") := .literal (.inl (by decide))
  have hcompile : compile source = .ok expr := by
    rw [← hrender]
    exact (Printable.operation hfilter hliteral).compile_eq hnumbers
  exact ⟨hcompile, hnumbers, hrender, (compile_render hcompile hnumbers).1⟩

end Almanac.Selector
