import Almanac.Proofs.Selector.ParserComplete

/-!
# The token sequences of the grammar

The grammar as productions: each phrase stands for a list of symbols, which are tokens and
phrases (`Produces`). The productions read no trees and count no arguments, so that a call may
have as many of them as it likes. A list of symbols yields tokens by taking its phrases apart
from the left (`Yields`), and the language is what the loosest phrase yields (`InLanguage`).
Whatever the grammar of trees derives is in it (`inLanguage_of_derives`).

A list of symbols is what is still to be read, so that one phrase in front of others is in its
context, and a prefix can be followed into it. For each phrase there is a lemma that says what
it yields there, and for those that are never empty one that says what they begin with.
-/

namespace Almanac.Selector

namespace Language

/-! ## Productions -/

/-- What tokens are grouped into. -/
inductive Phrase where
  | operands (levels : List Level)
  | operations (level : Level) (tighter : List Level)
  | alternatives
  | branches
  | path
  | afterSlash
  | tail
  | steps
  | moreSteps
  | step
  | test
  | predicates
  | arguments
  | moreArguments

/-- A token, a phrase, or the demand that no step begins here. -/
inductive Symbol where
  | token (t : Token)
  | phrase (p : Phrase)
  | noStep

/-- The productions. A slash is a path by itself only where no step can begin behind it. -/
inductive Produces : Phrase → List Symbol → Prop
  | alternatives : Produces (.operands []) [.phrase .alternatives]
  | joined {level : Level} {tighter : List Level} : Produces (.operands (level :: tighter))
      [.phrase (.operands tighter), .phrase (.operations level tighter)]
  | noOperation {level : Level} {tighter : List Level} : Produces (.operations level tighter) []
  | operation {level : Level} {tighter : List Level} {t : Token} {operator : Operator} :
      Grammar.Joins level t operator → Produces (.operations level tighter)
        [.token t, .phrase (.operands tighter), .phrase (.operations level tighter)]
  | union : Produces .alternatives [.phrase .path, .phrase .branches]
  | noBranch : Produces .branches []
  | branch : Produces .branches [.token .bar, .phrase .path, .phrase .branches]
  | literal {text : String} : Produces .path [.token (.literal text)]
  | number {value : Number} : Produces .path [.token (.number value)]
  | parens : Produces .path [.token .openParen, .phrase (.operands Level.loosestFirst),
      .token .closeParen, .phrase .tail]
  | call {name : String} {function : Function} : name ≠ "text" → name ≠ "node" →
      Function.ofName? name = some function →
      Produces .path [.token (.name name), .token .openParen, .phrase .arguments, .phrase .tail]
  | fromRoot : Produces .path [.token .slash, .phrase .afterSlash]
  | inDocument : Produces .path [.token .doubleSlash, .phrase .steps]
  | relative : Produces .path [.phrase .steps]
  | onlyRoot : Produces .afterSlash [.noStep]
  | belowRoot : Produces .afterSlash [.phrase .steps]
  | tail : Produces .tail [.phrase .predicates, .phrase .moreSteps]
  | steps : Produces .steps [.phrase .step, .phrase .moreSteps]
  | noMoreSteps : Produces .moreSteps []
  | slash : Produces .moreSteps [.token .slash, .phrase .step, .phrase .moreSteps]
  | doubleSlash : Produces .moreSteps [.token .doubleSlash, .phrase .step, .phrase .moreSteps]
  | dot : Produces .step [.token .dot]
  | doubleDot : Produces .step [.token .doubleDot]
  | noAxis : Produces .step [.phrase .test, .phrase .predicates]
  | atSign : Produces .step [.token .atSign, .phrase .test, .phrase .predicates]
  | axis {name : String} {axis : Axis} : Axis.ofName? name = some axis → Produces .step
      [.token (.name name), .token .doubleColon, .phrase .test, .phrase .predicates]
  | any : Produces .test [.token .star]
  | text : Produces .test [.token (.name "text"), .token .openParen, .token .closeParen]
  | node : Produces .test [.token (.name "node"), .token .openParen, .token .closeParen]
  | name {name : String} : Produces .test [.token (.name name)]
  | noPredicate : Produces .predicates []
  | predicate : Produces .predicates [.token .openBracket,
      .phrase (.operands Level.loosestFirst), .token .closeBracket, .phrase .predicates]
  | noArgument : Produces .arguments [.token .closeParen]
  | argument : Produces .arguments [.phrase (.operands Level.loosestFirst), .phrase .moreArguments]
  | noMoreArguments : Produces .moreArguments [.token .closeParen]
  | moreArguments : Produces .moreArguments [.token .comma,
      .phrase (.operands Level.loosestFirst), .phrase .moreArguments]

/-- The tokens that symbols can be replaced by. -/
inductive Yields : List Symbol → List Token → Prop
  | nil : Yields [] []
  | token {t : Token} {more : List Symbol} {ts : List Token} : Yields more ts →
      Yields (.token t :: more) (t :: ts)
  | phrase {p : Phrase} {body more : List Symbol} {ts : List Token} : Produces p body →
      Yields (body ++ more) ts → Yields (.phrase p :: more) ts
  | noStep {more : List Symbol} {ts : List Token} : Ends Token.startsStep ts →
      Yields more ts → Yields (.noStep :: more) ts

end Language

open Selector.Language

/-- **The token sequences of the grammar**, whatever the number of arguments of a call. -/
def InLanguage (ts : List Token) : Prop := Yields [.phrase (.operands Level.loosestFirst)] ts

/-! ## What each phrase yields -/

namespace Language

variable {K : List Symbol} {t : Token} {ts : List Token}

theorem yields_nil : Yields [] ts ↔ ts = [] := by
  constructor
  · rintro ⟨⟩
    rfl
  · rintro rfl
    exact .nil

theorem yields_token : Yields (.token t :: K) ts ↔ ∃ rest, ts = t :: rest ∧ Yields K rest := by
  constructor
  · rintro ⟨⟩
    exact ⟨_, rfl, ‹_›⟩
  · rintro ⟨rest, rfl, h⟩
    exact .token h

@[simp] theorem yields_token_cons {u : Token} :
    Yields (.token t :: K) (u :: ts) ↔ u = t ∧ Yields K ts := by
  rw [yields_token]
  exact ⟨fun ⟨_, heq, h⟩ => by cases heq; exact ⟨rfl, h⟩, fun ⟨heq, h⟩ => ⟨ts, heq ▸ rfl, h⟩⟩

/-- A phrase yields what the symbols of one of its productions yield in its place. -/
theorem yields_phrase {p : Phrase} :
    Yields (.phrase p :: K) ts ↔ ∃ body, Produces p body ∧ Yields (body ++ K) ts :=
  ⟨fun h => by cases h with | phrase hp h => exact ⟨_, hp, h⟩, fun ⟨_, hp, h⟩ => .phrase hp h⟩

/-- A phrase with one production stands for its symbols. -/
theorem yields_of_only {p : Phrase} {body : List Symbol} (hp : Produces p body)
    (honly : ∀ other, Produces p other → other = body) :
    Yields (.phrase p :: K) ts ↔ Yields (body ++ K) ts := by
  refine ⟨fun h => ?_, .phrase hp⟩
  obtain ⟨other, hother, h⟩ := yields_phrase.mp h
  exact honly other hother ▸ h

/-- A phrase with two productions stands for the symbols of the one or of the other. -/
theorem yields_of_either {p : Phrase} {body body' : List Symbol} (hp : Produces p body)
    (hp' : Produces p body') (honly : ∀ other, Produces p other → other = body ∨ other = body') :
    Yields (.phrase p :: K) ts ↔ Yields (body ++ K) ts ∨ Yields (body' ++ K) ts := by
  refine ⟨fun h => ?_, fun h => h.elim (.phrase hp) (.phrase hp')⟩
  obtain ⟨other, hother, h⟩ := yields_phrase.mp h
  rcases honly other hother with rfl | rfl
  · exact .inl h
  · exact .inr h

theorem yields_operands_nil :
    Yields (.phrase (.operands []) :: K) ts ↔ Yields (.phrase .alternatives :: K) ts :=
  yields_of_only .alternatives (by rintro _ ⟨⟩; rfl)

theorem yields_operands_cons {level : Level} {tighter : List Level} :
    Yields (.phrase (.operands (level :: tighter)) :: K) ts ↔
      Yields (.phrase (.operands tighter) :: .phrase (.operations level tighter) :: K) ts :=
  yields_of_only .joined (by rintro _ ⟨⟩; rfl)

theorem yields_alternatives : Yields (.phrase .alternatives :: K) ts ↔
    Yields (.phrase .path :: .phrase .branches :: K) ts :=
  yields_of_only .union (by rintro _ ⟨⟩; rfl)

theorem yields_tail : Yields (.phrase .tail :: K) ts ↔
    Yields (.phrase .predicates :: .phrase .moreSteps :: K) ts :=
  yields_of_only .tail (by rintro _ ⟨⟩; rfl)

theorem yields_steps : Yields (.phrase .steps :: K) ts ↔
    Yields (.phrase .step :: .phrase .moreSteps :: K) ts :=
  yields_of_only .steps (by rintro _ ⟨⟩; rfl)

/-- Operations are none, or an operator of the level in front of an operand and more of them. -/
theorem yields_operations {level : Level} {tighter : List Level} :
    Yields (.phrase (.operations level tighter) :: K) ts ↔ Yields K ts ∨
      ∃ t operator, Grammar.Joins level t operator ∧ Yields (.token t ::
        .phrase (.operands tighter) :: .phrase (.operations level tighter) :: K) ts := by
  rw [yields_phrase]
  constructor
  · rintro ⟨_, hp, h⟩
    cases hp with
    | noOperation => exact .inl h
    | operation hop => exact .inr ⟨_, _, hop, h⟩
  · rintro (h | ⟨_, _, hop, h⟩)
    · exact ⟨_, .noOperation, h⟩
    · exact ⟨_, .operation hop, h⟩

theorem yields_branches : Yields (.phrase .branches :: K) ts ↔ Yields K ts ∨
    Yields (.token .bar :: .phrase .path :: .phrase .branches :: K) ts :=
  yields_of_either .noBranch .branch fun _ h => by
    cases h with
    | noBranch => exact .inl rfl
    | branch => exact .inr rfl

theorem yields_path : Yields (.phrase .path :: K) ts ↔
    (∃ text, Yields (.token (.literal text) :: K) ts) ∨
    (∃ value, Yields (.token (.number value) :: K) ts) ∨
    Yields (.token .openParen :: .phrase (.operands Level.loosestFirst) :: .token .closeParen ::
      .phrase .tail :: K) ts ∨
    (∃ name, nodeType? name = none ∧ (Function.ofName? name).isSome = true ∧ Yields
      (.token (.name name) :: .token .openParen :: .phrase .arguments :: .phrase .tail :: K) ts) ∨
    Yields (.token .slash :: .phrase .afterSlash :: K) ts ∨
    Yields (.token .doubleSlash :: .phrase .steps :: K) ts ∨
    Yields (.phrase .steps :: K) ts := by
  rw [yields_phrase]
  constructor
  · rintro ⟨_, hp, h⟩
    cases hp with
    | literal => exact .inl ⟨_, h⟩
    | number => exact .inr (.inl ⟨_, h⟩)
    | parens => exact .inr (.inr (.inl h))
    | call htext hnode hfunction =>
      exact .inr (.inr (.inr (.inl
        ⟨_, nodeType?_eq_none.mpr ⟨htext, hnode⟩, by rw [hfunction]; rfl, h⟩)))
    | fromRoot => exact .inr (.inr (.inr (.inr (.inl h))))
    | inDocument => exact .inr (.inr (.inr (.inr (.inr (.inl h)))))
    | relative => exact .inr (.inr (.inr (.inr (.inr (.inr h)))))
  · rintro (⟨_, h⟩ | ⟨_, h⟩ | h | ⟨_, htype, hfunction, h⟩ | h | h | h)
    · exact ⟨_, .literal, h⟩
    · exact ⟨_, .number, h⟩
    · exact ⟨_, .parens, h⟩
    · obtain ⟨htext, hnode⟩ := nodeType?_eq_none.mp htype
      obtain ⟨function, hfunction⟩ := Option.isSome_iff_exists.mp hfunction
      exact ⟨_, .call htext hnode hfunction, h⟩
    · exact ⟨_, .fromRoot, h⟩
    · exact ⟨_, .inDocument, h⟩
    · exact ⟨_, .relative, h⟩

/-- A slash is by itself where no step can begin, and has steps behind it otherwise. -/
theorem yields_afterSlash : Yields (.phrase .afterSlash :: K) ts ↔
    Ends Token.startsStep ts ∧ Yields K ts ∨ Yields (.phrase .steps :: K) ts := by
  rw [yields_phrase]
  constructor
  · rintro ⟨_, ⟨⟩, h⟩
    · cases h with
      | noStep hends h => exact .inl ⟨hends, h⟩
    · exact .inr h
  · rintro (⟨hends, h⟩ | h)
    · exact ⟨_, .onlyRoot, .noStep hends h⟩
    · exact ⟨_, .belowRoot, h⟩

theorem yields_moreSteps : Yields (.phrase .moreSteps :: K) ts ↔ Yields K ts ∨
    Yields (.token .slash :: .phrase .step :: .phrase .moreSteps :: K) ts ∨
    Yields (.token .doubleSlash :: .phrase .step :: .phrase .moreSteps :: K) ts := by
  rw [yields_phrase]
  constructor
  · rintro ⟨_, ⟨⟩, h⟩
    · exact .inl h
    · exact .inr (.inl h)
    · exact .inr (.inr h)
  · rintro (h | h | h)
    · exact ⟨_, .noMoreSteps, h⟩
    · exact ⟨_, .slash, h⟩
    · exact ⟨_, .doubleSlash, h⟩

/-- A step is a dot or two, or a test on an axis that is left out, an at sign or named. -/
theorem yields_step : Yields (.phrase .step :: K) ts ↔
    Yields (.token .dot :: K) ts ∨ Yields (.token .doubleDot :: K) ts ∨
    Yields (.phrase .test :: .phrase .predicates :: K) ts ∨
    Yields (.token .atSign :: .phrase .test :: .phrase .predicates :: K) ts ∨
    ∃ name, (Axis.ofName? name).isSome = true ∧ Yields (.token (.name name) ::
      .token .doubleColon :: .phrase .test :: .phrase .predicates :: K) ts := by
  rw [yields_phrase]
  constructor
  · rintro ⟨_, hp, h⟩
    cases hp with
    | dot => exact .inl h
    | doubleDot => exact .inr (.inl h)
    | noAxis => exact .inr (.inr (.inl h))
    | atSign => exact .inr (.inr (.inr (.inl h)))
    | axis haxis => exact .inr (.inr (.inr (.inr ⟨_, by rw [haxis]; rfl, h⟩)))
  · rintro (h | h | h | h | ⟨_, haxis, h⟩)
    · exact ⟨_, .dot, h⟩
    · exact ⟨_, .doubleDot, h⟩
    · exact ⟨_, .noAxis, h⟩
    · exact ⟨_, .atSign, h⟩
    · obtain ⟨axis, haxis⟩ := Option.isSome_iff_exists.mp haxis
      exact ⟨_, .axis haxis, h⟩

/-- A test is a star, the type of a node in front of parentheses, or any name. -/
theorem yields_test : Yields (.phrase .test :: K) ts ↔ Yields (.token .star :: K) ts ∨
    (∃ name, (nodeType? name).isSome = true ∧
      Yields (.token (.name name) :: .token .openParen :: .token .closeParen :: K) ts) ∨
    ∃ name, Yields (.token (.name name) :: K) ts := by
  rw [yields_phrase]
  constructor
  · rintro ⟨_, hp, h⟩
    cases hp with
    | any => exact .inl h
    | text => exact .inr (.inl ⟨_, rfl, h⟩)
    | node => exact .inr (.inl ⟨_, rfl, h⟩)
    | name => exact .inr (.inr ⟨_, h⟩)
  · rintro (h | ⟨_, htype, h⟩ | ⟨_, h⟩)
    · exact ⟨_, .any, h⟩
    · obtain ⟨test, htype⟩ := Option.isSome_iff_exists.mp htype
      rcases nodeType?_eq_some htype with ⟨rfl, -⟩ | ⟨rfl, -⟩
      · exact ⟨_, .text, h⟩
      · exact ⟨_, .node, h⟩
    · exact ⟨_, .name, h⟩

theorem yields_predicates : Yields (.phrase .predicates :: K) ts ↔ Yields K ts ∨
    Yields (.token .openBracket :: .phrase (.operands Level.loosestFirst) ::
      .token .closeBracket :: .phrase .predicates :: K) ts :=
  yields_of_either .noPredicate .predicate fun _ h => by
    cases h with
    | noPredicate => exact .inl rfl
    | predicate => exact .inr rfl

/-- The parenthesis that closes a call is part of its arguments, and all of them if there are none.
-/
theorem yields_arguments : Yields (.phrase .arguments :: K) ts ↔
    Yields (.token .closeParen :: K) ts ∨
    Yields (.phrase (.operands Level.loosestFirst) :: .phrase .moreArguments :: K) ts :=
  yields_of_either .noArgument .argument fun _ h => by
    cases h with
    | noArgument => exact .inl rfl
    | argument => exact .inr rfl

theorem yields_moreArguments : Yields (.phrase .moreArguments :: K) ts ↔
    Yields (.token .closeParen :: K) ts ∨
    Yields (.token .comma :: .phrase (.operands Level.loosestFirst) ::
      .phrase .moreArguments :: K) ts :=
  yields_of_either .noMoreArguments .moreArguments fun _ h => by
    cases h with
    | noMoreArguments => exact .inl rfl
    | moreArguments => exact .inr rfl

end Language

/-! ## What each phrase begins with -/

/-- Whether a path can begin with a token. -/
def Token.startsPath : Token → Bool
  | .literal _ | .number _ | .openParen | .slash | .doubleSlash => true
  | t => t.startsStep

/-- Whether a node test can begin with a token. -/
def Token.startsTest : Token → Bool
  | .star | .name _ => true
  | _ => false

theorem Token.startsStep_of_startsTest {t : Token} (h : t.startsTest = true) :
    t.startsStep = true := by
  cases t <;> first | rfl | cases h

theorem Token.startsPath_of_startsStep {t : Token} (h : t.startsStep = true) :
    t.startsPath = true := by
  cases t <;> first | rfl | cases h

namespace Language.Yields

variable {K : List Symbol} {ts : List Token}

/-- A test is never empty. -/
theorem test_head (h : Yields (.phrase .test :: K) ts) : ∃ t ∈ ts.head?, t.startsTest = true := by
  rcases yields_test.mp h with h | ⟨_, _, h⟩ | ⟨_, h⟩
  all_goals
    obtain ⟨_, rfl, _⟩ := yields_token.mp h
    exact ⟨_, rfl, rfl⟩

theorem step_head (h : Yields (.phrase .step :: K) ts) : ∃ t ∈ ts.head?, t.startsStep = true := by
  rcases yields_step.mp h with h | h | h | h | ⟨_, _, h⟩
  case inr.inr.inl =>
    obtain ⟨t, ht, hstart⟩ := h.test_head
    exact ⟨t, ht, Token.startsStep_of_startsTest hstart⟩
  all_goals
    obtain ⟨_, rfl, _⟩ := yields_token.mp h
    exact ⟨_, rfl, rfl⟩

theorem steps_head (h : Yields (.phrase .steps :: K) ts) : ∃ t ∈ ts.head?, t.startsStep = true :=
  (yields_steps.mp h).step_head

theorem path_head (h : Yields (.phrase .path :: K) ts) : ∃ t ∈ ts.head?, t.startsPath = true := by
  rcases yields_path.mp h with ⟨_, h⟩ | ⟨_, h⟩ | h | ⟨_, _, _, h⟩ | h | h | h
  case inr.inr.inr.inr.inr.inr =>
    obtain ⟨t, ht, hstart⟩ := h.steps_head
    exact ⟨t, ht, Token.startsPath_of_startsStep hstart⟩
  all_goals
    obtain ⟨_, rfl, _⟩ := yields_token.mp h
    exact ⟨_, rfl, rfl⟩

/-- Operands of any levels begin with what a path can begin with. -/
theorem operands_head : ∀ {levels : List Level} {K : List Symbol},
    Yields (.phrase (.operands levels) :: K) ts → ∃ t ∈ ts.head?, t.startsPath = true
  | [], _, h => (yields_alternatives.mp (yields_operands_nil.mp h)).path_head
  | _ :: _, _, h => (yields_operands_cons.mp h).operands_head

end Language.Yields

/-! ## What a phrase yields behind its first token -/

namespace Language

variable {K : List Symbol} {t : Token} {ts : List Token}

theorem not_yields_test (h : t.startsTest = false) : ¬ Yields (.phrase .test :: K) (t :: ts) := by
  intro hyields
  obtain ⟨_, ⟨⟩, hstart⟩ := hyields.test_head
  exact absurd hstart (h ▸ Bool.false_ne_true)

theorem not_yields_steps (h : t.startsStep = false) :
    ¬ Yields (.phrase .steps :: K) (t :: ts) := by
  intro hyields
  obtain ⟨_, ⟨⟩, hstart⟩ := hyields.steps_head
  exact absurd hstart (h ▸ Bool.false_ne_true)

theorem yields_test_star : Yields (.phrase .test :: K) (.star :: ts) ↔ Yields K ts := by
  simp [yields_test]

/-- A name is a test by itself, and the type of a node also with parentheses behind it. -/
theorem yields_test_name {name : String} :
    Yields (.phrase .test :: K) (.name name :: ts) ↔ Yields K ts ∨
      (nodeType? name).isSome = true ∧
        Yields (.token .openParen :: .token .closeParen :: K) ts := by
  rw [yields_test]
  constructor
  · rintro (h | ⟨_, htype, h⟩ | ⟨_, h⟩)
    · cases (yields_token_cons.mp h).1
    · obtain ⟨⟨⟩, hrest⟩ := yields_token_cons.mp h
      exact .inr ⟨htype, hrest⟩
    · exact .inl (yields_token_cons.mp h).2
  · rintro (h | ⟨htype, h⟩)
    · exact .inr (.inr ⟨name, .token h⟩)
    · exact .inr (.inl ⟨name, htype, .token h⟩)

theorem yields_step_dot : Yields (.phrase .step :: K) (.dot :: ts) ↔ Yields K ts := by
  simp [yields_step, not_yields_test (t := .dot) rfl]

theorem yields_step_doubleDot : Yields (.phrase .step :: K) (.doubleDot :: ts) ↔ Yields K ts := by
  simp [yields_step, not_yields_test (t := .doubleDot) rfl]

theorem yields_step_atSign : Yields (.phrase .step :: K) (.atSign :: ts) ↔
    Yields (.phrase .test :: .phrase .predicates :: K) ts := by
  simp [yields_step, not_yields_test (t := .atSign) rfl]

/-- A name at the front of a step is that of an axis or begins the test. -/
theorem yields_step_name {name : String} :
    Yields (.phrase .step :: K) (.name name :: ts) ↔
      Yields (.phrase .test :: .phrase .predicates :: K) (.name name :: ts) ∨
      (Axis.ofName? name).isSome = true ∧
        Yields (.token .doubleColon :: .phrase .test :: .phrase .predicates :: K) ts := by
  rw [yields_step]
  constructor
  · rintro (h | h | h | h | ⟨_, haxis, h⟩)
    · cases (yields_token_cons.mp h).1
    · cases (yields_token_cons.mp h).1
    · exact .inl h
    · cases (yields_token_cons.mp h).1
    · obtain ⟨⟨⟩, hrest⟩ := yields_token_cons.mp h
      exact .inr ⟨haxis, hrest⟩
  · rintro (h | ⟨haxis, h⟩)
    · exact .inr (.inr (.inl h))
    · exact .inr (.inr (.inr (.inr ⟨name, haxis, .token h⟩)))

theorem yields_path_literal {text : String} :
    Yields (.phrase .path :: K) (.literal text :: ts) ↔ Yields K ts := by
  simp [yields_path, not_yields_steps (t := .literal text) rfl]

theorem yields_path_number {value : Number} :
    Yields (.phrase .path :: K) (.number value :: ts) ↔ Yields K ts := by
  simp [yields_path, not_yields_steps (t := .number value) rfl]

theorem yields_path_openParen : Yields (.phrase .path :: K) (.openParen :: ts) ↔
    Yields (.phrase (.operands Level.loosestFirst) :: .token .closeParen :: .phrase .tail :: K)
      ts := by
  simp [yields_path, not_yields_steps (t := .openParen) rfl]

theorem yields_path_slash : Yields (.phrase .path :: K) (.slash :: ts) ↔
    Yields (.phrase .afterSlash :: K) ts := by
  simp [yields_path, not_yields_steps (t := .slash) rfl]

theorem yields_path_doubleSlash : Yields (.phrase .path :: K) (.doubleSlash :: ts) ↔
    Yields (.phrase .steps :: K) ts := by
  simp [yields_path, not_yields_steps (t := .doubleSlash) rfl]

/-- A name at the front of a path is that of a function or begins its first step. -/
theorem yields_path_name {name : String} :
    Yields (.phrase .path :: K) (.name name :: ts) ↔
      Yields (.phrase .steps :: K) (.name name :: ts) ∨
      nodeType? name = none ∧ (Function.ofName? name).isSome = true ∧
        Yields (.token .openParen :: .phrase .arguments :: .phrase .tail :: K) ts := by
  rw [yields_path]
  constructor
  · rintro (⟨_, h⟩ | ⟨_, h⟩ | h | ⟨_, htype, hfunction, h⟩ | h | h | h)
    · cases (yields_token_cons.mp h).1
    · cases (yields_token_cons.mp h).1
    · cases (yields_token_cons.mp h).1
    · obtain ⟨⟨⟩, hrest⟩ := yields_token_cons.mp h
      exact .inr ⟨htype, hfunction, hrest⟩
    · cases (yields_token_cons.mp h).1
    · cases (yields_token_cons.mp h).1
    · exact .inl h
  · rintro (h | ⟨htype, hfunction, h⟩)
    · exact .inr (.inr (.inr (.inr (.inr (.inr h)))))
    · exact .inr (.inr (.inr (.inl ⟨name, htype, hfunction, .token h⟩)))

end Language

/-! ## What the trees are derived from -/

namespace Grammar

variable {K : List Symbol}

/-- What is read as a direction, and a test behind it, is yielded as a step. -/
theorem Direction.yields {ts rest : List Token} {axis : Axis} (h : Direction ts axis rest)
    (hrest : Yields (.phrase .test :: .phrase .predicates :: K) rest) :
    Yields (.phrase .step :: K) ts := by
  cases h with
  | absent => exact .phrase .noAxis hrest
  | atSign => exact .phrase .atSign (.token hrest)
  | named haxis => exact .phrase (.axis haxis) (.token (.token hrest))

theorem Test.yields {ts rest : List Token} {test : NodeTest} (h : Test ts test rest)
    (hrest : Yields K rest) : Yields (.phrase .test :: K) ts := by
  cases h with
  | any => exact .phrase .any (.token hrest)
  | text => exact .phrase .text (.token (.token (.token hrest)))
  | node => exact .phrase .node (.token (.token (.token hrest)))
  | name => exact .phrase .name (.token hrest)

mutual

/-- What an expression is read off, its phrase yields in front of what yields the rest. -/
theorem Operands.yields {K : List Symbol} {levels : List Level} {ts rest : List Token}
    {expr : Expr} (hrest : Yields K rest) :
    Operands levels ts expr rest → Yields (.phrase (.operands levels) :: K) ts
  | .alternatives h => .phrase .alternatives (h.yields hrest)
  | .joined h hchain => .phrase .joined (h.yields (hchain.yields hrest))

theorem Operations.yields {K : List Symbol} {level : Level} {tighter : List Level}
    {ts rest : List Token} {chain : List (Operator × Expr)} (hrest : Yields K rest) :
    Operations level tighter ts chain rest → Yields (.phrase (.operations level tighter) :: K) ts
  | .none => .phrase .noOperation hrest
  | .more hop h hchain => .phrase (.operation hop) (.token (h.yields (hchain.yields hrest)))

theorem Alternatives.yields {K : List Symbol} {ts rest : List Token} {expr : Expr}
    (hrest : Yields K rest) : Alternatives ts expr rest → Yields (.phrase .alternatives :: K) ts
  | .one h => .phrase .union (h.yields (.phrase .noBranch hrest))
  | .many h hbranches => .phrase .union (h.yields (hbranches.yields hrest))

theorem Branches.yields {K : List Symbol} {ts rest : List Token} {branches : List Expr}
    (hrest : Yields K rest) : Branches ts branches rest → Yields (.phrase .branches :: K) ts
  | .none => .phrase .noBranch hrest
  | .more h hbranches => .phrase .branch (.token (h.yields (hbranches.yields hrest)))

theorem Path.yields {K : List Symbol} {ts rest : List Token} {expr : Expr}
    (hrest : Yields K rest) : Path ts expr rest → Yields (.phrase .path :: K) ts
  | .literal => .phrase .literal (.token hrest)
  | .number => .phrase .number (.token hrest)
  | .parens h htail => .phrase .parens (.token (h.yields (.token (htail.yields hrest))))
  | .call htext hnode hfunction harguments _ htail =>
    .phrase (.call htext hnode hfunction)
      (.token (.token (harguments.yields (htail.yields hrest))))
  | .root h => .phrase .fromRoot (.token (.phrase .onlyRoot (.noStep h hrest)))
  | .fromRoot h => .phrase .fromRoot (.token (.phrase .belowRoot (h.yields hrest)))
  | .inDocument h => .phrase .inDocument (.token (h.yields hrest))
  | .relative h => .phrase .relative (h.yields hrest)

theorem Tail.yields {K : List Symbol} {ts rest : List Token} {predicates : List Expr}
    {steps : List (Step Expr)} (hrest : Yields K rest) :
    Tail ts predicates steps rest → Yields (.phrase .tail :: K) ts
  | .predicates h => .phrase .tail (h.yields (.phrase .noMoreSteps hrest))
  | .slash h (.mk hstep hmore) =>
    .phrase .tail (h.yields (.phrase .slash (.token (hstep.yields (hmore.yields hrest)))))
  | .doubleSlash h (.mk hstep hmore) =>
    .phrase .tail (h.yields (.phrase .doubleSlash (.token (hstep.yields (hmore.yields hrest)))))

theorem Steps.yields {K : List Symbol} {ts rest : List Token} {steps : List (Step Expr)}
    (hrest : Yields K rest) : Steps ts steps rest → Yields (.phrase .steps :: K) ts
  | .mk hstep hmore => .phrase .steps (hstep.yields (hmore.yields hrest))

theorem MoreSteps.yields {K : List Symbol} {ts rest : List Token} {steps : List (Step Expr)}
    (hrest : Yields K rest) : MoreSteps ts steps rest → Yields (.phrase .moreSteps :: K) ts
  | .none => .phrase .noMoreSteps hrest
  | .slash hstep hmore => .phrase .slash (.token (hstep.yields (hmore.yields hrest)))
  | .doubleSlash hstep hmore => .phrase .doubleSlash (.token (hstep.yields (hmore.yields hrest)))

theorem OneStep.yields {K : List Symbol} {ts rest : List Token} {step : Step Expr}
    (hrest : Yields K rest) : OneStep ts step rest → Yields (.phrase .step :: K) ts
  | .dot => .phrase .dot (.token hrest)
  | .doubleDot => .phrase .doubleDot (.token hrest)
  | .test hdirection htest h => hdirection.yields (htest.yields (h.yields hrest))

theorem Predicates.yields {K : List Symbol} {ts rest : List Token} {predicates : List Expr}
    (hrest : Yields K rest) : Predicates ts predicates rest → Yields (.phrase .predicates :: K) ts
  | .none => .phrase .noPredicate hrest
  | .more h hmore => .phrase .predicate (.token (h.yields (.token (hmore.yields hrest))))

theorem Arguments.yields {K : List Symbol} {ts rest : List Token} {arguments : List Expr}
    (hrest : Yields K rest) : Arguments ts arguments rest → Yields (.phrase .arguments :: K) ts
  | .none => .phrase .noArgument (.token hrest)
  | .some h hmore => .phrase .argument (h.yields (hmore.yields hrest))

theorem MoreArguments.yields {K : List Symbol} {ts rest : List Token} {arguments : List Expr}
    (hrest : Yields K rest) :
    MoreArguments ts arguments rest → Yields (.phrase .moreArguments :: K) ts
  | .none => .phrase .noMoreArguments (.token hrest)
  | .more h hmore => .phrase .moreArguments (.token (h.yields (hmore.yields hrest)))

end

end Grammar

/-- **The grammar of trees is within the language.** -/
theorem inLanguage_of_derives {ts : List Token} {expr : Expr} (h : Grammar.Derives ts expr) :
    InLanguage ts :=
  Grammar.Operands.yields .nil h

end Almanac.Selector
