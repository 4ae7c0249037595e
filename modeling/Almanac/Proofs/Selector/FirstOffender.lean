import Almanac.Proofs.Selector.Lexing
import Almanac.Proofs.Selector.Traces

/-!
# Errors point at the first offending token

Every parser traces its phrase: what it takes is a part of the language, and where it breaks off
the tokens before are the longest that some sequence of the language begins with. The proofs
follow the recursion of the parsers; the two tokens that a parser looks at decide a step with a
named axis (`traces_step_of_test`), a call (`traces_path_of_steps`) and a slash by itself
(`onlyRoot_traces`, `belowRoot_traces`). So what fails to parse is not in the language, but for
calls with a wrong number of arguments, and an error for an unexpected token or end is raised
where the language leaves nothing else (`errors_at_first_offender`).
-/

namespace Almanac.Selector

open Selector.Language

/-! ## Parts without expressions in them -/

section Parts

variable {stop : Nat}

/-- The tokens that a parser expects close what is open, so that no parser before it could have
gone on with the completion. -/
theorem expect_traces {p : Token → Bool} {t : Token} (ht : t.closes = true) (ts : List Lexeme) :
    Traces stop p false [.token t] ts (expect stop t ts).left := by
  have hstuck (hne : (tokens ts).head? ≠ some t) :
      Traces stop p false [.token t] ts (.error (unexpected stop ts)) := by
    refine .stuck (fun _ hw h => ?_) fun hK => ?_
    · obtain ⟨_, rfl, _⟩ := yields_token.mp h
      exact hne hw.symm
    · obtain ⟨w, h, -⟩ := hK
      exact ⟨t :: w, .token h, .inr (closes_cons ht)⟩
  cases ts with
  | nil => exact hstuck fun ht => by cases ht
  | cons u rest =>
    rw [expect]
    split
    · next hu =>
      subst hu
      exact ⟨[u], rfl, fun _ h => .token h, fun _ _ h => (yields_token_cons.mp h).2⟩
    · next hu => exact hstuck fun h => hu (Option.some.inj h)

theorem takeNodeTest_traces (ts : List Lexeme) :
    Traces stop Token.continuesTest true [.phrase .test] ts (takeNodeTest stop ts).left := by
  rw [takeNodeTest.eq_def]
  split
  · next position rest =>
    exact ⟨[⟨.star, position⟩], rfl, fun _ h => yields_test_star.mpr h,
      fun _ _ h => yields_test_star.mp h⟩
  · next name position p rest =>
    split
    · next test htype =>
      have hsome : (nodeType? name).isSome = true := by rw [htype]; rfl
      refine .behind ⟨.name name, position⟩ [⟨.openParen, p⟩]
        (.result (expect_traces (p := Token.continuesTest) (t := .closeParen) rfl rest)
          fun _ => rfl)
        (fun h => yields_test_name.mpr (.inr ⟨hsome, .token h⟩)) fun hK h => ?_
      rcases yields_test_name.mp h with h | ⟨_, h⟩
      · cases ends_cons.mp (hK _ h)
      · exact (yields_token_cons.mp h).2
    · next htype =>
      refine ⟨[⟨.name name, position⟩], rfl, fun _ h => .phrase .name (.token h),
        fun _ _ h => ?_⟩
      refine (yields_test_name.mp h).resolve_right ?_
      rintro ⟨hsome, -⟩
      exact absurd htype (Option.isSome_iff_ne_none.mp hsome)
  · next name position rest hrest =>
    refine ⟨[⟨.name name, position⟩], rfl, fun _ h => .phrase .name (.token h),
      fun _ hw h => ?_⟩
    refine (yields_test_name.mp h).resolve_right ?_
    rintro ⟨-, h⟩
    obtain ⟨_, rfl, _⟩ := yields_token.mp h
    exact hw.head?_ne rfl (head?_ne hrest) rfl
  · next hstar hparen hname =>
    refine .stuck (fun _ hw h => ?_) fun hK => ?_
    · obtain ⟨t, ht, hstart⟩ := h.test_head
      obtain ⟨position, rest, rfl⟩ := exists_of_head? (hw ▸ ht)
      cases t with
      | star => exact hstar position rest rfl
      | name name => exact hname name position rest rfl
      | _ => cases hstart
    · obtain ⟨w, h, -⟩ := hK
      exact ⟨.star :: w, .phrase .any (.token h), .inl rfl⟩

end Parts

/-! ## Expressions -/

/-- What the parser of operands finds out about lists shorter than `n`. -/
def TracesBelow (stop n : Nat) : Prop :=
  ∀ (levels : List Level) (ts : List Lexeme), levels.Nodup → ts.length < n →
    Traces stop (Token.continuesOperands levels) true [.phrase (.operands levels)] ts
      (takeOperands stop levels ts).left

theorem TracesBelow.mono {stop m n : Nat} (h : TracesBelow stop n) (hm : m ≤ n) :
    TracesBelow stop m :=
  fun levels ts hlevels hts => h levels ts hlevels (Nat.lt_of_lt_of_le hts hm)

theorem TracesBelow.of_lt {stop m n : Nat} (h : TracesBelow stop n) (hm : m < n) :
    TracesBelow stop m := h.mono (Nat.le_of_lt hm)

section Expressions

variable {stop : Nat}

theorem takePredicates_traces {ts : List Lexeme} (hs : TracesBelow stop ts.length) :
    Traces stop Token.continuesStep false [.phrase .predicates] ts
      (takePredicates stop ts).left := by
  rw [takePredicates.eq_def]
  split
  · next position rest =>
    have hinner := hs Level.loosestFirst _ (by decide) (Nat.lt_succ_self rest.length)
    refine .behind ⟨.openBracket, position⟩ []
      (hinner.bind [.token .closeBracket, .phrase .predicates] ?_
        (fun _ => stops_token rfl) fun hK => hK.predicates.token rfl)
      (fun h => .phrase .predicate (.token h)) fun hK h => ?_
    · rintro ⟨predicate, rest₁⟩ -
      refine (expect_traces rfl rest₁.list).bind [.phrase .predicates] ?_
        (fun _ => stops_none) .predicates
      rintro ⟨⟨⟩, rest₂⟩ -
      have hlt := Nat.lt_succ_of_lt (rest₁.trans rest₂).length_lt
      exact (takePredicates_traces (hs.of_lt hlt)).result fun _ => rfl
    · rcases yields_predicates.mp h with h | h
      · cases ends_cons.mp (hK _ h)
      · exact (yields_token_cons.mp h).2
  · next hopen =>
    refine repeats_predicates.traces (by rintro _ rfl; rfl) ?_
    rintro _ ht rfl
    exact head?_ne hopen ht
termination_by ts.length
decreasing_by subst_vars; exact hlt

/-- A node test and predicates, behind the axis. -/
theorem test_traces {ts : List Lexeme} (hs : TracesBelow stop ts.length) (axis : Axis)
    (rest₁ : NoLonger ts) :
    Traces stop Token.continuesStep true [.phrase .test, .phrase .predicates] rest₁.list
      (Taken.left (show Taken (Step Expr) ts from do
        let (test, rest₂) ← takeNodeTest stop rest₁.list
        let (predicates, after) ← takePredicates stop rest₂.list
        return (⟨axis, test, predicates⟩, rest₁.transShorter (rest₂.trans after)))) := by
  refine (takeNodeTest_traces rest₁.list).bind [.phrase .predicates] ?_ .predicates .predicates
  rintro ⟨test, rest₂⟩ -
  exact (takePredicates_traces (hs.of_lt (rest₁.transShorter rest₂).length_lt)).result fun _ => rfl

/-- A name that a double colon stands behind is no node test. -/
theorem Stops.not_yields_test_doubleColon {K : List Symbol} (hK : Stops Token.continuesStep K)
    {name : String} {w : List Token} :
    ¬ Yields (.phrase .test :: .phrase .predicates :: K) (.name name :: .doubleColon :: w) := by
  intro h
  rcases yields_test_name.mp h with h | ⟨_, h⟩
  · cases ends_cons.mp (hK.predicates _ h)
  · cases (yields_token_cons.mp h).1

/-- A step that no axis is named in is a node test and predicates. -/
theorem traces_step_of_test {p : Token → Bool} {ts : List Lexeme}
    {r : Except Error (List Lexeme)}
    (h : Traces stop p true [.phrase .test, .phrase .predicates] ts r)
    (hdot : (tokens ts).head? ≠ some .dot) (hdoubleDot : (tokens ts).head? ≠ some .doubleDot)
    (hat : (tokens ts).head? ≠ some .atSign)
    (hcolon : ∀ name position rest, ts = ⟨.name name, position⟩ :: rest →
      (tokens rest).head? ≠ some .doubleColon) :
    Traces stop p true [.phrase .step] ts r := by
  by_cases hname : ∃ name, (tokens ts).head? = some (.name name)
  · obtain ⟨name, hname⟩ := hname
    obtain ⟨position, rest, rfl⟩ := exists_of_head? hname
    refine h.of_two ⟨[], .phrase .name (.token (.phrase .noPredicate .nil))⟩ (.phrase .noAxis)
      fun hw h => (yields_step_name.mp h).resolve_right ?_
    rintro ⟨-, h⟩
    obtain ⟨_, rfl, _⟩ := yields_token.mp h
    exact hw.head?_ne rfl (hcolon name position rest rfl) rfl
  · refine h.of_head ?_ (.phrase .noAxis) fun hw h => ?_
    · intro h
      obtain ⟨_, ⟨⟩, _⟩ := h.test_head
    · rcases yields_step.mp h with h | h | h | h | ⟨name, _, h⟩
      case inr.inr.inl => exact h
      all_goals obtain ⟨_, rfl, _⟩ := yields_token.mp h
      · exact absurd hw.symm hdot
      · exact absurd hw.symm hdoubleDot
      · exact absurd hw.symm hat
      · exact absurd ⟨name, hw.symm⟩ hname

/-- The parser of steps traces its phrase, if the parsers of shorter operands do. -/
theorem takeStep_traces {ts : List Lexeme} (hs : TracesBelow stop ts.length) :
    Traces stop Token.continuesStep true [.phrase .step] ts (takeStep stop ts).left := by
  rw [takeStep.eq_def]
  split
  · next position rest =>
    exact ⟨[⟨.dot, position⟩], rfl, fun _ h => yields_step_dot.mpr h,
      fun _ _ h => yields_step_dot.mp h⟩
  · next position rest =>
    exact ⟨[⟨.doubleDot, position⟩], rfl, fun _ h => yields_step_doubleDot.mpr h,
      fun _ _ h => yields_step_doubleDot.mp h⟩
  · next hdot hdoubleDot =>
    rw [takeAxis.eq_def]
    split
    · next position rest =>
      exact .behind ⟨.atSign, position⟩ []
        (test_traces hs .attributes Shorter.tail.toNoLonger) yields_step_atSign.mpr
        fun _ h => yields_step_atSign.mp h
    · next name position p rest =>
      split
      · next axis haxis =>
        have hsome : (Axis.ofName? name).isSome = true := by rw [haxis]; rfl
        refine .behind ⟨.name name, position⟩ [⟨.doubleColon, p⟩]
          (test_traces hs axis Shorter.tail.cons.toNoLonger)
          (fun h => yields_step_name.mpr (.inr ⟨hsome, .token h⟩)) fun hK h => ?_
        rcases yields_step_name.mp h with h | ⟨_, h⟩
        · exact absurd h hK.not_yields_test_doubleColon
        · exact (yields_token_cons.mp h).2
      · next haxis =>
        refine .unknown rfl fun hK h => ?_
        rcases yields_step_name.mp h with h | ⟨hsome, _⟩
        · exact hK.not_yields_test_doubleColon h
        · exact absurd haxis (Option.isSome_iff_ne_none.mp hsome)
    · next hat hcolon =>
      refine traces_step_of_test (test_traces hs .child (.all ts)) (head?_ne hdot)
        (head?_ne hdoubleDot) (head?_ne hat) fun name position rest hts => head?_ne ?_
      rintro p after rfl
      exact hcolon name position p after hts

theorem takeMoreSteps_traces {ts : List Lexeme} (hs : TracesBelow stop ts.length) :
    Traces stop Token.continuesPath false [.phrase .moreSteps] ts (takeMoreSteps stop ts).left := by
  rw [takeMoreSteps.eq_def]
  split
  · next position rest =>
    refine .behind ⟨.slash, position⟩ []
      ((takeStep_traces (hs.mono (Nat.le_succ _))).bind [.phrase .moreSteps] ?_ .moreSteps
        .moreSteps)
      (fun h => .phrase .slash (.token h)) fun hK h => ?_
    · rintro ⟨step, rest'⟩ -
      have hlt := Nat.lt_succ_of_lt rest'.length_lt
      exact (takeMoreSteps_traces (hs.of_lt hlt)).result fun _ => rfl
    · rcases yields_moreSteps.mp h with h | h | h
      · cases ends_cons.mp (hK _ h)
      · exact (yields_token_cons.mp h).2
      · cases (yields_token_cons.mp h).1
  · next position rest =>
    refine .behind ⟨.doubleSlash, position⟩ []
      ((takeStep_traces (hs.mono (Nat.le_succ _))).bind [.phrase .moreSteps] ?_ .moreSteps
        .moreSteps)
      (fun h => .phrase .doubleSlash (.token h)) fun hK h => ?_
    · rintro ⟨step, rest'⟩ -
      have hlt := Nat.lt_succ_of_lt rest'.length_lt
      exact (takeMoreSteps_traces (hs.of_lt hlt)).result fun _ => rfl
    · rcases yields_moreSteps.mp h with h | h | h
      · cases ends_cons.mp (hK _ h)
      · cases (yields_token_cons.mp h).1
      · exact (yields_token_cons.mp h).2
  · next hslash hdoubleSlash =>
    refine repeats_moreSteps.traces (by rintro _ (rfl | rfl) <;> rfl) ?_
    rintro _ ht (rfl | rfl)
    · exact head?_ne hslash ht
    · exact head?_ne hdoubleSlash ht
termination_by ts.length
decreasing_by all_goals (subst_vars; exact hlt)

theorem takeSteps_traces {ts : List Lexeme} (hs : TracesBelow stop ts.length) :
    Traces stop Token.continuesPath true [.phrase .steps] ts (takeSteps stop ts).left := by
  rw [takeSteps]
  refine .congr ((takeStep_traces hs).bind [.phrase .moreSteps] ?_ .moreSteps
    .moreSteps) yields_steps
  rintro ⟨first, rest⟩ -
  exact (takeMoreSteps_traces (hs.of_lt rest.length_lt)).result fun _ => rfl

theorem takeFilter_traces {ts : List Lexeme} (hs : TracesBelow stop ts.length) (base : Expr) :
    Traces stop Token.continuesPath false [.phrase .tail] ts (takeFilter stop base ts).left := by
  rw [takeFilter]
  refine .congr ((takePredicates_traces hs).bind [.phrase .moreSteps] ?_ .moreSteps
    .moreSteps) yields_tail
  rintro ⟨predicates, rest⟩ -
  exact (takeMoreSteps_traces (hs.mono rest.length_le)).result fun _ => rfl

/-- Behind an argument stands what no expression goes on with. -/
theorem stops_moreArguments {K : List Symbol} :
    Stops (Token.continuesOperands Level.loosestFirst) (.phrase .moreArguments :: K) := by
  intro w h
  rcases yields_moreArguments.mp h with h | h
  all_goals
    obtain ⟨_, rfl, _⟩ := yields_token.mp h
    exact ends_cons.mpr rfl

theorem Closable.moreArguments {K : List Symbol} (h : Closable K) :
    Closable (.phrase .moreArguments :: K) := by
  obtain ⟨w, h, -⟩ := h
  exact ⟨.closeParen :: w, .phrase .noMoreArguments (.token h), closes_cons rfl⟩

theorem takeMoreArguments_traces {p : Token → Bool} {ts : List Lexeme}
    (hs : TracesBelow stop ts.length) :
    Traces stop p false [.phrase .moreArguments] ts (takeMoreArguments stop ts).left := by
  rw [takeMoreArguments.eq_def]
  split
  · next position rest =>
    refine ⟨[⟨.closeParen, position⟩], rfl, fun _ h => .phrase .noMoreArguments (.token h),
      fun _ _ h => ?_⟩
    rcases yields_moreArguments.mp h with h | h
    · exact (yields_token_cons.mp h).2
    · cases (yields_token_cons.mp h).1
  · next position rest =>
    have hargument := hs Level.loosestFirst _ (by decide) (Nat.lt_succ_self rest.length)
    refine .behind ⟨.comma, position⟩ []
      (hargument.bind [.phrase .moreArguments] ?_ (fun _ => stops_moreArguments)
        .moreArguments)
      (fun h => .phrase .moreArguments (.token h)) fun _ h => ?_
    · rintro ⟨argument, rest'⟩ -
      have hlt := Nat.lt_succ_of_lt rest'.length_lt
      exact (takeMoreArguments_traces (hs.of_lt hlt)).result fun _ => rfl
    · rcases yields_moreArguments.mp h with h | h
      · cases (yields_token_cons.mp h).1
      · exact (yields_token_cons.mp h).2
  · next hclose hcomma =>
    refine .stuck (fun _ hw h => ?_) fun hK => ?_
    · rcases yields_moreArguments.mp h with h | h <;> obtain ⟨_, rfl, _⟩ := yields_token.mp h
      · exact head?_ne hclose hw.symm
      · exact head?_ne hcomma hw.symm
    · obtain ⟨w, h, hcloses⟩ := hK.moreArguments
      exact ⟨w, h, .inr hcloses⟩
termination_by ts.length
decreasing_by subst_vars; exact hlt

/-- The arguments stand behind other lexemes, so that the first argument is read off a
shorter list. -/
theorem takeArguments_traces {p : Token → Bool} {ts : List Lexeme}
    (hs : TracesBelow stop (ts.length + 1)) :
    Traces stop p true [.phrase .arguments] ts (takeArguments stop ts).left := by
  rw [takeArguments.eq_def]
  split
  · next position rest =>
    refine ⟨[⟨.closeParen, position⟩], rfl, fun _ h => .phrase .noArgument (.token h),
      fun _ _ h => ?_⟩
    rcases yields_arguments.mp h with h | h
    · exact (yields_token_cons.mp h).2
    · obtain ⟨_, ⟨⟩, ⟨⟩⟩ := h.operands_head
  · next hclose =>
    have hfirst := hs Level.loosestFirst _ (by decide) (Nat.lt_succ_self ts.length)
    refine .of_head (hfirst.bind [.phrase .moreArguments] ?_ (fun _ => stops_moreArguments)
      .moreArguments) ?_ (.phrase .argument) fun hw h => ?_
    · rintro ⟨first, rest⟩ -
      exact (takeMoreArguments_traces (hs.of_lt (Nat.lt_succ_of_lt rest.length_lt))).result
        fun _ => rfl
    · intro h
      obtain ⟨_, ⟨⟩, _⟩ := h.operands_head
    · refine (yields_arguments.mp h).resolve_left fun h => ?_
      obtain ⟨_, rfl, _⟩ := yields_token.mp h
      exact head?_ne hclose hw.symm

theorem Closable.tail {K : List Symbol} (h : Closable K) : Closable (.phrase .tail :: K) := by
  obtain ⟨w, h, hcloses⟩ := h.moreSteps.predicates
  exact ⟨w, .phrase .tail h, hcloses⟩

/-- Behind the slash of a path from the root stands no step, so that the path ends here. -/
theorem onlyRoot_traces {p : Token → Bool} {ts : List Lexeme} (hstart : atStepStart ts = false) :
    Traces stop p true [.phrase .afterSlash] ts (.ok ts) := by
  have hends {w : List Token} (hw : Like ts w) : Ends Token.startsStep w :=
    hw.ends (atStepStart_eq_false.mp hstart) fun t ht => by cases t <;> first | rfl | cases ht
  refine ⟨[], rfl, fun hw h => yields_afterSlash.mpr (.inl ⟨hends hw, h⟩), fun _ hw h => ?_⟩
  refine ((yields_afterSlash.mp h).resolve_right fun h => ?_).2
  obtain ⟨t, ht, hstep⟩ := h.steps_head
  exact absurd hstep (hends hw t ht ▸ Bool.false_ne_true)

/-- Behind the slash of a path from the root a step can begin, so that steps must stand here. -/
theorem belowRoot_traces {ts : List Lexeme} {r : Except Error (List Lexeme)}
    (h : Traces stop Token.continuesPath true [.phrase .steps] ts r)
    (hstart : atStepStart ts = true) :
    Traces stop Token.continuesPath true [.phrase .afterSlash] ts r := by
  refine h.of_head ?_ (.phrase .belowRoot) fun hw h => ?_
  · intro h
    obtain ⟨_, ⟨⟩, _⟩ := h.steps_head
  · refine (yields_afterSlash.mp h).resolve_left ?_
    rintro ⟨hends, -⟩
    have hfalse := atStepStart_eq_false.mpr fun t ht => hends t (hw ▸ ht)
    exact absurd hstart (hfalse ▸ Bool.false_ne_true)

/-- A name that a parenthesis stands behind begins no steps, unless it is a node type. -/
theorem Stops.not_yields_steps {K : List Symbol} (hK : Stops Token.continuesPath K) {name : String}
    (hnone : nodeType? name = none) {w : List Token} :
    ¬ Yields (.phrase .steps :: K) (.name name :: .openParen :: w) := by
  intro h
  rcases yields_step_name.mp (yields_steps.mp h) with h | ⟨_, h⟩
  · rcases yields_test_name.mp h with h | ⟨hsome, _⟩
    · cases ends_cons.mp (hK.moreSteps.predicates _ h)
    · exact absurd hnone (Option.isSome_iff_ne_none.mp hsome)
  · cases (yields_token_cons.mp h).1

/-- A path that begins with a step is one of steps, unless it is a call. -/
theorem traces_path_of_steps {t : Lexeme} {rest : List Lexeme} {r : Except Error (List Lexeme)}
    (h : Traces stop Token.continuesPath true [.phrase .steps] (t :: rest) r)
    (hstart : t.token.startsStep = true)
    (hcall : ∀ name, t.token = .name name → nodeType? name = none →
      (tokens rest).head? ≠ some .openParen) :
    Traces stop Token.continuesPath true [.phrase .path] (t :: rest) r := by
  by_cases hname : ∃ name, t.token = .name name
  · obtain ⟨name, hname⟩ := hname
    refine h.of_two ⟨[], ?_⟩ (.phrase .relative) fun hw h => ?_
    · rw [hname]
      exact .phrase .steps (.phrase .noAxis
        (.phrase .name (.token (.phrase .noPredicate (.phrase .noMoreSteps .nil)))))
    · rw [hname] at h ⊢
      refine (yields_path_name.mp h).resolve_right ?_
      rintro ⟨htype, -, h⟩
      obtain ⟨_, rfl, _⟩ := yields_token.mp h
      exact hw.head?_ne rfl (hcall name hname htype) rfl
  · refine h.of_head ?_ (.phrase .relative) fun {_ w} hw h => ?_
    · intro h
      obtain ⟨_, ⟨⟩, _⟩ := h.steps_head
    · obtain ⟨w, rfl⟩ : ∃ w', w = t.token :: w' := List.head?_eq_some_iff.mp hw
      rcases yields_path.mp h with ⟨_, h⟩ | ⟨_, h⟩ | h | ⟨name, _, _, h⟩ | h | h | h
      case inr.inr.inr.inl => exact absurd ⟨name, (yields_token_cons.mp h).1⟩ hname
      case inr.inr.inr.inr.inr.inr => exact h
      all_goals
        rw [(yields_token_cons.mp h).1] at hstart
        cases hstart

theorem takePath_traces {ts : List Lexeme} (hs : TracesBelow stop ts.length) :
    Traces stop Token.continuesPath true [.phrase .path] ts (takePath stop ts).left := by
  have hstuck (hstart : ∀ t ∈ (tokens ts).head?, t.startsPath = false) :
      Traces stop Token.continuesPath true [.phrase .path] ts (.error (unexpected stop ts)) := by
    refine .stuck (fun _ hw h => ?_) fun hK => ?_
    · obtain ⟨t, ht, hpath⟩ := h.path_head
      exact absurd hpath (hstart t (hw ▸ ht) ▸ Bool.false_ne_true)
    · obtain ⟨w, h, -⟩ := hK
      exact ⟨.literal "" :: w, .phrase .literal (.token h), .inl rfl⟩
  rw [takePath.eq_def]
  split
  · exact hstuck fun _ ht => by cases ht
  · next text position rest =>
    exact ⟨[⟨.literal text, position⟩], rfl, fun _ h => yields_path_literal.mpr h,
      fun _ _ h => yields_path_literal.mp h⟩
  · next value position rest =>
    exact ⟨[⟨.number value, position⟩], rfl, fun _ h => yields_path_number.mpr h,
      fun _ _ h => yields_path_number.mp h⟩
  · next position rest =>
    have hinner := hs Level.loosestFirst _ (by decide) (Nat.lt_succ_self rest.length)
    refine .behind ⟨.openParen, position⟩ []
      (hinner.bind [.token .closeParen, .phrase .tail] ?_
        (fun _ => stops_token rfl) fun hK => hK.tail.token rfl)
      yields_path_openParen.mpr fun _ h => yields_path_openParen.mp h
    rintro ⟨inner, rest₁⟩ -
    refine (expect_traces rfl rest₁.list).bind [.phrase .tail] ?_
      (fun _ => stops_none) .tail
    rintro ⟨⟨⟩, rest₂⟩ -
    have hlt := Nat.lt_succ_of_lt (rest₁.trans rest₂).length_lt
    exact (takeFilter_traces (hs.of_lt hlt) inner).result fun _ => rfl
  · next position rest =>
    split
    · next hstart =>
      exact .behind ⟨.slash, position⟩ []
        (belowRoot_traces ((takeSteps_traces (hs.mono (Nat.le_succ _))).result fun _ => rfl) hstart)
        yields_path_slash.mpr fun _ h => yields_path_slash.mp h
    · next hstart =>
      exact .behind ⟨.slash, position⟩ []
        (onlyRoot_traces (p := Token.continuesPath) ((Bool.not_eq_true _).mp hstart))
        yields_path_slash.mpr fun _ h => yields_path_slash.mp h
  · next position rest =>
    exact .behind ⟨.doubleSlash, position⟩ []
      ((takeSteps_traces (hs.mono (Nat.le_succ _))).result fun _ => rfl)
      yields_path_doubleSlash.mpr fun _ h => yields_path_doubleSlash.mp h
  · next name position p rest =>
    split
    · next htype =>
      refine traces_path_of_steps ((takeSteps_traces hs).result fun _ => rfl) rfl ?_
      rintro _ ⟨⟩ hnone
      rw [hnone] at htype
      cases htype
    · next htype =>
      have hnone := Option.not_isSome_iff_eq_none.mp htype
      split
      · next hfunction =>
        refine .unknown rfl fun hK h => ?_
        rcases yields_path_name.mp h with h | ⟨_, hsome, _⟩
        · exact hK.not_yields_steps hnone h
        · exact absurd hfunction (Option.isSome_iff_ne_none.mp hsome)
      · next function hfunction =>
        have hsome : (Function.ofName? name).isSome = true := by rw [hfunction]; rfl
        refine .behind ⟨.name name, position⟩ [⟨.openParen, p⟩]
          ((takeArguments_traces (hs.mono (Nat.le_succ _))).bind [.phrase .tail] ?_
            (fun _ => stops_none) .tail)
          (fun h => yields_path_name.mpr (.inr ⟨hnone, hsome, .token h⟩)) fun hK h => ?_
        · rintro ⟨arguments, rest'⟩ -
          dsimp only
          split
          · have hlt := Nat.lt_succ_of_lt (Nat.lt_succ_of_lt rest'.length_lt)
            exact (takeFilter_traces (hs.of_lt hlt) _).result fun _ => rfl
          · exact .arity
        · -- steps cannot begin with a name and a parenthesis, as no context goes on with one
          rcases yields_path_name.mp h with h | ⟨_, _, h⟩
          · exact absurd h (hK.not_yields_steps hnone)
          · exact (yields_token_cons.mp h).2
  · next t rest hliteral hnumber hparen hslash hdoubleSlash hcall =>
    -- no other path begins with this token
    split
    · next hstart =>
      refine traces_path_of_steps ((takeSteps_traces hs).result fun _ => rfl) hstart
        fun name hname _ => head?_ne fun p after hrest => ?_
      exact hcall name t.position p after (by rw [← hname]) hrest
    · next hstart =>
      refine hstuck fun u hu => ?_
      obtain ⟨token, position⟩ := t
      obtain rfl : token = u := Option.some.inj hu
      cases token with
      | literal text => exact (hliteral text position rfl).elim
      | number value => exact (hnumber value position rfl).elim
      | openParen => exact (hparen position rfl).elim
      | slash => exact (hslash position rfl).elim
      | doubleSlash => exact (hdoubleSlash position rfl).elim
      | _ => exact (Bool.not_eq_true _).mp hstart

theorem takeBranches_traces {ts : List Lexeme} (hs : TracesBelow stop ts.length) :
    Traces stop Token.continuesUnion false [.phrase .branches] ts (takeBranches stop ts).left := by
  rw [takeBranches.eq_def]
  split
  · next position rest =>
    refine .behind ⟨.bar, position⟩ []
      ((takePath_traces (hs.mono (Nat.le_succ _))).bind [.phrase .branches] ?_ .branches
        .branches)
      (fun h => .phrase .branch (.token h)) fun hK h => ?_
    · rintro ⟨branch, rest'⟩ -
      have hlt := Nat.lt_succ_of_lt rest'.length_lt
      exact (takeBranches_traces (hs.of_lt hlt)).result fun _ => rfl
    · rcases yields_branches.mp h with h | h
      · cases ends_cons.mp (hK _ h)
      · exact (yields_token_cons.mp h).2
  · next hbar =>
    refine repeats_branches.traces (by rintro _ rfl; rfl) ?_
    rintro _ ht rfl
    exact head?_ne hbar ht
termination_by ts.length
decreasing_by subst_vars; exact hlt

theorem takeUnion_traces {ts : List Lexeme} (hs : TracesBelow stop ts.length) :
    Traces stop Token.continuesUnion true [.phrase .alternatives] ts (takeUnion stop ts).left := by
  rw [takeUnion]
  refine .congr ((takePath_traces hs).bind [.phrase .branches] ?_ .branches
    .branches) yields_alternatives
  rintro ⟨first, rest⟩ -
  exact (takeBranches_traces (hs.of_lt rest.length_lt)).result fun _ => rfl

/-- An operator of a level stops the operands of tighter levels. -/
theorem Stops.operations {level : Level} {tighter : List Level} {K : List Symbol}
    (hlevel : level ∉ tighter) (h : Stops (Token.continuesOperands (level :: tighter)) K) :
    Stops (Token.continuesOperands tighter) (.phrase (.operations level tighter) :: K) :=
  (repeats_operations level tighter).stops
    (fun _ ⟨_, hop⟩ => hop.continuesOperands_eq_false hlevel) h fun _ ht => by
      rw [Token.continuesOperands, Bool.or_eq_true] at ht ⊢
      exact ht.imp_right fun ht => by rw [List.any_cons, ht, Bool.or_true]

theorem takeOperations_traces {level : Level} {tighter : List Level} {ts : List Lexeme}
    (hs : TracesBelow stop ts.length) (hlevels : (level :: tighter).Nodup) (left : Expr) :
    Traces stop (Token.continuesOperands (level :: tighter)) false
      [.phrase (.operations level tighter)] ts
      (takeOperations stop level tighter left ts).left := by
  obtain ⟨hlevel, htighter⟩ := List.nodup_cons.mp hlevels
  have hnone (hts : ∀ t ∈ (tokens ts).head?, level.operator? t = none) :
      Traces stop (Token.continuesOperands (level :: tighter)) false
        [.phrase (.operations level tighter)] ts (.ok ts) := by
    refine (repeats_operations level tighter).traces ?_ ?_
    · rintro _ ⟨_, ⟨⟩⟩ <;> rfl
    · rintro t ht ⟨operator, hop⟩
      rw [Grammar.joins_iff, hts t ht] at hop
      cases hop
  match ts with
  | [] =>
    rw [takeOperations]
    exact hnone fun _ ht => by cases ht
  | t :: rest =>
    rw [takeOperations]
    split
    · next hop => exact hnone fun u hu => Option.some.inj hu ▸ hop
    · next operator hop =>
      have hjoins := Grammar.joins_iff.mpr hop
      refine .behind t []
        ((hs tighter rest htighter (Nat.lt_succ_self _)).bind
          [.phrase (.operations level tighter)] ?_ (.operations hlevel) .operations)
        (fun h => .phrase (.operation hjoins) (.token h)) fun hK h => ?_
      · rintro ⟨right, rest'⟩ -
        have hlt := Nat.lt_succ_of_lt rest'.length_lt
        exact (takeOperations_traces (hs.of_lt hlt) hlevels _).result fun _ => rfl
      · rcases yields_operations.mp h with h | ⟨u, _, _, h⟩
        · have hends := ends_cons.mp (hK _ h)
          rw [Token.continuesOperands, List.any_cons, hop, Option.isSome_some, Bool.true_or,
            Bool.or_true] at hends
          cases hends
        · exact (yields_token_cons.mp h).2
termination_by ts.length
decreasing_by exact hlt

/-- By recursion on the levels, given the expressions in shorter lists. -/
theorem takeOperands_traces_of_below {ts : List Lexeme} (hs : TracesBelow stop ts.length) :
    ∀ {levels : List Level}, levels.Nodup →
      Traces stop (Token.continuesOperands levels) true [.phrase (.operands levels)] ts
        (takeOperands stop levels ts).left
  | [], _ => by
    rw [takeOperands]
    refine ((takeUnion_traces hs).imp ?_).congr yields_operands_nil
    intro t ht
    rw [Token.continuesOperands, ht, Bool.true_or]
  | level :: tighter, hlevels => by
    rw [takeOperands]
    obtain ⟨hlevel, htighter⟩ := List.nodup_cons.mp hlevels
    refine .congr ((takeOperands_traces_of_below hs htighter).bind
      [.phrase (.operations level tighter)] ?_ (.operations hlevel) .operations)
      yields_operands_cons
    rintro ⟨first, rest⟩ -
    exact (takeOperations_traces (hs.of_lt rest.length_lt) hlevels first).result fun _ => rfl

theorem tracesBelow (stop : Nat) : ∀ n, TracesBelow stop n
  | 0 => fun _ _ _ hlt => absurd hlt (Nat.not_lt_zero _)
  | n + 1 => fun _ _ hlevels hlt =>
    takeOperands_traces_of_below ((tracesBelow stop n).mono (Nat.le_of_lt_succ hlt)) hlevels

end Expressions

/-! ## Compiling -/

/-- An unexpected token is the first that is left. -/
theorem unexpected_eq_unexpectedToken {stop : Nat} {ts : List Lexeme} {found : Token}
    {position : Nat} (h : Error.unexpectedToken found position = unexpected stop ts) :
    ∃ rest, ts = ⟨found, position⟩ :: rest := by
  cases ts with
  | nil => cases h
  | cons t rest =>
    cases h
    exact ⟨rest, rfl⟩

theorem unexpected_eq_unexpectedEnd {stop : Nat} {ts : List Lexeme} {position : Nat}
    (h : Error.unexpectedEnd position = unexpected stop ts) : ts = [] ∧ position = stop := by
  cases ts with
  | nil =>
    cases h
    exact ⟨rfl, rfl⟩
  | cons t rest => cases h

/-- What a failure to parse says about the tokens. -/
theorem not_inLanguage_of_parse {stop : Nat} {ts : List Lexeme} {e : Error}
    (h : parse stop ts = .error e) :
    (e.isArity = false → ¬ InLanguage (tokens ts)) ∧
    (e.isUnexpected = true → ∃ before after, ts = before ++ after ∧ e = unexpected stop after ∧
      (∃ more, InLanguage (tokens before ++ more)) ∧
      ∀ w, w.head? = (tokens after).head? → ¬ InLanguage (tokens before ++ w)) := by
  have htraces := tracesBelow stop (ts.length + 1) Level.loosestFirst ts (by decide)
    (Nat.lt_succ_self _)
  rw [parse] at h
  split at h
  · next hempty =>
    cases h
    refine ⟨fun _ hnil => ?_, fun he => by cases he⟩
    rw [List.isEmpty_iff.mp hempty] at hnil
    obtain ⟨_, ⟨⟩, _⟩ := Yields.operands_head hnil
  · cases hoperands : takeOperands stop Level.loosestFirst ts with
    | error e' =>
      rw [hoperands] at h htraces
      cases h
      refine ⟨fun he => htraces.1 he stops_nil, fun he => ?_⟩
      obtain ⟨before, after, rfl, rfl, hviable, hstuck⟩ := htraces.2 he
      refine ⟨before, after, rfl, rfl, ?_, fun w hw => hstuck stops_nil hw⟩
      obtain ⟨more, hmore, -⟩ := hviable closable_nil
      exact ⟨more, hmore⟩
    | ok taken =>
      obtain ⟨expr, left⟩ := taken
      rw [hoperands] at h htraces
      obtain ⟨taken, hts, hforth, hback⟩ := htraces
      dsimp only [bind, Except.bind] at h
      split at h
      · cases h
      · next hne =>
        cases h
        have hstuck (w : List Token) (hw : w.head? = (tokens left.list).head?) :
            ¬ InLanguage (tokens taken ++ w) := by
          intro h
          rw [yields_nil.mp (hback stops_nil (.inl hw) h)] at hw
          have hnil := List.head?_eq_none_iff.mp hw.symm
          exact hne (List.isEmpty_iff.mpr (List.map_eq_nil_iff.mp hnil))
        refine ⟨fun _ => ?_, fun _ =>
          ⟨taken, left.list, hts, rfl, ⟨[], hforth (.inr closes_nil) .nil⟩, hstuck⟩⟩
        rw [hts, tokens_append]
        exact hstuck _ rfl

/-- **Errors point at the first offending token**: the tokens before it begin some sequence of the
language, and none goes on with it. At an unexpected end all tokens begin a longer sequence and are
none. Only calls with a wrong number of arguments are in the language and do not compile. -/
theorem errors_at_first_offender {source : String} {lexemes : List Lexeme}
    (hlex : lex source = .ok lexemes) :
    ((∀ ts expr, Grammar.Derives ts expr → InLanguage ts) ∧
      (∀ expr, compile source = .ok expr ↔ Grammar.Derives (tokens lexemes) expr) ∧
      (InLanguage (tokens lexemes) → (∃ expr, compile source = .ok expr) ∨
        ∃ name found, compile source = .error (.wrongArity name found))) ∧
    (∀ found position, compile source = .error (.unexpectedToken found position) →
      ∃ before after, lexemes = before ++ ⟨found, position⟩ :: after ∧
        (∃ c rest left, source.toList.drop position = c :: rest ∧
          Token.takeFrom c rest = .ok (found, left)) ∧
        (∃ more, InLanguage (tokens before ++ more)) ∧
        ∀ more, ¬ InLanguage (tokens before ++ found :: more)) ∧
    ∀ position, compile source = .error (.unexpectedEnd position) →
      position = source.toList.length ∧
        (∃ more, more ≠ [] ∧ InLanguage (tokens lexemes ++ more)) ∧
        ¬ InLanguage (tokens lexemes) := by
  have hcompile : compile source = parse source.toList.length lexemes := by
    rw [compile, hlex]
    rfl
  rw [hcompile]
  refine ⟨⟨fun _ _ => inLanguage_of_derives, fun _ => ⟨derives_of_parse, parse_of_derives _⟩,
    fun hin => ?_⟩, fun found position h => ?_, fun position h => ?_⟩
  · cases hparse : parse source.toList.length lexemes with
    | ok expr => exact .inl ⟨expr, rfl⟩
    | error e =>
      cases e with
      | wrongArity name found => exact .inr ⟨name, found, rfl⟩
      | _ => exact absurd hin ((not_inLanguage_of_parse hparse).1 rfl)
  · obtain ⟨before, after, rfl, heq, hmore, hstuck⟩ := (not_inLanguage_of_parse h).2 rfl
    obtain ⟨after, rfl⟩ := unexpected_eq_unexpectedToken heq
    refine ⟨before, after, rfl, ?_, hmore, fun more => hstuck _ rfl⟩
    obtain ⟨n, c, rest, left, hposition, hdrop, htake⟩ :=
      takeFrom_of_lexFrom hlex (List.mem_append_right before List.mem_cons_self)
    obtain rfl : position = n := hposition.trans (Nat.zero_add n)
    exact ⟨c, rest, left, hdrop, htake⟩
  · obtain ⟨before, after, rfl, heq, ⟨more, hmore⟩, hstuck⟩ := (not_inLanguage_of_parse h).2 rfl
    obtain ⟨rfl, rfl⟩ := unexpected_eq_unexpectedEnd heq
    have hnot := hstuck [] rfl
    rw [List.append_nil] at hnot ⊢
    refine ⟨rfl, ⟨more, fun hnil => ?_, hmore⟩, hnot⟩
    rw [hnil, List.append_nil] at hmore
    exact hnot hmore

/-- A bracket that closes nothing offends, and one that is not closed leaves the end. -/
theorem errors_at_first_offender_bracket :
    (compile "//a]" = .error (.unexpectedToken .closeBracket 3) ∧
      ∃ before after, [⟨.doubleSlash, 0⟩, ⟨.name "a", 2⟩, ⟨.closeBracket, 3⟩] =
          before ++ ⟨.closeBracket, 3⟩ :: after ∧
        (∃ more, InLanguage (tokens before ++ more)) ∧
        ∀ more, ¬ InLanguage (tokens before ++ .closeBracket :: more)) ∧
    compile "//a[" = .error (.unexpectedEnd 4) ∧
      (∃ more, more ≠ [] ∧ InLanguage ([.doubleSlash, .name "a", .openBracket] ++ more)) ∧
      ¬ InLanguage [.doubleSlash, .name "a", .openBracket] := by
  have hclose : lex "//a]" =
      .ok [⟨.doubleSlash, 0⟩, ⟨.name "a", 2⟩, ⟨.closeBracket, 3⟩] := by decide +kernel
  have hopen : lex "//a[" =
      .ok [⟨.doubleSlash, 0⟩, ⟨.name "a", 2⟩, ⟨.openBracket, 3⟩] := by decide +kernel
  have htoken : compile "//a]" = .error (.unexpectedToken .closeBracket 3) := by cbv
  have hend : compile "//a[" = .error (.unexpectedEnd 4) := by cbv
  obtain ⟨before, after, hts, -, hmore, hnot⟩ :=
    (errors_at_first_offender hclose).2.1 _ _ htoken
  exact ⟨⟨htoken, before, after, hts, hmore, hnot⟩, hend,
    ((errors_at_first_offender hopen).2.2 _ hend).2⟩

end Almanac.Selector
