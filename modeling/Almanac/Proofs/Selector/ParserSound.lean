import Almanac.Proofs.Selector.Grammar

/-!
# What the parser reads, the grammar has

Whatever a parser takes off the front of a list of lexemes, the grammar has a reading
of the tokens with the same tree and the same tokens left. The proofs follow the
recursion of the parsers.
-/

namespace Almanac.Selector

open Grammar

/-- The tokens of lexemes. -/
def tokens (ts : List Lexeme) : List Token := ts.map (·.token)

theorem atStepStart_eq_false {ts : List Lexeme} :
    atStepStart ts = false ↔ ∀ t ∈ (tokens ts).head?, t.startsStep = false := by
  cases ts with
  | nil => exact ⟨fun _ _ h => (nomatch h), fun _ => rfl⟩
  | cons t rest => exact ⟨fun h _ ht => Option.some.inj ht ▸ h, fun h => h t.token rfl⟩

theorem bind_eq_ok {ε α β : Type} {x : Except ε α} {f : α → Except ε β} {b : β}
    (h : x >>= f = .ok b) : ∃ a, x = .ok a ∧ f a = .ok b := by
  cases x with
  | error e => cases h
  | ok a => exact ⟨a, rfl, h⟩

/-! ## Parts without expressions in them -/

theorem expect_sound {stop : Nat} {token : Token} {ts : List Lexeme} {left : Shorter ts}
    (h : expect stop token ts = .ok ((), left)) : tokens ts = token :: tokens left.list := by
  cases ts with
  | nil => cases h
  | cons t rest =>
    rw [expect] at h
    split at h
    · next ht =>
      cases h
      rw [← ht]
      rfl
    · cases h

/-- The axis that the parser takes is the direction that the grammar reads. -/
theorem takeAxis_sound {ts : List Lexeme} {axis : Axis} {left : NoLonger ts}
    (h : takeAxis ts = .ok (axis, left)) : Direction (tokens ts) axis (tokens left.list) := by
  rw [takeAxis.eq_def] at h
  split at h
  · cases h
    exact .atSign
  · split at h
    · next hname =>
      cases h
      exact .named hname
    · cases h
  · cases h
    exact .absent

theorem nodeType?_eq_none {name : String} :
    nodeType? name = none ↔ name ≠ "text" ∧ name ≠ "node" := by
  rw [nodeType?]
  split
  · next h => exact ⟨fun hn => (nomatch hn), fun hn => absurd h hn.1⟩
  · next htext =>
    split
    · next h => exact ⟨fun hn => (nomatch hn), fun hn => absurd h hn.2⟩
    · next hnode => exact ⟨fun _ => ⟨htext, hnode⟩, fun _ => rfl⟩

theorem nodeType?_eq_some {name : String} {test : NodeTest} (h : nodeType? name = some test) :
    name = "text" ∧ test = .text ∨ name = "node" ∧ test = .node := by
  rw [nodeType?] at h
  split at h
  · next hname => exact .inl ⟨hname, (Option.some.inj h).symm⟩
  · split at h
    · next hname => exact .inr ⟨hname, (Option.some.inj h).symm⟩
    · cases h

theorem takeNodeTest_sound {stop : Nat} {ts : List Lexeme} {test : NodeTest} {left : Shorter ts}
    (h : takeNodeTest stop ts = .ok (test, left)) : Test (tokens ts) test (tokens left.list) := by
  rw [takeNodeTest.eq_def] at h
  split at h
  · cases h
    exact .any
  · split at h
    · next hname =>
      obtain ⟨⟨_, after⟩, hclose, h⟩ := bind_eq_ok h
      cases h
      have hrest := expect_sound hclose
      simp only [tokens, List.map_cons] at hrest ⊢
      rw [hrest]
      rcases nodeType?_eq_some hname with ⟨rfl, rfl⟩ | ⟨rfl, rfl⟩
      · exact .text
      · exact .node
    · cases h
      exact .name
  · cases h
    exact .name
  · cases h

/-! ## Expressions -/

/-- What the parser of operands takes off lists shorter than `n`, the grammar has. -/
def SoundBelow (stop n : Nat) : Prop :=
  ∀ (levels : List Level) (ts : List Lexeme) {expr : Expr} {left : Shorter ts}, ts.length < n →
    takeOperands stop levels ts = .ok (expr, left) →
      Operands levels (tokens ts) expr (tokens left.list)

theorem SoundBelow.mono {stop m n : Nat} (h : SoundBelow stop n) (hm : m ≤ n) :
    SoundBelow stop m :=
  fun levels ts _ _ hts => h levels ts (Nat.lt_of_lt_of_le hts hm)

theorem SoundBelow.of_lt {stop m n : Nat} (h : SoundBelow stop n) (hm : m < n) :
    SoundBelow stop m := h.mono (Nat.le_of_lt hm)

section Expressions

variable {stop : Nat}

/-- The predicates that the parser takes are read by the grammar, if shorter operands are. -/
theorem takePredicates_sound {ts : List Lexeme} (hs : SoundBelow stop ts.length)
    {predicates : List Expr} {left : NoLonger ts}
    (h : takePredicates stop ts = .ok (predicates, left)) :
    Predicates (tokens ts) predicates (tokens left.list) := by
  rw [takePredicates.eq_def] at h
  split at h
  · next rest =>
    obtain ⟨⟨predicate, rest₁⟩, hpredicate, h⟩ := bind_eq_ok h
    obtain ⟨⟨_, rest₂⟩, hclose, h⟩ := bind_eq_ok h
    obtain ⟨⟨more, after⟩, hmore, h⟩ := bind_eq_ok h
    cases h
    have hlt := Nat.lt_succ_of_lt (rest₁.trans rest₂).length_lt
    have hoperands := hs _ rest (Nat.lt_succ_self _) hpredicate
    rw [expect_sound hclose] at hoperands
    exact .more hoperands (takePredicates_sound (hs.of_lt hlt) hmore)
  · cases h
    exact .none
termination_by ts.length
decreasing_by subst_vars; exact hlt

/-- The step that the parser takes is read by the grammar. -/
theorem takeStep_sound {ts : List Lexeme} (hs : SoundBelow stop ts.length) {step : Step Expr}
    {left : Shorter ts} (h : takeStep stop ts = .ok (step, left)) :
    OneStep (tokens ts) step (tokens left.list) := by
  rw [takeStep.eq_def] at h
  split at h
  · cases h
    exact .dot
  · cases h
    exact .doubleDot
  · obtain ⟨⟨axis, rest₁⟩, haxis, h⟩ := bind_eq_ok h
    obtain ⟨⟨test, rest₂⟩, htest, h⟩ := bind_eq_ok h
    obtain ⟨⟨predicates, after⟩, hpredicates, h⟩ := bind_eq_ok h
    cases h
    exact .test (takeAxis_sound haxis) (takeNodeTest_sound htest)
      (takePredicates_sound (hs.of_lt (rest₁.transShorter rest₂).length_lt) hpredicates)

theorem takeMoreSteps_sound {ts : List Lexeme} (hs : SoundBelow stop ts.length)
    {steps : List (Step Expr)} {left : NoLonger ts}
    (h : takeMoreSteps stop ts = .ok (steps, left)) :
    MoreSteps (tokens ts) steps (tokens left.list) := by
  rw [takeMoreSteps.eq_def] at h
  split at h
  · obtain ⟨⟨step, rest'⟩, hstep, h⟩ := bind_eq_ok h
    obtain ⟨⟨more, after⟩, hmore, h⟩ := bind_eq_ok h
    cases h
    have hlt := Nat.lt_succ_of_lt rest'.length_lt
    exact .slash (takeStep_sound (hs.mono (Nat.le_succ _)) hstep)
      (takeMoreSteps_sound (hs.of_lt hlt) hmore)
  · obtain ⟨⟨step, rest'⟩, hstep, h⟩ := bind_eq_ok h
    obtain ⟨⟨more, after⟩, hmore, h⟩ := bind_eq_ok h
    cases h
    have hlt := Nat.lt_succ_of_lt rest'.length_lt
    exact .doubleSlash (takeStep_sound (hs.mono (Nat.le_succ _)) hstep)
      (takeMoreSteps_sound (hs.of_lt hlt) hmore)
  · cases h
    exact .none
termination_by ts.length
decreasing_by all_goals (subst_vars; exact hlt)

theorem takeSteps_sound {ts : List Lexeme} (hs : SoundBelow stop ts.length)
    {steps : List (Step Expr)} {left : Shorter ts} (h : takeSteps stop ts = .ok (steps, left)) :
    Steps (tokens ts) steps (tokens left.list) := by
  rw [takeSteps] at h
  obtain ⟨⟨first, rest⟩, hfirst, h⟩ := bind_eq_ok h
  obtain ⟨⟨more, after⟩, hmore, h⟩ := bind_eq_ok h
  cases h
  exact .mk (takeStep_sound hs hfirst) (takeMoreSteps_sound (hs.of_lt rest.length_lt) hmore)

/-- What the parser puts behind a base is a tail of predicates and steps. -/
theorem takeFilter_sound {ts : List Lexeme} (hs : SoundBelow stop ts.length) {base whole : Expr}
    {left : NoLonger ts} (h : takeFilter stop base ts = .ok (whole, left)) :
    ∃ predicates steps, Tail (tokens ts) predicates steps (tokens left.list) ∧
      filtered base predicates steps = whole := by
  rw [takeFilter] at h
  obtain ⟨⟨predicates, rest⟩, hpredicates, h⟩ := bind_eq_ok h
  obtain ⟨⟨steps, after⟩, hsteps, h⟩ := bind_eq_ok h
  cases h
  exact ⟨predicates, steps, .of_moreSteps (takePredicates_sound hs hpredicates)
    (takeMoreSteps_sound (hs.mono rest.length_le) hsteps), rfl⟩

theorem takeMoreArguments_sound {ts : List Lexeme} (hs : SoundBelow stop ts.length)
    {arguments : List Expr} {left : Shorter ts}
    (h : takeMoreArguments stop ts = .ok (arguments, left)) :
    MoreArguments (tokens ts) arguments (tokens left.list) := by
  rw [takeMoreArguments.eq_def] at h
  split at h
  · cases h
    exact .none
  · next rest =>
    obtain ⟨⟨argument, rest'⟩, hargument, h⟩ := bind_eq_ok h
    obtain ⟨⟨more, after⟩, hmore, h⟩ := bind_eq_ok h
    cases h
    have hlt := Nat.lt_succ_of_lt rest'.length_lt
    exact .more (hs _ rest (Nat.lt_succ_self _) hargument)
      (takeMoreArguments_sound (hs.of_lt hlt) hmore)
  · cases h
termination_by ts.length
decreasing_by subst_vars; exact hlt

/-- The arguments stand behind other lexemes, so that the first argument is read off a
shorter list. -/
theorem takeArguments_sound {ts : List Lexeme} (hs : SoundBelow stop (ts.length + 1))
    {arguments : List Expr} {left : Shorter ts}
    (h : takeArguments stop ts = .ok (arguments, left)) :
    Arguments (tokens ts) arguments (tokens left.list) := by
  rw [takeArguments.eq_def] at h
  split at h
  · cases h
    exact .none
  · obtain ⟨⟨first, rest⟩, hfirst, h⟩ := bind_eq_ok h
    obtain ⟨⟨more, after⟩, hmore, h⟩ := bind_eq_ok h
    cases h
    exact .some (hs _ _ (Nat.lt_succ_self _) hfirst)
      (takeMoreArguments_sound (hs.of_lt (Nat.lt_succ_of_lt rest.length_lt)) hmore)

theorem takePath_sound {ts : List Lexeme} (hs : SoundBelow stop ts.length) {expr : Expr}
    {left : Shorter ts} (h : takePath stop ts = .ok (expr, left)) :
    Path (tokens ts) expr (tokens left.list) := by
  rw [takePath.eq_def] at h
  split at h
  · cases h
  · cases h
    exact .literal
  · cases h
    exact .number
  · next rest =>
    obtain ⟨⟨inner, rest₁⟩, hinner, h⟩ := bind_eq_ok h
    obtain ⟨⟨_, rest₂⟩, hclose, h⟩ := bind_eq_ok h
    obtain ⟨⟨whole, after⟩, hwhole, h⟩ := bind_eq_ok h
    cases h
    have hlt := Nat.lt_succ_of_lt (rest₁.trans rest₂).length_lt
    obtain ⟨predicates, steps, htail, rfl⟩ := takeFilter_sound (hs.of_lt hlt) hwhole
    have hoperands := hs _ rest (Nat.lt_succ_self _) hinner
    rw [expect_sound hclose] at hoperands
    exact .parens hoperands htail
  · split at h
    · obtain ⟨⟨steps, after⟩, hsteps, h⟩ := bind_eq_ok h
      cases h
      exact .fromRoot (takeSteps_sound (hs.mono (Nat.le_succ _)) hsteps)
    · next hstart =>
      cases h
      exact .root (atStepStart_eq_false.mp ((Bool.not_eq_true _).mp hstart))
  · obtain ⟨⟨steps, after⟩, hsteps, h⟩ := bind_eq_ok h
    cases h
    exact .inDocument (takeSteps_sound (hs.mono (Nat.le_succ _)) hsteps)
  · split at h
    · obtain ⟨⟨steps, after⟩, hsteps, h⟩ := bind_eq_ok h
      cases h
      exact .relative (takeSteps_sound hs hsteps)
    · next hname =>
      split at h
      · cases h
      · next hfunction =>
        obtain ⟨⟨arguments, rest'⟩, harguments, h⟩ := bind_eq_ok h
        dsimp only at h
        split at h
        · next htakes =>
          obtain ⟨⟨whole, after⟩, hwhole, h⟩ := bind_eq_ok h
          cases h
          have hlt := Nat.lt_succ_of_lt (Nat.lt_succ_of_lt rest'.length_lt)
          obtain ⟨predicates, steps, htail, rfl⟩ := takeFilter_sound (hs.of_lt hlt) hwhole
          obtain ⟨htext, hnode⟩ := nodeType?_eq_none.mp (Option.not_isSome_iff_eq_none.mp hname)
          have harguments := takeArguments_sound (hs.mono (Nat.le_succ _)) harguments
          exact .call htext hnode hfunction harguments htakes htail
        · cases h
  · split at h
    · obtain ⟨⟨steps, after⟩, hsteps, h⟩ := bind_eq_ok h
      cases h
      exact .relative (takeSteps_sound hs hsteps)
    · cases h

theorem takeBranches_sound {ts : List Lexeme} (hs : SoundBelow stop ts.length)
    {branches : List Expr} {left : NoLonger ts}
    (h : takeBranches stop ts = .ok (branches, left)) :
    Branches (tokens ts) branches (tokens left.list) := by
  rw [takeBranches.eq_def] at h
  split at h
  · obtain ⟨⟨branch, rest'⟩, hbranch, h⟩ := bind_eq_ok h
    obtain ⟨⟨more, after⟩, hmore, h⟩ := bind_eq_ok h
    cases h
    have hlt := Nat.lt_succ_of_lt rest'.length_lt
    exact .more (takePath_sound (hs.mono (Nat.le_succ _)) hbranch)
      (takeBranches_sound (hs.of_lt hlt) hmore)
  · cases h
    exact .none
termination_by ts.length
decreasing_by subst_vars; exact hlt

theorem takeUnion_sound {ts : List Lexeme} (hs : SoundBelow stop ts.length) {expr : Expr}
    {left : Shorter ts} (h : takeUnion stop ts = .ok (expr, left)) :
    Alternatives (tokens ts) expr (tokens left.list) := by
  rw [takeUnion] at h
  obtain ⟨⟨first, rest⟩, hfirst, h⟩ := bind_eq_ok h
  obtain ⟨⟨more, after⟩, hmore, h⟩ := bind_eq_ok h
  cases h
  have hpath := takePath_sound hs hfirst
  have hbranches := takeBranches_sound (hs.of_lt rest.length_lt) hmore
  cases more with
  | nil => exact .one (hbranches.eq_of_nil ▸ hpath)
  | cons second more => exact .many hpath hbranches

/-- What the parser joins to an operand is a chain of operations. -/
theorem takeOperations_sound {level : Level} {tighter : List Level} {ts : List Lexeme}
    (hs : SoundBelow stop ts.length) {first whole : Expr} {left : NoLonger ts}
    (h : takeOperations stop level tighter first ts = .ok (whole, left)) :
    ∃ chain, Operations level tighter (tokens ts) chain (tokens left.list) ∧
      joined first chain = whole := by
  match ts with
  | [] =>
    rw [takeOperations] at h
    cases h
    exact ⟨[], .none, rfl⟩
  | t :: rest =>
    rw [takeOperations] at h
    split at h
    · cases h
      exact ⟨[], .none, rfl⟩
    · next operator hop =>
      obtain ⟨⟨right, rest'⟩, hright, h⟩ := bind_eq_ok h
      obtain ⟨⟨whole', after⟩, hwhole, h⟩ := bind_eq_ok h
      cases h
      have hlt := Nat.lt_succ_of_lt rest'.length_lt
      obtain ⟨chain, hchain, rfl⟩ := takeOperations_sound (hs.of_lt hlt) hwhole
      exact ⟨(operator, right) :: chain,
        .more (joins_iff.mpr hop) (hs tighter rest (Nat.lt_succ_self _) hright) hchain, rfl⟩
termination_by ts.length
decreasing_by exact hlt

/-- By recursion on the levels, given the expressions in shorter lists. -/
theorem takeOperands_sound_of_below {ts : List Lexeme} (hs : SoundBelow stop ts.length) :
    ∀ {levels : List Level} {expr : Expr} {left : Shorter ts},
      takeOperands stop levels ts = .ok (expr, left) →
        Operands levels (tokens ts) expr (tokens left.list)
  | [], _, _, h => by
    rw [takeOperands] at h
    exact .alternatives (takeUnion_sound hs h)
  | level :: tighter, _, _, h => by
    rw [takeOperands] at h
    obtain ⟨⟨first, rest⟩, hfirst, h⟩ := bind_eq_ok h
    obtain ⟨⟨whole, after⟩, hwhole, h⟩ := bind_eq_ok h
    cases h
    obtain ⟨chain, hchain, rfl⟩ := takeOperations_sound (hs.of_lt rest.length_lt) hwhole
    exact .joined (takeOperands_sound_of_below hs hfirst) hchain

/-- The operands that the parser takes are read by the grammar, whatever the number of lexemes. -/
theorem soundBelow (stop : Nat) : ∀ n, SoundBelow stop n
  | 0 => fun _ _ _ _ hlt => absurd hlt (Nat.not_lt_zero _)
  | n + 1 => fun _ _ _ _ hlt h =>
    takeOperands_sound_of_below ((soundBelow stop n).mono (Nat.le_of_lt_succ hlt)) h

/-- **What is parsed is derived.** -/
theorem derives_of_parse {ts : List Lexeme} {expr : Expr} (h : parse stop ts = .ok expr) :
    Derives (tokens ts) expr := by
  rw [parse] at h
  split at h
  · cases h
  · obtain ⟨⟨expr', rest⟩, hexpr, h⟩ := bind_eq_ok h
    dsimp only at h
    split at h
    · next hempty =>
      cases h
      have hoperands := takeOperands_sound_of_below (soundBelow stop _) hexpr
      rwa [List.isEmpty_iff.mp hempty] at hoperands
    · cases h

end Expressions

end Almanac.Selector
