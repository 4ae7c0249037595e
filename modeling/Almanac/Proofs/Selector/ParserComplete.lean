import Almanac.Proofs.Selector.ParserSound

/-!
# What the grammar has, the parser reads

A repetition of the grammar may end anywhere, that of a parser ends at the first token
that cannot continue it. So the parser takes a reading of the grammar when the token
behind it, if there is one, cannot continue it (`Ends`). Inside a reading this holds by
itself, since what stands behind each part is fixed by the grammar, and at the end no
token is left. With it an expression has one tree, and parsing finds it
(`parse_iff_derives`).
-/

namespace Almanac.Selector

open Grammar

/-! ## Tokens that continue a reading -/

/-- Whether a token behind a node test would make it another step. -/
def Token.continuesTest : Token → Bool
  | .openParen | .doubleColon => true
  | _ => false

/-- Whether a token behind a step would be part of it. -/
def Token.continuesStep (t : Token) : Bool := t.continuesTest || t = .openBracket

/-- Whether a token behind a path would be part of it. -/
def Token.continuesPath (t : Token) : Bool := t.continuesStep || t = .slash || t = .doubleSlash

/-- Whether a token behind a union would be part of it. -/
def Token.continuesUnion (t : Token) : Bool := t.continuesPath || t = .bar

/-- Whether a token behind operands of some levels would be part of them. -/
def Token.continuesOperands (levels : List Level) (t : Token) : Bool :=
  t.continuesUnion || levels.any fun level => (level.operator? t).isSome

/-- No token at the front of the tokens left has a property. -/
def Ends (p : Token → Bool) (rest : List Token) : Prop := ∀ t ∈ rest.head?, p t = false

section Ends

variable {p q : Token → Bool} {t : Token} {ts rest : List Token}

theorem ends_cons : Ends p (t :: rest) ↔ p t = false :=
  ⟨fun h => h t rfl, fun h _ ht => Option.some.inj ht ▸ h⟩

theorem Ends.imp (h : Ends p rest) (hqp : ∀ t, q t = true → p t = true) : Ends q rest := by
  intro t ht
  have hp := h t ht
  rw [← Bool.not_eq_true] at hp ⊢
  exact fun hq => hp (hqp t hq)

theorem Ends.append (h : Ends p ts) (hrest : Ends p rest) : Ends p (ts ++ rest) := by
  cases ts with
  | nil => exact hrest
  | cons t ts => exact h

theorem Ends.path (h : Ends Token.continuesUnion rest) : Ends Token.continuesPath rest :=
  h.imp fun _ ht => by rw [Token.continuesUnion, ht, Bool.true_or]

theorem Ends.step (h : Ends Token.continuesPath rest) : Ends Token.continuesStep rest :=
  h.imp fun _ ht => by rw [Token.continuesPath, ht, Bool.true_or, Bool.true_or]

theorem Ends.test (h : Ends Token.continuesStep rest) : Ends Token.continuesTest rest :=
  h.imp fun _ ht => by rw [Token.continuesStep, ht, Bool.true_or]

theorem Ends.union {levels : List Level} (h : Ends (Token.continuesOperands levels) rest) :
    Ends Token.continuesUnion rest :=
  h.imp fun _ ht => by rw [Token.continuesOperands, ht, Bool.true_or]

/-- What ends operands of some levels ends operands of the tighter ones. -/
theorem Ends.tighter {level : Level} {tighter : List Level}
    (h : Ends (Token.continuesOperands (level :: tighter)) rest) :
    Ends (Token.continuesOperands tighter) rest :=
  h.imp fun _ ht => by
    rw [Token.continuesOperands, Bool.or_eq_true] at ht ⊢
    exact ht.imp_right fun ht => by rw [List.any_cons, ht, Bool.or_true]

end Ends

namespace Grammar

variable {p : Token → Bool} {ts rest : List Token}

/-- A reading ends before predicates if it ends at a bracket and behind them. -/
theorem Predicates.ends {predicates : List Expr} (h : Predicates ts predicates rest)
    (hrest : Ends p rest) (hp : p .openBracket = false) : Ends p ts := by
  cases h with
  | none => exact hrest
  | more _ _ => exact ends_cons.mpr hp

theorem MoreSteps.ends {steps : List (Step Expr)} (h : MoreSteps ts steps rest)
    (hrest : Ends p rest) (hp : p .slash = false) (hq : p .doubleSlash = false) : Ends p ts := by
  cases h with
  | none => exact hrest
  | slash _ _ => exact ends_cons.mpr hp
  | doubleSlash _ _ => exact ends_cons.mpr hq

/-- A reading ends before branches if it ends at a bar and behind them. -/
theorem Branches.ends {branches : List Expr} (h : Branches ts branches rest)
    (hrest : Ends p rest) (hp : p .bar = false) : Ends p ts := by
  cases h with
  | none => exact hrest
  | more _ _ => exact ends_cons.mpr hp

/-- An argument ends before a comma and before the parenthesis that closes the call. -/
theorem MoreArguments.ends {arguments : List Expr} (h : MoreArguments ts arguments rest) :
    Ends (Token.continuesOperands Level.loosestFirst) ts := by
  cases h <;> exact ends_cons.mpr rfl

/-- An operator of a level continues no operands of tighter levels. -/
theorem Joins.continuesOperands_eq_false {level : Level} {tighter : List Level} {t : Token}
    {operator : Operator} (hop : Joins level t operator) (hlevel : level ∉ tighter) :
    t.continuesOperands tighter = false := by
  rw [Token.continuesOperands, Bool.or_eq_false_iff, List.any_eq_false]
  refine ⟨by cases hop <;> rfl, fun other hother hsome => ?_⟩
  obtain ⟨operator, hsome⟩ := Option.isSome_iff_exists.mp hsome
  rw [hop.level_eq (joins_iff.mpr hsome)] at hlevel
  exact hlevel hother

/-- An operand ends before operations of a looser level. -/
theorem Operations.ends {level : Level} {tighter : List Level}
    {chain : List (Operator × Expr)} (h : Operations level tighter ts chain rest)
    (hlevel : level ∉ tighter) (hrest : Ends (Token.continuesOperands (level :: tighter)) rest) :
    Ends (Token.continuesOperands tighter) ts := by
  cases h with
  | none => exact hrest.tighter
  | more hop _ _ => exact ends_cons.mpr (hop.continuesOperands_eq_false hlevel)

/-! ## Parts without expressions in them -/

variable {stop : Nat}

theorem exists_of_tokens_cons {lexemes : List Lexeme} {t : Token}
    (h : tokens lexemes = t :: rest) :
    ∃ position left, lexemes = ⟨t, position⟩ :: left ∧ tokens left = rest := by
  obtain ⟨⟨t, position⟩, left, rfl, rfl, rfl⟩ := List.map_eq_cons_iff.mp h
  exact ⟨position, left, rfl, rfl⟩

theorem expect_complete (stop : Nat) {lexemes : List Lexeme} {t : Token} (h : tokens lexemes = t :: rest) :
    ∃ left, expect stop t lexemes = .ok ((), left) ∧ tokens left.list = rest := by
  obtain ⟨position, left, rfl, rfl⟩ := exists_of_tokens_cons h
  exact ⟨.tail, if_pos rfl, rfl⟩

/-- The parser finds the direction of a step that the grammar reads. -/
theorem takeAxis_complete {lexemes : List Lexeme} {axis : Axis} {test : NodeTest}
    {between : List Token} (h : Direction (tokens lexemes) axis between)
    (htest : Test between test rest) (hends : Ends Token.continuesTest rest) :
    ∃ left, takeAxis lexemes = .ok (axis, left) ∧ tokens left.list = between := by
  generalize hts : tokens lexemes = ts at h
  cases h with
  | absent =>
    refine ⟨.all lexemes, ?_, hts⟩
    rw [takeAxis.eq_def]
    split
    · subst hts
      cases htest
    · subst hts
      cases htest with
      | name => cases ends_cons.mp hends
    · rfl
  | atSign =>
    obtain ⟨position, left, rfl, rfl⟩ := exists_of_tokens_cons hts
    exact ⟨_, rfl, rfl⟩
  | named haxis =>
    obtain ⟨_, left, rfl, hleft⟩ := exists_of_tokens_cons hts
    obtain ⟨_, left, rfl, rfl⟩ := exists_of_tokens_cons hleft
    refine ⟨Shorter.tail.cons.toNoLonger, ?_, rfl⟩
    rw [takeAxis.eq_def]
    simp only [haxis]

theorem takeNodeTest_type {name : String} {test : NodeTest} (hname : nodeType? name = some test)
    {lexemes : List Lexeme}
    (h : tokens lexemes = .name name :: .openParen :: .closeParen :: rest) :
    ∃ left, takeNodeTest stop lexemes = .ok (test, left) ∧ tokens left.list = rest := by
  obtain ⟨_, left, rfl, hopen⟩ := exists_of_tokens_cons h
  obtain ⟨_, left, rfl, hleft⟩ := exists_of_tokens_cons hopen
  obtain ⟨after, hclose, hafter⟩ := expect_complete stop hleft
  refine ⟨after.cons.cons, ?_, hafter⟩
  rw [takeNodeTest.eq_def]
  simp only [hname, hclose]
  rfl

theorem takeNodeTest_complete (stop : Nat) {lexemes : List Lexeme} {test : NodeTest}
    (h : Test (tokens lexemes) test rest) (hends : Ends Token.continuesTest rest) :
    ∃ left, takeNodeTest stop lexemes = .ok (test, left) ∧ tokens left.list = rest := by
  generalize hts : tokens lexemes = ts at h
  cases h with
  | any =>
    obtain ⟨_, left, rfl, rfl⟩ := exists_of_tokens_cons hts
    exact ⟨.tail, rfl, rfl⟩
  | text => exact takeNodeTest_type rfl hts
  | node => exact takeNodeTest_type rfl hts
  | @name name _ =>
    obtain ⟨_, left, rfl, rfl⟩ := exists_of_tokens_cons hts
    refine ⟨.tail, ?_, rfl⟩
    match left with
    | [] => rfl
    | t :: left =>
      rw [takeNodeTest]
      rintro _ _ ⟨rfl⟩
      cases ends_cons.mp hends

/-! ## Repetitions that end -/

/-- No predicate is taken where none begins. -/
theorem takePredicates_of_ends {lexemes : List Lexeme}
    (h : Ends Token.continuesStep (tokens lexemes)) :
    takePredicates stop lexemes = .ok ([], .all lexemes) := by
  rw [takePredicates.eq_def]
  split
  · cases ends_cons.mp h
  · rfl

theorem takeMoreSteps_of_ends {lexemes : List Lexeme}
    (h : Ends Token.continuesPath (tokens lexemes)) :
    takeMoreSteps stop lexemes = .ok ([], .all lexemes) := by
  rw [takeMoreSteps.eq_def]
  split
  · cases ends_cons.mp h
  · cases ends_cons.mp h
  · rfl

theorem takeBranches_of_ends {lexemes : List Lexeme}
    (h : Ends Token.continuesUnion (tokens lexemes)) :
    takeBranches stop lexemes = .ok ([], .all lexemes) := by
  rw [takeBranches.eq_def]
  split
  · cases ends_cons.mp h
  · rfl

theorem takeOperations_of_ends {level : Level} {tighter : List Level} {left : Expr}
    {lexemes : List Lexeme}
    (h : Ends (Token.continuesOperands (level :: tighter)) (tokens lexemes)) :
    takeOperations stop level tighter left lexemes = .ok (left, .all lexemes) := by
  cases lexemes with
  | nil => rw [takeOperations]
  | cons t lexemes =>
    have ht := ends_cons.mp h
    rw [Token.continuesOperands, List.any_cons, Bool.or_eq_false_iff, Bool.or_eq_false_iff,
      Option.isSome_eq_false_iff, Option.isNone_iff_eq_none] at ht
    rw [takeOperations]
    simp only [ht.2.1]

/-! ## One more of a repetition -/

theorem takeMoreSteps_slash {lexemes : List Lexeme} {position : Nat} {step : Step Expr}
    {rest' : Shorter lexemes} {more : List (Step Expr)} {after : NoLonger rest'.list}
    (hstep : takeStep stop lexemes = .ok (step, rest'))
    (hmore : takeMoreSteps stop rest'.list = .ok (more, after)) :
    takeMoreSteps stop (⟨.slash, position⟩ :: lexemes) =
      .ok (step :: more, (rest'.trans after).cons.toNoLonger) := by
  rw [takeMoreSteps, hstep]
  dsimp only [bind, Except.bind]
  rw [hmore]
  rfl

theorem takeMoreSteps_doubleSlash {lexemes : List Lexeme} {position : Nat} {step : Step Expr}
    {rest' : Shorter lexemes} {more : List (Step Expr)} {after : NoLonger rest'.list}
    (hstep : takeStep stop lexemes = .ok (step, rest'))
    (hmore : takeMoreSteps stop rest'.list = .ok (more, after)) :
    takeMoreSteps stop (⟨.doubleSlash, position⟩ :: lexemes) =
      .ok (.toAny .descendantOrSelf :: step :: more, (rest'.trans after).cons.toNoLonger) := by
  rw [takeMoreSteps, hstep]
  dsimp only [bind, Except.bind]
  rw [hmore]
  rfl

/-! ## Ways into a parser -/

/-- The parser can tell from the first token that steps begin. -/
theorem atStepStart_of_steps {lexemes : List Lexeme} {steps : List (Step Expr)}
    (h : Steps (tokens lexemes) steps rest) : atStepStart lexemes = true := by
  obtain ⟨t, after, hts, ht⟩ := h.startsStep
  obtain ⟨_, left, rfl, -⟩ := exists_of_tokens_cons hts
  exact ht

theorem takeFilter_of_steps {lexemes : List Lexeme} {base : Expr} {predicates : List Expr}
    {rest' : NoLonger lexemes} {steps : List (Step Expr)} {left : NoLonger rest'.list}
    (hpredicates : takePredicates stop lexemes = .ok (predicates, rest'))
    (hsteps : takeMoreSteps stop rest'.list = .ok (steps, left)) :
    takeFilter stop base lexemes = .ok (filtered base predicates steps, rest'.trans left) := by
  rw [takeFilter, hpredicates]
  dsimp only [bind, Except.bind]
  rw [hsteps]
  rfl

theorem takeArguments_some {lexemes : List Lexeme} {first : Expr} {rest' : Shorter lexemes}
    {more : List Expr} {after : Shorter rest'.list}
    (hne : (tokens lexemes).head? ≠ some .closeParen)
    (hfirst : takeOperands stop Level.loosestFirst lexemes = .ok (first, rest'))
    (hmore : takeMoreArguments stop rest'.list = .ok (more, after)) :
    takeArguments stop lexemes = .ok (first :: more, rest'.trans after) := by
  rw [takeArguments.eq_def]
  split
  · exact absurd rfl hne
  · rw [hfirst]
    dsimp only [bind, Except.bind]
    rw [hmore]
    rfl

/-- A step is taken in one piece if its direction, its test and its predicates are. -/
theorem takeStep_test {lexemes : List Lexeme} {between₁ between₂ : List Token} {axis : Axis}
    {test : NodeTest} {predicates : List Expr} (hdirection : Direction (tokens lexemes) axis between₁)
    (htest : Test between₁ test between₂) (hends : Ends Token.continuesTest between₂)
    (hpredicates : ∀ {left : List Lexeme}, tokens left = between₂ →
      ∃ after, takePredicates stop left = .ok (predicates, after) ∧ tokens after.list = rest) :
    ∃ left, takeStep stop lexemes = .ok (⟨axis, test, predicates⟩, left) ∧
      tokens left.list = rest := by
  obtain ⟨left₁, haxis, rfl⟩ := takeAxis_complete hdirection htest hends
  obtain ⟨left₂, hname, hleft₂⟩ := takeNodeTest_complete stop htest hends
  obtain ⟨left, htake, hleft⟩ := hpredicates hleft₂
  refine ⟨left₁.transShorter (left₂.trans left), ?_, hleft⟩
  rw [takeStep.eq_def]
  split
  · cases haxis
    cases htest
  · cases haxis
    cases htest
  · rw [haxis]
    dsimp only [bind, Except.bind]
    rw [hname]
    dsimp only
    rw [htake]
    rfl

/-- A step that a parenthesis stands behind the first name of tests the kind of a node. -/
theorem isSome_nodeType? {name : String} {steps : List (Step Expr)}
    (h : Steps (.name name :: .openParen :: ts) steps rest)
    (hends : Ends Token.continuesPath rest) : (nodeType? name).isSome = true := by
  obtain ⟨hstep, hmore⟩ := h
  cases hstep with
  | test hdirection htest hpredicates =>
    cases hdirection
    cases htest with
    | text | node => rfl
    | name =>
      cases hpredicates
      cases hmore
      cases ends_cons.mp hends

/-- Steps at the front are taken as a path from the item at hand. -/
theorem takePath_relative {lexemes : List Lexeme} {steps : List (Step Expr)}
    {left : Shorter lexemes} (h : Steps (tokens lexemes) steps rest)
    (hends : Ends Token.continuesPath rest) (htake : takeSteps stop lexemes = .ok (steps, left)) :
    takePath stop lexemes = .ok (.path false steps, left) := by
  obtain ⟨t, after, hts, ht⟩ := h.startsStep
  -- the token that begins the first step begins nothing else, unless it is a name
  rw [takePath.eq_def]
  split
  · cases hts
  · cases hts
    cases ht
  · cases hts
    cases ht
  · cases hts
    cases ht
  · cases hts
    cases ht
  · cases hts
    cases ht
  · rw [if_pos (isSome_nodeType? h hends), htake]
    rfl
  · cases hts
    rw [if_pos ht, htake]
    rfl

/-! ## Expressions -/

mutual

/-- The parser takes the operands that the grammar reads, one kind of phrase at a time. -/
theorem Operands.complete : ∀ {levels : List Level} {ts rest : List Token} {expr : Expr},
    Operands levels ts expr rest → levels.Nodup → Ends (Token.continuesOperands levels) rest →
    ∀ {lexemes : List Lexeme}, tokens lexemes = ts →
      ∃ left, takeOperands stop levels lexemes = .ok (expr, left) ∧ tokens left.list = rest
  | _, _, _, _, .alternatives h, _, hends, _, hts => by
    rw [takeOperands]
    exact h.complete hends.union hts
  | _, _, _, _, .joined h hchain, hlevels, hends, _, hts => by
    obtain ⟨hlevel, htighter⟩ := List.nodup_cons.mp hlevels
    -- behind the left operand is an operator of this level or what ends the whole
    obtain ⟨rest', hfirst, hrest'⟩ := h.complete htighter (hchain.ends hlevel hends) hts
    obtain ⟨left, hwhole, hleft⟩ := hchain.complete hlevels hends _ hrest'
    refine ⟨rest'.trans left, ?_, hleft⟩
    rw [takeOperands, hfirst]
    dsimp only [bind, Except.bind]
    rw [hwhole]
    rfl

theorem Operations.complete : ∀ {level : Level} {tighter : List Level} {ts rest : List Token}
    {chain : List (Operator × Expr)}, Operations level tighter ts chain rest →
    (level :: tighter).Nodup → Ends (Token.continuesOperands (level :: tighter)) rest →
    ∀ (first : Expr) {lexemes : List Lexeme}, tokens lexemes = ts →
      ∃ left, takeOperations stop level tighter first lexemes = .ok (joined first chain, left) ∧
        tokens left.list = rest
  | _, _, _, _, _, .none, _, hends, _, lexemes, hts =>
    ⟨.all lexemes, takeOperations_of_ends (hts ▸ hends), hts⟩
  | _, _, _, _, _, .more hop h hchain, hlevels, hends, first, _, hts => by
    obtain ⟨hlevel, htighter⟩ := List.nodup_cons.mp hlevels
    obtain ⟨_, lexemes, rfl, hin⟩ := exists_of_tokens_cons hts
    obtain ⟨rest', hright, hrest'⟩ := h.complete htighter (hchain.ends hlevel hends) hin
    obtain ⟨left, hwhole, hleft⟩ := hchain.complete hlevels hends _ hrest'
    refine ⟨(rest'.trans left).cons.toNoLonger, ?_, hleft⟩
    rw [takeOperations]
    simp only [joins_iff.mp hop]
    rw [hright]
    dsimp only [bind, Except.bind]
    rw [hwhole]
    rfl

theorem Alternatives.complete : ∀ {ts rest : List Token} {expr : Expr},
    Alternatives ts expr rest → Ends Token.continuesUnion rest →
    ∀ {lexemes : List Lexeme}, tokens lexemes = ts →
      ∃ left, takeUnion stop lexemes = .ok (expr, left) ∧ tokens left.list = rest
  | _, _, _, .one h, hends, _, hts => by
    obtain ⟨left, hpath, hleft⟩ := h.complete hends.path hts
    refine ⟨left.trans (.all left.list), ?_, hleft⟩
    rw [takeUnion, hpath]
    dsimp only [bind, Except.bind]
    rw [takeBranches_of_ends (hleft ▸ hends)]
    rfl
  | _, _, _, .many h hmore, hends, _, hts => by
    obtain ⟨rest', hfirst, hrest'⟩ := h.complete (hmore.ends hends.path rfl) hts
    obtain ⟨left, hbranches, hleft⟩ := hmore.complete hends hrest'
    refine ⟨rest'.trans left, ?_, hleft⟩
    rw [takeUnion, hfirst]
    dsimp only [bind, Except.bind]
    rw [hbranches]
    rfl

theorem Branches.complete : ∀ {ts rest : List Token} {branches : List Expr},
    Branches ts branches rest → Ends Token.continuesUnion rest →
    ∀ {lexemes : List Lexeme}, tokens lexemes = ts →
      ∃ left, takeBranches stop lexemes = .ok (branches, left) ∧ tokens left.list = rest
  | _, _, _, .none, hends, lexemes, hts =>
    ⟨.all lexemes, takeBranches_of_ends (hts ▸ hends), hts⟩
  | _, _, _, .more h hmore, hends, _, hts => by
    obtain ⟨_, lexemes, rfl, hin⟩ := exists_of_tokens_cons hts
    obtain ⟨rest', hbranch, hrest'⟩ := h.complete (hmore.ends hends.path rfl) hin
    obtain ⟨left, hbranches, hleft⟩ := hmore.complete hends hrest'
    refine ⟨(rest'.trans left).cons.toNoLonger, ?_, hleft⟩
    rw [takeBranches, hbranch]
    dsimp only [bind, Except.bind]
    rw [hbranches]
    rfl

theorem Path.complete : ∀ {ts rest : List Token} {expr : Expr}, Path ts expr rest →
    Ends Token.continuesPath rest → ∀ {lexemes : List Lexeme}, tokens lexemes = ts →
      ∃ left, takePath stop lexemes = .ok (expr, left) ∧ tokens left.list = rest
  | _, _, _, .literal, _, _, hts => by
    obtain ⟨_, lexemes, rfl, hin⟩ := exists_of_tokens_cons hts
    exact ⟨.tail, by rw [takePath], hin⟩
  | _, _, _, .number, _, _, hts => by
    obtain ⟨_, lexemes, rfl, hin⟩ := exists_of_tokens_cons hts
    exact ⟨.tail, by rw [takePath], hin⟩
  | _, _, _, .parens h htail, hends, _, hts => by
    obtain ⟨_, lexemes, rfl, hin⟩ := exists_of_tokens_cons hts
    obtain ⟨rest₁, hinner, hrest₁⟩ := h.complete (by decide) (ends_cons.mpr rfl) hin
    obtain ⟨rest₂, hclose, hrest₂⟩ := expect_complete stop hrest₁
    obtain ⟨left, hwhole, hleft⟩ := htail.complete hends _ hrest₂
    refine ⟨(rest₁.trans (rest₂.trans left)).cons, ?_, hleft⟩
    rw [takePath, hinner]
    dsimp only [bind, Except.bind]
    rw [hclose]
    dsimp only
    rw [hwhole]
    rfl
  | _, _, _, .call htext hnode hfunction h htakes htail, hends, _, hts => by
    obtain ⟨_, lexemes, rfl, hopen⟩ := exists_of_tokens_cons hts
    obtain ⟨_, lexemes, rfl, hin⟩ := exists_of_tokens_cons hopen
    obtain ⟨rest', harguments, hrest'⟩ := h.complete hin
    obtain ⟨left, hwhole, hleft⟩ := htail.complete hends _ hrest'
    refine ⟨(rest'.trans left).cons.cons, ?_, hleft⟩
    rw [takePath, nodeType?_eq_none.mpr ⟨htext, hnode⟩, Option.isSome_none,
      if_neg Bool.false_ne_true]
    simp only [hfunction]
    rw [harguments]
    dsimp only [bind, Except.bind]
    rw [if_pos htakes, hwhole]
    rfl
  | _, _, _, .root h, _, _, hts => by
    obtain ⟨_, lexemes, rfl, hin⟩ := exists_of_tokens_cons hts
    refine ⟨.tail, ?_, hin⟩
    rw [takePath, atStepStart_eq_false.mpr (hin ▸ h), if_neg Bool.false_ne_true]
  | _, _, _, .fromRoot h, hends, _, hts => by
    obtain ⟨_, lexemes, rfl, hin⟩ := exists_of_tokens_cons hts
    obtain ⟨left, hsteps, hleft⟩ := h.complete hends hin
    refine ⟨left.cons, ?_, hleft⟩
    rw [takePath, if_pos (atStepStart_of_steps (hin ▸ h)), hsteps]
    rfl
  | _, _, _, .inDocument h, hends, _, hts => by
    obtain ⟨_, lexemes, rfl, hin⟩ := exists_of_tokens_cons hts
    obtain ⟨left, hsteps, hleft⟩ := h.complete hends hin
    refine ⟨left.cons, ?_, hleft⟩
    rw [takePath, hsteps]
    rfl
  | _, _, _, .relative h, hends, _, hts => by
    obtain ⟨left, hsteps, hleft⟩ := h.complete hends hts
    exact ⟨left, takePath_relative (hts ▸ h) hends hsteps, hleft⟩

theorem Tail.complete : ∀ {ts rest : List Token} {predicates : List Expr}
    {steps : List (Step Expr)}, Tail ts predicates steps rest →
    Ends Token.continuesPath rest → ∀ (base : Expr) {lexemes : List Lexeme}, tokens lexemes = ts →
      ∃ left, takeFilter stop base lexemes = .ok (filtered base predicates steps, left) ∧
        tokens left.list = rest
  | _, _, _, _, .predicates h, hends, _, _, hts => by
    obtain ⟨left, hpredicates, hleft⟩ := h.complete hends.step hts
    exact ⟨_, takeFilter_of_steps hpredicates (takeMoreSteps_of_ends (hleft ▸ hends)), hleft⟩
  | _, _, _, _, .slash h (.mk hstep hmore), hends, _, _, hts => by
    obtain ⟨⟨list, hle⟩, hpredicates, hlist⟩ := h.complete (ends_cons.mpr rfl) hts
    obtain ⟨_, lexemes, rfl, hin⟩ := exists_of_tokens_cons hlist
    obtain ⟨rest', hfirst, hrest'⟩ := hstep.complete (hmore.ends hends.step rfl rfl) hin
    obtain ⟨left, hsteps, hleft⟩ := hmore.complete hends hrest'
    exact ⟨_, takeFilter_of_steps hpredicates (takeMoreSteps_slash hfirst hsteps), hleft⟩
  | _, _, _, _, .doubleSlash h (.mk hstep hmore), hends, _, _, hts => by
    obtain ⟨⟨list, hle⟩, hpredicates, hlist⟩ := h.complete (ends_cons.mpr rfl) hts
    obtain ⟨_, lexemes, rfl, hin⟩ := exists_of_tokens_cons hlist
    obtain ⟨rest', hfirst, hrest'⟩ := hstep.complete (hmore.ends hends.step rfl rfl) hin
    obtain ⟨left, hsteps, hleft⟩ := hmore.complete hends hrest'
    exact ⟨_, takeFilter_of_steps hpredicates (takeMoreSteps_doubleSlash hfirst hsteps), hleft⟩

theorem Steps.complete : ∀ {ts rest : List Token} {steps : List (Step Expr)},
    Steps ts steps rest → Ends Token.continuesPath rest →
    ∀ {lexemes : List Lexeme}, tokens lexemes = ts →
      ∃ left, takeSteps stop lexemes = .ok (steps, left) ∧ tokens left.list = rest
  | _, _, _, .mk hstep hmore, hends, _, hts => by
    obtain ⟨rest', hfirst, hrest'⟩ := hstep.complete (hmore.ends hends.step rfl rfl) hts
    obtain ⟨left, hsteps, hleft⟩ := hmore.complete hends hrest'
    refine ⟨rest'.trans left, ?_, hleft⟩
    rw [takeSteps, hfirst]
    dsimp only [bind, Except.bind]
    rw [hsteps]
    rfl

theorem MoreSteps.complete : ∀ {ts rest : List Token} {steps : List (Step Expr)},
    MoreSteps ts steps rest → Ends Token.continuesPath rest →
    ∀ {lexemes : List Lexeme}, tokens lexemes = ts →
      ∃ left, takeMoreSteps stop lexemes = .ok (steps, left) ∧ tokens left.list = rest
  | _, _, _, .none, hends, lexemes, hts =>
    ⟨.all lexemes, takeMoreSteps_of_ends (hts ▸ hends), hts⟩
  | _, _, _, .slash hstep hmore, hends, _, hts => by
    obtain ⟨_, lexemes, rfl, hin⟩ := exists_of_tokens_cons hts
    obtain ⟨rest', hfirst, hrest'⟩ := hstep.complete (hmore.ends hends.step rfl rfl) hin
    obtain ⟨left, hsteps, hleft⟩ := hmore.complete hends hrest'
    exact ⟨_, takeMoreSteps_slash hfirst hsteps, hleft⟩
  | _, _, _, .doubleSlash hstep hmore, hends, _, hts => by
    obtain ⟨_, lexemes, rfl, hin⟩ := exists_of_tokens_cons hts
    obtain ⟨rest', hfirst, hrest'⟩ := hstep.complete (hmore.ends hends.step rfl rfl) hin
    obtain ⟨left, hsteps, hleft⟩ := hmore.complete hends hrest'
    exact ⟨_, takeMoreSteps_doubleSlash hfirst hsteps, hleft⟩

theorem OneStep.complete : ∀ {ts rest : List Token} {step : Step Expr}, OneStep ts step rest →
    Ends Token.continuesStep rest → ∀ {lexemes : List Lexeme}, tokens lexemes = ts →
      ∃ left, takeStep stop lexemes = .ok (step, left) ∧ tokens left.list = rest
  | _, _, _, .dot, _, _, hts => by
    obtain ⟨_, lexemes, rfl, hin⟩ := exists_of_tokens_cons hts
    exact ⟨.tail, by rw [takeStep], hin⟩
  | _, _, _, .doubleDot, _, _, hts => by
    obtain ⟨_, lexemes, rfl, hin⟩ := exists_of_tokens_cons hts
    exact ⟨.tail, by rw [takeStep], hin⟩
  | _, _, _, .test hdirection htest hpredicates, hends, _, hts =>
    takeStep_test (hts ▸ hdirection) htest (hpredicates.ends hends.test rfl)
      fun hleft => hpredicates.complete hends hleft

theorem Predicates.complete : ∀ {ts rest : List Token} {predicates : List Expr},
    Predicates ts predicates rest → Ends Token.continuesStep rest →
    ∀ {lexemes : List Lexeme}, tokens lexemes = ts →
      ∃ left, takePredicates stop lexemes = .ok (predicates, left) ∧ tokens left.list = rest
  | _, _, _, .none, hends, lexemes, hts =>
    ⟨.all lexemes, takePredicates_of_ends (hts ▸ hends), hts⟩
  | _, _, _, .more h hmore, hends, _, hts => by
    obtain ⟨_, lexemes, rfl, hin⟩ := exists_of_tokens_cons hts
    obtain ⟨rest₁, hpredicate, hrest₁⟩ := h.complete (by decide) (ends_cons.mpr rfl) hin
    obtain ⟨rest₂, hclose, hrest₂⟩ := expect_complete stop hrest₁
    obtain ⟨left, hpredicates, hleft⟩ := hmore.complete hends hrest₂
    refine ⟨(rest₁.trans (rest₂.trans left)).cons.toNoLonger, ?_, hleft⟩
    rw [takePredicates, hpredicate]
    dsimp only [bind, Except.bind]
    rw [hclose]
    dsimp only
    rw [hpredicates]
    rfl

theorem Arguments.complete : ∀ {ts rest : List Token} {arguments : List Expr},
    Arguments ts arguments rest → ∀ {lexemes : List Lexeme}, tokens lexemes = ts →
      ∃ left, takeArguments stop lexemes = .ok (arguments, left) ∧ tokens left.list = rest
  | _, _, _, .none, _, hts => by
    obtain ⟨_, lexemes, rfl, hin⟩ := exists_of_tokens_cons hts
    exact ⟨.tail, by rw [takeArguments], hin⟩
  | _, _, _, .some h hmore, _, hts => by
    obtain ⟨rest', hfirst, hrest'⟩ := h.complete (by decide) hmore.ends hts
    obtain ⟨left, harguments, hleft⟩ := hmore.complete hrest'
    exact ⟨_, takeArguments_some (hts ▸ h.head?_ne) hfirst harguments, hleft⟩

theorem MoreArguments.complete : ∀ {ts rest : List Token} {arguments : List Expr},
    MoreArguments ts arguments rest → ∀ {lexemes : List Lexeme}, tokens lexemes = ts →
      ∃ left, takeMoreArguments stop lexemes = .ok (arguments, left) ∧ tokens left.list = rest
  | _, _, _, .none, _, hts => by
    obtain ⟨_, lexemes, rfl, hin⟩ := exists_of_tokens_cons hts
    exact ⟨.tail, by rw [takeMoreArguments], hin⟩
  | _, _, _, .more h hmore, _, hts => by
    obtain ⟨_, lexemes, rfl, hin⟩ := exists_of_tokens_cons hts
    obtain ⟨rest', hargument, hrest'⟩ := h.complete (by decide) hmore.ends hin
    obtain ⟨left, harguments, hleft⟩ := hmore.complete hrest'
    refine ⟨(rest'.trans left).cons, ?_, hleft⟩
    rw [takeMoreArguments, hargument]
    dsimp only [bind, Except.bind]
    rw [harguments]
    rfl

end

end Grammar

/-! ## Parsing -/

/-- The parser finds the tree that the grammar derives. -/
theorem parse_of_derives (stop : Nat) {ts : List Lexeme} {expr : Expr}
    (h : Derives (tokens ts) expr) : parse stop ts = .ok expr := by
  obtain ⟨left, htake, hleft⟩ : ∃ left, takeOperands stop Level.loosestFirst ts = .ok (expr, left) ∧
      tokens left.list = [] := h.complete (by decide) (fun _ ht => by cases ht) rfl
  have hne : ts.isEmpty = false := by
    cases ts with
    | nil => exact absurd left.length_lt (Nat.not_lt_zero _)
    | cons _ _ => rfl
  rw [parse, hne, if_neg Bool.false_ne_true, htake]
  dsimp only [bind, Except.bind]
  rw [List.map_eq_nil_iff.mp hleft]
  rfl

/-- **The parser decides the grammar**: it gives a tree for lexemes when, and only when, the
grammar derives the tree from all their tokens, and no two trees are derived from one list
of tokens. -/
theorem parse_iff_derives (stop : Nat) (ts : List Lexeme) :
    (∀ expr, parse stop ts = .ok expr ↔ Derives (tokens ts) expr) ∧
      ∀ expr other, Derives (tokens ts) expr → Derives (tokens ts) other → expr = other := by
  refine ⟨fun expr => ⟨derives_of_parse, parse_of_derives stop⟩, fun expr other h h' => ?_⟩
  have heq := (parse_of_derives stop h).symm.trans (parse_of_derives stop h')
  exact Except.ok.inj heq

end Almanac.Selector
