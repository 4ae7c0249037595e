import Almanac.Proofs.Selector.Language

/-!
# What a parser finds out about the language

A parser takes tokens off the front of the lexemes and either leaves the others or fails. What
this says about the language is said of the symbols that the parser is for, in front of any
context (`Traces`). Where it succeeds, the symbols yield the tokens taken in front of what the
context yields, and there is no other way to go on. Where it breaks off at a token that does not
fit, the tokens before can be completed, and nothing goes on with that token. Where it fails in
another way, but for the number of arguments of a call, nothing yields the lexemes.

Both are only asked of contexts that cannot go on with the part itself (`Stops`), as it is with
readings of the grammar (`Ends`), and of tokens that the parser could not tell from those at hand
(`Like`): the parser has seen the first of the tokens left, so that a completion may begin with it
or with a token that closes what is open, since no parser looks across one.

Parsers that run one after the other trace their symbols one after the other (`Traces.bind`); the
lemmas after it are the ways in which a production is chosen by the tokens at hand.
-/

namespace Almanac.Selector

open Selector.Language

/-! ## Contexts -/

/-- Whether a token closes what is open, so that nothing is read across it. -/
def Token.closes : Token → Bool
  | .closeParen | .closeBracket => true
  | _ => false

/-- Tokens that there are none of, or that begin with one that closes. -/
def Closes (w : List Token) : Prop := ∀ t ∈ w.head?, t.closes = true

/-- Tokens that a parser at `after` cannot tell from those of `after`, or that stop it. -/
def Like (after : List Lexeme) (w : List Token) : Prop :=
  w.head? = (tokens after).head? ∨ Closes w

/-- Nothing that symbols yield begins with a token that has a property. -/
def Stops (p : Token → Bool) (K : List Symbol) : Prop :=
  ∀ w, Yields K w → Ends p w

/-- Symbols that yield something at once closed. -/
def Closable (K : List Symbol) : Prop := ∃ w, Yields K w ∧ Closes w

section Contexts

variable {K : List Symbol} {taken left : List Lexeme} {p q : Token → Bool} {t : Token}
  {w : List Token}

theorem tokens_append : tokens (taken ++ left) = tokens taken ++ tokens left := List.map_append

theorem exists_of_head? {ts : List Lexeme} (h : (tokens ts).head? = some t) :
    ∃ position rest, ts = ⟨t, position⟩ :: rest := by
  obtain ⟨rest, hts⟩ := List.head?_eq_some_iff.mp h
  obtain ⟨position, rest, rfl, -⟩ := Grammar.exists_of_tokens_cons hts
  exact ⟨position, rest, rfl⟩

theorem head?_ne {ts : List Lexeme} (h : ∀ position rest, ts = ⟨t, position⟩ :: rest → False) :
    (tokens ts).head? ≠ some t := fun ht =>
  have ⟨position, rest, hts⟩ := exists_of_head? ht
  h position rest hts

theorem Like.cons {u : Lexeme} : Like (u :: left) (u.token :: w) := .inl rfl

theorem Like.append (h : Like left w) : Like (taken ++ left) (tokens taken ++ w) := by
  cases taken with
  | nil => exact h
  | cons u taken => exact .cons

/-- What ends the tokens of lexemes ends all tokens that a parser cannot tell from them. -/
theorem Like.ends (h : Like left w) (hleft : Ends p (tokens left))
    (hp : ∀ t, t.closes = true → p t = false) : Ends p w := by
  rintro t ht
  rcases h with h | h
  · exact hleft t (h ▸ ht)
  · exact hp t (h t ht)

/-- A token that stands at the front neither in `left` nor as one that closes. -/
theorem Like.head?_ne (h : Like left w) (ht : t.closes = false)
    (hne : (tokens left).head? ≠ some t) : w.head? ≠ some t := by
  intro hw
  rcases h with h | h
  · exact hne (h ▸ hw)
  · exact absurd (h t hw) (ht ▸ Bool.false_ne_true)

theorem stops_none : Stops (fun _ => false) K := fun _ _ _ _ => rfl

theorem stops_nil : Stops p [] := by
  intro w hw
  rw [yields_nil.mp hw]
  exact fun _ ht => by cases ht

theorem stops_token (h : p t = false) : Stops p (.token t :: K) := by
  intro w hw
  obtain ⟨_, rfl, _⟩ := yields_token.mp hw
  exact ends_cons.mpr h

theorem Stops.imp (h : Stops p K) (hqp : ∀ t, q t = true → p t = true) : Stops q K :=
  fun w hw => (h w hw).imp hqp

theorem closes_nil : Closes [] := fun _ ht => by cases ht

theorem closes_cons (ht : t.closes = true) : Closes (t :: w) :=
  fun _ hu => Option.some.inj hu ▸ ht

theorem closable_nil : Closable [] := ⟨[], .nil, closes_nil⟩

/-- A token that closes is closed at once in any context that is. -/
theorem Closable.token (h : Closable K) (ht : t.closes = true) : Closable (.token t :: K) := by
  obtain ⟨w, hw, -⟩ := h
  exact ⟨t :: w, .token hw, closes_cons ht⟩

/-- A phrase that can be empty leaves its context closed at once. -/
theorem Closable.phrase {x : Phrase} (h : Closable K) (hx : Produces x []) :
    Closable (.phrase x :: K) := by
  obtain ⟨w, hw, hcloses⟩ := h
  exact ⟨w, .phrase hx hw, hcloses⟩

end Contexts

/-! ## What a parser finds out -/

/-- Symbols yield the tokens taken in front of what their context yields, and a context that
cannot go on with them leaves no other way to yield the tokens taken. -/
structure Reads (p : Token → Bool) (S : List Symbol) (taken left : List Lexeme) : Prop where
  forth : ∀ {K w}, Like left w → Yields K w → Yields (S ++ K) (tokens taken ++ w)
  back : ∀ {K w}, Stops p K → Like left w → Yields (S ++ K) (tokens taken ++ w) → Yields K w

/-- Symbols yield something that begins with the tokens before, and nothing that goes on with
the first token of those after, nor ends if there are none. Unless the completion is `free`, it
is one that the parser before could not tell from the lexemes at hand. -/
structure Breaks (p : Token → Bool) (free : Bool) (S : List Symbol) (before after : List Lexeme) :
    Prop where
  viable : ∀ {K}, Closable K → ∃ w, Yields (S ++ K) (tokens before ++ w) ∧
    (free = true ∨ Like (before ++ after) (tokens before ++ w))
  stuck : ∀ {K w}, Stops p K → w.head? = (tokens after).head? →
    ¬ Yields (S ++ K) (tokens before ++ w)

/-- Symbols do not yield lexemes. -/
def Rejects (p : Token → Bool) (S : List Symbol) (ts : List Lexeme) : Prop :=
  ∀ {K}, Stops p K → ¬ Yields (S ++ K) (tokens ts)

section Parts

variable {p p₁ p₂ : Token → Bool} {free : Bool} {S₁ S₂ : List Symbol}
  {taken taken' before after left : List Lexeme}

/-- Reading goes over to symbols that yield the same in front of what is left. -/
theorem Reads.of (h : Reads p S₁ taken left)
    (hforth : ∀ {K w}, Yields (S₁ ++ K) w → Yields (S₂ ++ K) w)
    (hback : ∀ {K w}, Like left w → Yields (S₂ ++ K) (tokens taken ++ w) →
      Yields (S₁ ++ K) (tokens taken ++ w)) : Reads p S₂ taken left :=
  ⟨fun hw hK => hforth (h.forth hw hK), fun hK hw hS => h.back hK hw (hback hw hS)⟩

/-- Breaking off goes over to symbols that yield the same in front of what is left. -/
theorem Breaks.of (h : Breaks p free S₁ before after)
    (hforth : ∀ {K w}, Yields (S₁ ++ K) w → Yields (S₂ ++ K) w)
    (hback : ∀ {K w}, w.head? = (tokens after).head? → Yields (S₂ ++ K) (tokens before ++ w) →
      Yields (S₁ ++ K) (tokens before ++ w)) : Breaks p free S₂ before after := by
  refine ⟨fun hK => ?_, fun hK hw hS => h.stuck hK hw (hback hw hS)⟩
  obtain ⟨w, hw, hfree⟩ := h.viable hK
  exact ⟨w, hforth hw, hfree⟩

/-- Symbols that are read one behind the other are read as one list. -/
theorem Reads.append (h₁ : Reads p₁ S₁ taken (taken' ++ left)) (h₂ : Reads p₂ S₂ taken' left)
    (hstops : ∀ {K}, Stops p₂ K → Stops p₁ (S₂ ++ K)) :
    Reads p₂ (S₁ ++ S₂) (taken ++ taken') left := by
  refine ⟨fun hw hK => ?_, fun hK hw hS => ?_⟩
  · rw [List.append_assoc, tokens_append, List.append_assoc]
    exact h₁.forth hw.append (h₂.forth hw hK)
  · rw [List.append_assoc, tokens_append, List.append_assoc] at hS
    exact h₂.back hK hw (h₁.back (hstops hK) hw.append hS)

/-- Where the second part breaks off, so do both. Its completion must not be free, since the
first parser may have looked at it. -/
theorem Reads.breaks (h₁ : Reads p₁ S₁ taken (before ++ after))
    (h₂ : Breaks p₂ false S₂ before after) (hstops : ∀ {K}, Stops p₂ K → Stops p₁ (S₂ ++ K)) :
    Breaks p₂ free (S₁ ++ S₂) (taken ++ before) after := by
  refine ⟨fun hK => ?_, fun hK hw hS => ?_⟩
  · obtain ⟨w, h, hfree⟩ := h₂.viable hK
    have hlike := hfree.resolve_left Bool.false_ne_true
    refine ⟨w, ?_, .inr ?_⟩
    · rw [List.append_assoc, tokens_append, List.append_assoc]
      exact h₁.forth hlike h
    · rw [tokens_append, List.append_assoc, List.append_assoc]
      exact hlike.append
  · rw [List.append_assoc, tokens_append, List.append_assoc] at hS
    exact h₂.stuck hK hw (h₁.back (hstops hK) (Like.append (.inl hw)) hS)

/-- Where the first part breaks off, so do both. -/
theorem Breaks.append (h : Breaks p₁ free S₁ before after)
    (hstops : ∀ {K}, Stops p₂ K → Stops p₁ (S₂ ++ K))
    (hclosable : ∀ {K}, Closable K → Closable (S₂ ++ K)) :
    Breaks p₂ free (S₁ ++ S₂) before after := by
  refine ⟨fun hK => ?_, fun hK hw => ?_⟩ <;> rw [List.append_assoc]
  · exact h.viable (hclosable hK)
  · exact h.stuck (hstops hK) hw

end Parts

/-- Whether an error is about a token that does not fit. -/
def Error.isUnexpected : Error → Bool
  | .unexpectedToken _ _ | .unexpectedEnd _ => true
  | _ => false

/-- Whether an error is about the number of arguments of a call. -/
def Error.isArity : Error → Bool
  | .wrongArity _ _ => true
  | _ => false

/-- A parser of what symbols yield reads off the front of the lexemes what they yield there, or
fails since they yield nothing of the kind or a call has a wrong number of arguments. If there is
a token that does not fit, it breaks off at the first one. -/
def Traces (stop : Nat) (p : Token → Bool) (free : Bool) (S : List Symbol) (ts : List Lexeme) :
    Except Error (List Lexeme) → Prop
  | .ok left => ∃ taken, ts = taken ++ left ∧ Reads p S taken left
  | .error e => (e.isArity = false → Rejects p S ts) ∧
      (e.isUnexpected = true → ∃ before after, ts = before ++ after ∧
        e = unexpected stop after ∧ Breaks p free S before after)

/-- The lexemes left by a parser. -/
abbrev Taken.left {α : Type} {ts : List Lexeme} (r : Taken α ts) : Except Error (List Lexeme) :=
  r.map (·.2.list)

@[inherit_doc Taken.left]
abbrev Optional.left {α : Type} {ts : List Lexeme} (r : Optional α ts) :
    Except Error (List Lexeme) :=
  r.map (·.2.list)

namespace Traces

variable {stop : Nat} {p p₁ p₂ : Token → Bool} {free : Bool} {S S₁ S₂ : List Symbol}
  {ts : List Lexeme} {r : Except Error (List Lexeme)}

theorem arity {name : String} {found : Nat} :
    Traces stop p free S ts (.error (.wrongArity name found)) :=
  ⟨fun h => (by cases h), fun h => (by cases h)⟩

theorem unknown {e : Error} (he : e.isUnexpected = false) (h : Rejects p S ts) :
    Traces stop p free S ts (.error e) :=
  ⟨fun _ => h, fun h' => absurd h' (he ▸ Bool.false_ne_true)⟩

/-- The first token does not fit. -/
theorem stuck (hstuck : ∀ {K w}, Stops p K → w.head? = (tokens ts).head? → ¬ Yields (S ++ K) w)
    (hviable : ∀ {K}, Closable K → ∃ w, Yields (S ++ K) w ∧ (free = true ∨ Closes w)) :
    Traces stop p free S ts (.error (unexpected stop ts)) := by
  refine ⟨fun _ _ hK => hstuck hK rfl, fun _ => ⟨[], ts, rfl, rfl, fun hK => ?_, hstuck⟩⟩
  obtain ⟨w, hw, hfree⟩ := hviable hK
  exact ⟨w, hw, hfree.imp_right .inr⟩

/-- What is traced where more is stopped is traced where less is. -/
theorem imp (h : Traces stop p₁ free S ts r) (hp : ∀ t, p₁ t = true → p₂ t = true) :
    Traces stop p₂ free S ts r := by
  cases r with
  | ok left =>
    obtain ⟨taken, rfl, hreads⟩ := h
    exact ⟨taken, rfl, hreads.forth, fun hK => hreads.back (hK.imp hp)⟩
  | error e =>
    refine ⟨fun he _ hK => h.1 he (hK.imp hp), fun he => ?_⟩
    obtain ⟨before, after, rfl, rfl, hbreaks⟩ := h.2 he
    exact ⟨before, after, rfl, rfl, hbreaks.viable, fun hK => hbreaks.stuck (hK.imp hp)⟩

/-- A parser that passes on what is left by another one. -/
theorem result {β γ : Type} {x : Except Error β} {f : β → Except Error γ}
    {left₁ : β → List Lexeme} {left₂ : γ → List Lexeme} (h : Traces stop p free S ts (x.map left₁))
    (hf : ∀ b, (f b).map left₂ = .ok (left₁ b)) :
    Traces stop p free S ts ((x >>= f).map left₂) := by
  cases x with
  | error e => exact h
  | ok b => exact (hf b).symm ▸ h

/-- **One parser after the other** traces its symbols behind those of the first. -/
theorem bind {β γ : Type} {x : Except Error β} {f : β → Except Error γ}
    {left₁ : β → List Lexeme} {left₂ : γ → List Lexeme} (S₂ : List Symbol)
    (h₁ : Traces stop p₁ free S₁ ts (x.map left₁))
    (h₂ : ∀ b, x = .ok b → Traces stop p₂ false S₂ (left₁ b) ((f b).map left₂))
    (hstops : ∀ {K}, Stops p₂ K → Stops p₁ (S₂ ++ K))
    (hclosable : ∀ {K}, Closable K → Closable (S₂ ++ K)) :
    Traces stop p₂ free (S₁ ++ S₂) ts ((x >>= f).map left₂) := by
  cases x with
  | error e =>
    refine ⟨fun he _ hK => ?_, fun he => ?_⟩
    · rw [List.append_assoc]
      exact h₁.1 he (hstops hK)
    · obtain ⟨before, after, rfl, rfl, hbreaks⟩ := h₁.2 he
      exact ⟨before, after, rfl, rfl, hbreaks.append hstops hclosable⟩
  | ok b =>
    obtain ⟨taken, rfl, hreads⟩ := h₁
    have h₂ := h₂ b rfl
    change Traces stop p₂ free (S₁ ++ S₂) _ ((f b).map left₂)
    generalize (f b).map left₂ = r at h₂ ⊢
    generalize left₁ b = between at h₂ hreads
    cases r with
    | ok left =>
      obtain ⟨taken', rfl, hreads'⟩ := h₂
      exact ⟨taken ++ taken', (List.append_assoc ..).symm, hreads.append hreads' hstops⟩
    | error e =>
      refine ⟨fun he _ hK hS => ?_, fun he => ?_⟩
      · rw [List.append_assoc, tokens_append] at hS
        exact h₂.1 he hK (hreads.back (hstops hK) (.inl rfl) hS)
      · obtain ⟨before, after, rfl, rfl, hbreaks⟩ := h₂.2 he
        exact ⟨taken ++ before, after, (List.append_assoc ..).symm, rfl,
          hreads.breaks hbreaks hstops⟩

/-! ### The choice of a production -/

/-- Tracing depends on what the symbols yield alone. -/
theorem congr (h : Traces stop p free S₁ ts r)
    (hS : ∀ {K w}, Yields (S₂ ++ K) w ↔ Yields (S₁ ++ K) w) : Traces stop p free S₂ ts r := by
  cases r with
  | ok left =>
    obtain ⟨taken, rfl, hreads⟩ := h
    exact ⟨taken, rfl, hreads.of hS.mpr fun _ => hS.mp⟩
  | error e =>
    refine ⟨fun he _ hK hts => h.1 he hK (hS.mp hts), fun he => ?_⟩
    obtain ⟨before, after, rfl, rfl, hbreaks⟩ := h.2 he
    exact ⟨before, after, rfl, rfl, hbreaks.of hS.mpr fun _ => hS.mp⟩

/-- Tokens that a parser has taken note of before it goes on leave one production. -/
theorem behind {free' : Bool} (t : Lexeme) (ahead : List Lexeme) {rest : List Lexeme}
    (h : Traces stop p free' S₁ rest r)
    (hforth : ∀ {K w}, Yields (S₁ ++ K) w → Yields (S₂ ++ K) (tokens (t :: ahead) ++ w))
    (hback : ∀ {K w}, Stops p K → Yields (S₂ ++ K) (tokens (t :: ahead) ++ w) →
      Yields (S₁ ++ K) w) : Traces stop p free S₂ (t :: ahead ++ rest) r := by
  cases r with
  | ok left =>
    obtain ⟨taken, rfl, hforth', hback'⟩ := h
    refine ⟨t :: ahead ++ taken, (List.append_assoc ..).symm, fun hw h => ?_, fun hK hw h => ?_⟩
    · rw [tokens_append, List.append_assoc]
      exact hforth (hforth' hw h)
    · rw [tokens_append, List.append_assoc] at h
      exact hback' hK hw (hback hK h)
  | error e =>
    refine ⟨fun he _ hK hts => h.1 he hK (hback hK (tokens_append ▸ hts)), fun he => ?_⟩
    obtain ⟨before, after, rfl, rfl, hviable, hstuck⟩ := h.2 he
    refine ⟨t :: ahead ++ before, after, (List.append_assoc ..).symm, rfl, fun hK => ?_,
      fun hK hw h => ?_⟩
    · obtain ⟨w, h, -⟩ := hviable hK
      refine ⟨w, ?_, .inr .cons⟩
      rw [tokens_append, List.append_assoc]
      exact hforth h
    · rw [tokens_append, List.append_assoc] at h
      exact hstuck hK hw (hback hK h)

/-- The first token, or that there is none, leaves one production. -/
theorem of_head (h : Traces stop p free S₁ ts r) (hne : ¬ Yields S₁ [])
    (hforth : ∀ {K w}, Yields (S₁ ++ K) w → Yields (S₂ ++ K) w)
    (hback : ∀ {K w}, w.head? = (tokens ts).head? → Yields (S₂ ++ K) w → Yields (S₁ ++ K) w) :
    Traces stop p free S₂ ts r := by
  cases r with
  | ok left =>
    obtain ⟨taken, rfl, hreads⟩ := h
    refine ⟨taken, rfl, hreads.of hforth fun _ => hback ?_⟩
    -- what is left cannot be all lexemes, since the symbols do not yield nothing
    cases taken with
    | nil =>
      have hnil := hreads.forth (.inr closes_nil) .nil
      rw [List.append_nil] at hnil
      exact absurd hnil hne
    | cons t taken => rfl
  | error e =>
    refine ⟨fun he _ hK hts => h.1 he hK (hback rfl hts), fun he => ?_⟩
    obtain ⟨before, after, rfl, rfl, hbreaks⟩ := h.2 he
    refine ⟨before, after, rfl, rfl, hbreaks.of hforth fun hw => hback ?_⟩
    cases before with
    | nil => exact hw
    | cons t before => rfl

/-- The first two tokens leave one production, which can go on with the first. -/
theorem of_two {t : Lexeme} {rest : List Lexeme} (h : Traces stop p free S₁ (t :: rest) r)
    (hstart : ∃ w, Yields S₁ (t.token :: w))
    (hforth : ∀ {K w}, Yields (S₁ ++ K) w → Yields (S₂ ++ K) w)
    (hback : ∀ {K w}, Like rest w → Yields (S₂ ++ K) (t.token :: w) →
      Yields (S₁ ++ K) (t.token :: w)) :
    Traces stop p free S₂ (t :: rest) r := by
  obtain ⟨start, hstart⟩ := hstart
  rw [← List.append_nil S₁] at hstart
  -- in the context of nothing, the start rules out that no token is taken
  cases r with
  | ok left =>
    obtain ⟨taken, hts, hreads⟩ := h
    cases taken with
    | nil =>
      obtain rfl : t :: rest = left := hts
      cases hreads.back stops_nil .cons hstart
    | cons u taken =>
      cases hts
      exact ⟨t :: taken, rfl, hreads.of hforth fun hw => hback hw.append⟩
  | error e =>
    refine ⟨fun he _ hK hts => h.1 he hK (hback (.inl rfl) hts), fun he => ?_⟩
    obtain ⟨before, after, hts, rfl, hbreaks⟩ := h.2 he
    cases before with
    | nil =>
      obtain rfl : t :: rest = after := hts
      exact absurd hstart (hbreaks.stuck stops_nil rfl)
    | cons u before =>
      cases hts
      exact ⟨t :: before, after, rfl, rfl,
        hbreaks.of hforth fun hw => hback (Like.append (.inl hw))⟩

end Traces

/-! ## Repetitions -/

/-- A phrase that may be empty, and otherwise begins with tokens that have a property. -/
structure Repeats (x : Phrase) (q : Token → Prop) : Prop where
  none : Produces x []
  some : ∀ {K w}, Yields (.phrase x :: K) w → Yields K w ∨ ∃ t ∈ w.head?, q t

theorem repeats_predicates : Repeats .predicates (· = .openBracket) where
  none := .noPredicate
  some h := (yields_predicates.mp h).imp_right fun h => by
    obtain ⟨_, rfl, _⟩ := yields_token.mp h
    exact ⟨_, rfl, rfl⟩

theorem repeats_moreSteps : Repeats .moreSteps (fun t => t = .slash ∨ t = .doubleSlash) where
  none := .noMoreSteps
  some h := (yields_moreSteps.mp h).imp_right fun h => by
    rcases h with h | h <;> obtain ⟨_, rfl, _⟩ := yields_token.mp h
    · exact ⟨_, rfl, .inl rfl⟩
    · exact ⟨_, rfl, .inr rfl⟩

theorem repeats_branches : Repeats .branches (· = .bar) where
  none := .noBranch
  some h := (yields_branches.mp h).imp_right fun h => by
    obtain ⟨_, rfl, _⟩ := yields_token.mp h
    exact ⟨_, rfl, rfl⟩

/-- Operations of a level repeat an operator of the level and its operand. -/
theorem repeats_operations (level : Level) (tighter : List Level) :
    Repeats (.operations level tighter) (fun t => ∃ operator, Grammar.Joins level t operator) where
  none := .noOperation
  some h := (yields_operations.mp h).imp_right fun ⟨_, operator, hop, h⟩ => by
    obtain ⟨_, rfl, _⟩ := yields_token.mp h
    exact ⟨_, rfl, operator, hop⟩

section Repeats

variable {stop : Nat} {p p' : Token → Bool} {free : Bool} {x : Phrase} {q : Token → Prop}
  {K : List Symbol} {ts : List Lexeme}

/-- Behind a repetition comes what is behind it in the context, or what begins one of it. -/
theorem Repeats.stops (hx : Repeats x q) (hq : ∀ t, q t → p' t = false) (h : Stops p K)
    (hp : ∀ t, p' t = true → p t = true) : Stops p' (.phrase x :: K) := by
  intro w hw
  rcases hx.some hw with hw | ⟨t, ht, hqt⟩
  · exact (h w hw).imp hp
  · intro u hu
    cases Option.mem_unique ht hu
    exact hq t hqt

/-- The parser of a repetition takes nothing. -/
theorem Repeats.traces (hx : Repeats x q) (hq : ∀ t, q t → t.closes = false)
    (hts : ∀ t ∈ (tokens ts).head?, ¬ q t) : Traces stop p free [.phrase x] ts (.ok ts) := by
  refine ⟨[], rfl, fun _ h => .phrase hx.none h, fun _ hw h => ?_⟩
  refine (hx.some h).resolve_right ?_
  rintro ⟨t, ht, hqt⟩
  rcases hw with hw | hw
  · exact hts t (hw ▸ ht) hqt
  · exact absurd (hw t ht) (hq t hqt ▸ Bool.false_ne_true)

end Repeats

section Repetitions

variable {K : List Symbol}

theorem Stops.predicates (h : Stops Token.continuesStep K) :
    Stops Token.continuesTest (.phrase .predicates :: K) :=
  repeats_predicates.stops (by rintro _ rfl; rfl) h
    fun _ ht => by rw [Token.continuesStep, ht, Bool.true_or]

theorem Stops.moreSteps (h : Stops Token.continuesPath K) :
    Stops Token.continuesStep (.phrase .moreSteps :: K) :=
  repeats_moreSteps.stops (by rintro _ (rfl | rfl) <;> rfl) h
    fun _ ht => by rw [Token.continuesPath, ht, Bool.true_or, Bool.true_or]

theorem Stops.branches (h : Stops Token.continuesUnion K) :
    Stops Token.continuesPath (.phrase .branches :: K) :=
  repeats_branches.stops (by rintro _ rfl; rfl) h
    fun _ ht => by rw [Token.continuesUnion, ht, Bool.true_or]

theorem Closable.predicates (h : Closable K) : Closable (.phrase .predicates :: K) :=
  h.phrase .noPredicate

theorem Closable.moreSteps (h : Closable K) : Closable (.phrase .moreSteps :: K) :=
  h.phrase .noMoreSteps

theorem Closable.branches (h : Closable K) : Closable (.phrase .branches :: K) :=
  h.phrase .noBranch

theorem Closable.operations {level : Level} {tighter : List Level} (h : Closable K) :
    Closable (.phrase (.operations level tighter) :: K) :=
  h.phrase .noOperation

end Repetitions

end Almanac.Selector
