import Mathlib.Data.List.TakeWhile
import Almanac.Proofs.Datetime.Segments
import Almanac.Proofs.Selector.ParserSound
import Almanac.Proofs.Text.Characters

/-!
# The text of one token

How a token can be written (`Token.Spells`): a name or a numeral as itself, a literal in a quote
that it leaves out, an operator as its symbol. What is cut off the front of the characters is
such a text (`Token.spells_of_takeFrom`), and none that stands there is longer
(`Token.takeFrom_of_spells`): names and numerals are taken whole, and an operator of two
characters is not taken for one of one. Where nothing can be cut off no such text stands
(`Token.not_spells_of_takeFrom`), and there may be a quote that is never closed. White space
behind a text ends it (`Token.takeFrom_spelled`).
-/

namespace Almanac.Selector

open Almanac.Text

/-! ## Names and literals -/

/-- Whether lexing makes one name of the characters. -/
def isNameText : List Char → Bool
  | [] => false
  | c :: rest => isNameStart c && rest.all isNameChar

/-- The characters with which tokens other than names begin. -/
def otherStarts : List Char := "'\"0123456789/.@,()[]|*=<>:! ".toList

/-- What begins a name begins no other token. -/
theorem not_mem_otherStarts {c : Char} (h : isNameStart c = true) : c ∉ otherStarts := by
  have hall : ∀ d ∈ otherStarts, isNameStart d = false := by decide +kernel
  intro hmem
  rw [hall c hmem] at h
  cases h

theorem mem_otherStarts_of_isAsciiDigit {c : Char} (h : isAsciiDigit c = true) :
    c ∈ otherStarts := by
  simp only [isAsciiDigit, Bool.and_eq_true, decide_eq_true_eq, Char.le_def,
    UInt32.le_iff_toNat_le] at h
  have hlow : 48 ≤ c.toNat := h.1
  have hhigh : c.toNat ≤ 57 := h.2
  have hall : ∀ n < 10, Char.ofNat (48 + n) ∈ otherStarts := by decide +kernel
  have hc := hall (c.toNat - 48) (by omega)
  rwa [Nat.add_sub_cancel' hlow, Char.ofNat_toNat] at hc

theorem isBlank_eq_false {c : Char} (h : isNameStart c = true) : isBlank c = false := by
  have hall : ∀ n ∈ blankPoints, isNameStart (Char.ofNat n) = false := by decide +kernel
  refine Bool.eq_false_iff.mpr fun hblank => ?_
  have hfalse := forall_isBlank (p := fun c => isNameStart c = false) hall c hblank
  rw [hfalse] at h
  cases h

namespace Token

/-- Where a name begins it is taken as far as it goes. -/
theorem takeFrom_name {c : Char} {rest : List Char} (h : isNameStart c = true) :
    takeFrom c rest =
      .ok (name (String.ofList (c :: rest.takeWhile isNameChar)), rest.dropWhile isNameChar) := by
  have hc := not_mem_otherStarts h
  have hdigit : isAsciiDigit c = false :=
    Bool.eq_false_iff.mpr fun hdigit => hc (mem_otherStarts_of_isAsciiDigit hdigit)
  have hne : ∀ d ∈ otherStarts, c ≠ d := fun d hd heq => hc (heq ▸ hd)
  have hpair : ∀ d, ofPair? c d = none := by
    intro d
    unfold ofPair?
    split
    all_goals first
      | exact absurd rfl (hne _ (by decide +kernel))
      | rfl
  have hsingle : ofChar? c = none := by
    unfold ofChar?
    split
    all_goals first
      | exact absurd rfl (hne _ (by decide +kernel))
      | rfl
  have hquote : ¬ (c = '\'' || c = '"') = true := by
    simp [hne '\'' (by decide +kernel), hne '"' (by decide +kernel)]
  have hnumeral : ¬ startsNumeral c rest = true := by
    simp [startsNumeral, hdigit, hne '.' (by decide +kernel)]
  have hnone : rest.head?.bind (ofPair? c) = none := by
    cases rest with
    | nil => rfl
    | cons d rest => exact hpair d
  unfold takeFrom
  rw [if_neg hquote, if_neg hnumeral]
  simp only [hnone, hsingle, h, if_true]

/-- Where a quote stands the literal up to the next one is taken. -/
theorem takeFrom_literal {quote : Char} (hquote : (quote = '\'' || quote = '"') = true)
    {text : List Char} (htext : quote ∉ text) (rest : List Char) :
    takeFrom quote (text ++ quote :: rest) = .ok (literal (String.ofList text), rest) := by
  have hall : ∀ c ∈ text, (c != quote) = true := by
    intro c hc
    rw [bne_iff_ne]
    rintro rfl
    exact htext hc
  have hdrop : (text ++ quote :: rest).dropWhile (· != quote) = quote :: rest := by
    rw [List.dropWhile_append_of_pos hall, List.dropWhile_cons_of_neg (by simp)]
  have htake : (text ++ quote :: rest).takeWhile (· != quote) = text := by
    rw [List.takeWhile_append_of_pos hall, List.takeWhile_cons_of_neg (by simp), List.append_nil]
  unfold takeFrom
  rw [if_pos hquote, hdrop, htake]

end Token

/-! ## White space behind a text -/

/-- There is white space here, or nothing. -/
def IsDelimited (rest : List Char) : Prop := ∀ c ∈ rest.head?, isBlank c = true

theorem isDelimited_cons {c : Char} (h : isBlank c = true) (rest : List Char) :
    IsDelimited (c :: rest) := fun d hd => by
  cases hd
  exact h

/-- What white space does not go on with ends here. -/
theorem IsDelimited.dropWhile_eq {rest : List Char} (h : IsDelimited rest) {p : Char → Bool}
    (hp : ∀ c, isBlank c = true → p c = false) :
    rest.dropWhile p = rest ∧ rest.takeWhile p = [] := by
  cases rest with
  | nil => exact ⟨rfl, rfl⟩
  | cons c rest =>
    have hc : ¬ p c = true := by simp [hp c (h c rfl)]
    exact ⟨List.dropWhile_cons_of_neg hc, List.takeWhile_cons_of_neg hc⟩

theorem isNameChar_of_isBlank (c : Char) (h : isBlank c = true) : isNameChar c = false :=
  forall_isBlank (p := fun c => isNameChar c = false) (by decide +kernel) c h

theorem isAsciiDigit_of_isBlank (c : Char) (h : isBlank c = true) : isAsciiDigit c = false :=
  forall_isBlank (p := fun c => isAsciiDigit c = false) (by decide +kernel) c h

/-! ## Numerals -/

/-- Digits, or a point with digits behind it and perhaps before it. -/
inductive IsNumeral : List Char → Prop where
  | whole {digits : List Char} (hne : digits ≠ [])
      (hdigits : ∀ d ∈ digits, isAsciiDigit d = true) : IsNumeral digits
  | fraction {digits places : List Char} (hdigits : ∀ d ∈ digits, isAsciiDigit d = true)
      (hne : places ≠ []) (hplaces : ∀ d ∈ places, isAsciiDigit d = true) :
      IsNumeral (digits ++ '.' :: places)

theorem IsNumeral.ne_nil {numeral : List Char} (h : IsNumeral numeral) : numeral ≠ [] := by
  cases h with
  | whole hne => exact hne
  | fraction => exact List.append_ne_nil_of_right_ne_nil _ (List.cons_ne_nil _ _)

theorem takeNumeral_append (cs : List Char) : (takeNumeral cs).1 ++ (takeNumeral cs).2 = cs := by
  have hcs : cs.takeWhile isAsciiDigit ++ cs.dropWhile isAsciiDigit = cs :=
    List.takeWhile_append_dropWhile
  unfold takeNumeral
  split
  · next d more heq =>
    rw [heq] at hcs
    split
    · rw [List.append_assoc, List.cons_append, List.takeWhile_append_dropWhile, hcs]
    · exact hcs
  · exact hcs

/-- Digits are taken as far as they go, and so are those behind a point. -/
theorem takeNumeral_fraction {digits places : List Char}
    (hdigits : ∀ d ∈ digits, isAsciiDigit d = true) (hne : places ≠ [])
    (hplaces : ∀ d ∈ places, isAsciiDigit d = true) (rest : List Char) :
    takeNumeral (digits ++ '.' :: places ++ rest) =
      (digits ++ '.' :: (places ++ rest.takeWhile isAsciiDigit), rest.dropWhile isAsciiDigit) := by
  obtain ⟨d, more, rfl⟩ := List.ne_nil_iff_exists_cons.mp hne
  have hpoint : ¬ isAsciiDigit '.' = true := by decide
  unfold takeNumeral
  rw [List.append_assoc, List.dropWhile_append_of_pos hdigits, List.takeWhile_append_of_pos hdigits,
    List.cons_append, List.dropWhile_cons_of_neg hpoint, List.takeWhile_cons_of_neg hpoint,
    List.append_nil]
  simp only [List.cons_append]
  rw [if_pos (hplaces d List.mem_cons_self), ← List.cons_append,
    List.takeWhile_append_of_pos hplaces, List.dropWhile_append_of_pos hplaces]
  rfl

/-- A numeral is taken in full. -/
theorem length_takeNumeral_le_of_isNumeral {numeral : List Char} (h : IsNumeral numeral)
    (rest : List Char) : (takeNumeral (numeral ++ rest)).2.length ≤ rest.length := by
  cases h with
  | whole _ hdigits =>
    have hle := Token.length_takeNumeral_le (numeral ++ rest)
    rw [List.dropWhile_append_of_pos hdigits] at hle
    exact hle.trans (length_dropWhile_le _ _)
  | fraction hdigits hne hplaces =>
    rw [takeNumeral_fraction hdigits hne hplaces]
    exact length_dropWhile_le _ _

/-- In front of white space a numeral is taken as it is. -/
theorem takeNumeral_of_isDelimited {numeral rest : List Char} (h : IsNumeral numeral)
    (hrest : IsDelimited rest) : takeNumeral (numeral ++ rest) = (numeral, rest) := by
  obtain ⟨hdrop, htake⟩ := hrest.dropWhile_eq isAsciiDigit_of_isBlank
  cases h with
  | whole _ hdigits =>
    unfold takeNumeral
    rw [List.dropWhile_append_of_pos hdigits, List.takeWhile_append_of_pos hdigits, hdrop, htake,
      List.append_nil]
    split
    · cases hrest '.' rfl
    · rfl
  | fraction hdigits hne hplaces =>
    rw [takeNumeral_fraction hdigits hne hplaces, hdrop, htake, List.append_nil]

theorem startsNumeral_iff {c : Char} {rest : List Char} :
    Token.startsNumeral c rest = true ↔ isAsciiDigit c = true ∨
      c = '.' ∧ ∃ d more, rest = d :: more ∧ isAsciiDigit d = true := by
  cases rest <;> simp [Token.startsNumeral]

theorem isNumeral_takeNumeral {c : Char} {rest : List Char}
    (h : Token.startsNumeral c rest = true) : IsNumeral (takeNumeral (c :: rest)).1 := by
  have hdigits (cs : List Char) : ∀ d ∈ cs.takeWhile isAsciiDigit, isAsciiDigit d = true :=
    fun _ => List.mem_takeWhile_imp
  by_cases hc : isAsciiDigit c = true
  · have hne : (c :: rest).takeWhile isAsciiDigit ≠ [] := by simp [hc]
    unfold takeNumeral
    split
    · split
      · next d _ _ hd => exact .fraction (hdigits _) (by simp [hd]) (hdigits _)
      · exact .whole hne (hdigits _)
    · exact .whole hne (hdigits _)
  · obtain ⟨rfl, d, more, rfl, hd⟩ := (startsNumeral_iff.mp h).resolve_left hc
    have htake := @takeNumeral_fraction [] [d] nofun (List.cons_ne_nil d [])
      (List.forall_mem_singleton.mpr hd) more
    rw [List.nil_append, List.cons_append, List.cons_append, List.nil_append] at htake
    rw [htake]
    exact .fraction nofun (List.cons_ne_nil _ _) (List.forall_mem_cons.mpr ⟨hd, hdigits _⟩)

theorem startsNumeral_of_isNumeral {c : Char} {cs : List Char} (h : IsNumeral (c :: cs))
    (rest : List Char) : Token.startsNumeral c (cs ++ rest) = true := by
  generalize hnumeral : c :: cs = numeral at h
  rw [startsNumeral_iff]
  cases h with
  | whole _ hdigits => exact .inl (hdigits c (hnumeral ▸ List.mem_cons_self))
  | @fraction digits places hdigits hne hplaces =>
    cases digits with
    | nil =>
      cases hnumeral
      obtain ⟨d, more, rfl⟩ := List.ne_nil_iff_exists_cons.mp hne
      exact .inr ⟨rfl, d, more ++ rest, rfl, hplaces d List.mem_cons_self⟩
    | cons d digits =>
      cases hnumeral
      exact .inl (hdigits c List.mem_cons_self)

/-! ## Texts -/

namespace Token

/-- A token can be written like this. -/
inductive Spells : Token → List Char → Prop where
  | name {text : List Char} (h : isNameText text = true) : Spells (name (String.ofList text)) text
  | literal {quote : Char} {text : List Char} (hquote : quote = '\'' ∨ quote = '"')
      (h : quote ∉ text) : Spells (literal (String.ofList text)) (quote :: (text ++ [quote]))
  | number {text : List Char} (h : IsNumeral text) : Spells (number (Number.ofNumeral text)) text
  | symbol {t : Token} (h : t.symbol ≠ "") : Spells t t.symbol.toList

/-- Symbols have one character or two. -/
theorem symbol_cases {t : Token} (h : t.symbol ≠ "") :
    (∃ c, t.symbol.toList = [c] ∧ ofChar? c = some t) ∨
      ∃ c d, t.symbol.toList = [c, d] ∧ ofPair? c d = some t := by
  cases t with
  | name | literal | number => exact absurd rfl h
  | doubleSlash | doubleDot | doubleColon | notEqual | lessEqual | greaterEqual =>
    exact .inr ⟨_, _, rfl, rfl⟩
  | _ => exact .inl ⟨_, rfl, rfl⟩

/-- A token of one character is written as it. -/
theorem spells_of_ofChar? {c : Char} {t : Token} (h : ofChar? c = some t) : t.Spells [c] := by
  unfold ofChar? at h
  split at h <;> cases h <;> exact .symbol (by decide)

theorem spells_of_ofPair? {c d : Char} {t : Token} (h : ofPair? c d = some t) :
    t.Spells [c, d] := by
  unfold ofPair? at h
  split at h <;> cases h <;> exact .symbol (by decide)

theorem isBlank_of_ofChar? {c : Char} {t : Token} (h : ofChar? c = some t) :
    isBlank c = false := by
  unfold ofChar? at h
  split at h <;> first | rfl | cases h

theorem isAsciiDigit_of_ofChar? {c : Char} {t : Token} (h : ofChar? c = some t) :
    isAsciiDigit c = false := by
  unfold ofChar? at h
  split at h <;> first | rfl | cases h

theorem isBlank_of_ofPair? {c d : Char} {t : Token} (h : ofPair? c d = some t) :
    isBlank c = false ∧ isBlank d = false := by
  unfold ofPair? at h
  split at h <;> first | exact ⟨rfl, rfl⟩ | cases h

/-- A text begins with a character that is not white space. -/
theorem Spells.exists_cons {t : Token} {text : List Char} (h : t.Spells text) :
    ∃ c cs, text = c :: cs ∧ isBlank c = false := by
  cases h with
  | name h =>
    cases text with
    | nil => cases h
    | cons c cs => exact ⟨c, cs, rfl, isBlank_eq_false (Bool.and_eq_true_iff.mp h).1⟩
  | literal hquote => exact ⟨_, _, rfl, by rcases hquote with rfl | rfl <;> decide⟩
  | number h =>
    obtain ⟨c, cs, rfl⟩ := List.ne_nil_iff_exists_cons.mp h.ne_nil
    refine ⟨c, cs, rfl, ?_⟩
    obtain hdigit | ⟨rfl, -⟩ := startsNumeral_iff.mp (startsNumeral_of_isNumeral h [])
    · exact not_isBlank_of_isAsciiDigit hdigit
    · decide
  | symbol h =>
    obtain ⟨c, hsymbol, hchar⟩ | ⟨c, d, hsymbol, hpair⟩ := symbol_cases h
    · exact ⟨c, [], hsymbol, isBlank_of_ofChar? hchar⟩
    · exact ⟨c, [d], hsymbol, (isBlank_of_ofPair? hpair).1⟩

/-! ## What is cut off -/

theorem eq_append_of_dropWhile {quote d : Char} {rest after : List Char}
    (h : rest.dropWhile (· != quote) = d :: after) :
    rest = rest.takeWhile (· != quote) ++ quote :: after := by
  have hd : (d != quote) = false := by
    have hhead := List.head?_dropWhile_not (· != quote) rest
    rw [h] at hhead
    simpa using hhead
  rw [bne_eq_false_iff_eq] at hd
  subst hd
  rw [← h, List.takeWhile_append_dropWhile]

/-- **What is cut off is a text of the token.** -/
theorem spells_of_takeFrom {c : Char} {rest after : List Char} {t : Token}
    (h : takeFrom c rest = .ok (t, after)) : ∃ text, c :: rest = text ++ after ∧ t.Spells text := by
  unfold takeFrom at h
  split at h
  · next hquote =>
    split at h
    · cases h
    · next d after heq =>
      cases h
      have hrest := eq_append_of_dropWhile heq
      have hnot : c ∉ rest.takeWhile (· != c) := by
        intro hmem
        have hne := List.mem_takeWhile_imp hmem
        simp at hne
      refine ⟨c :: (rest.takeWhile (· != c) ++ [c]), ?_, .literal (by simpa using hquote) hnot⟩
      rw [List.cons_append, List.append_assoc, List.singleton_append, ← hrest]
  · split at h
    · next hnumeral =>
      cases h
      exact ⟨_, (takeNumeral_append _).symm, .number (isNumeral_takeNumeral hnumeral)⟩
    · split at h
      · next token hpair =>
        cases h
        obtain ⟨d, hhead, hpair⟩ := Option.bind_eq_some_iff.mp hpair
        obtain ⟨more, rfl⟩ := List.head?_eq_some_iff.mp hhead
        exact ⟨[c, d], rfl, spells_of_ofPair? hpair⟩
      · split at h
        · next hchar =>
          cases h
          exact ⟨[c], rfl, spells_of_ofChar? hchar⟩
        · split at h
          · next hstart =>
            cases h
            refine ⟨c :: rest.takeWhile isNameChar, ?_, .name ?_⟩
            · rw [List.cons_append, List.takeWhile_append_dropWhile]
            · rw [isNameText, hstart, Bool.true_and, List.all_eq_true]
              exact fun d hd => List.mem_takeWhile_imp hd
          · cases h

theorem not_quote_iff {c : Char} : ¬ (c = '\'' || c = '"') = true ↔ ¬ (c = '\'' ∨ c = '"') := by
  rw [Bool.or_eq_true, decide_eq_true_eq, decide_eq_true_eq]

/-- Where a numeral begins a number is taken. -/
theorem takeFrom_numeral {c : Char} {rest : List Char} (h : startsNumeral c rest = true) :
    takeFrom c rest = .ok (number (Number.ofNumeral (takeNumeral (c :: rest)).1),
      (takeNumeral (c :: rest)).2) := by
  have hquote : ¬ (c = '\'' || c = '"') = true := by
    rw [not_quote_iff]
    rintro (rfl | rfl)
    · cases h
    · cases h
  unfold takeFrom
  rw [if_neg hquote, if_pos h]

theorem takeFrom_pair {c d : Char} {t : Token} (h : ofPair? c d = some t) (rest : List Char) :
    takeFrom c (d :: rest) = .ok (t, rest) := by
  unfold ofPair? at h
  split at h <;> cases h <;> rfl

/-- A character that stands for a token is taken unless a longer token begins with it. -/
theorem takeFrom_char {c : Char} {rest : List Char} {t : Token} (h : ofChar? c = some t)
    (hnumeral : startsNumeral c rest = false) (hpair : rest.head?.bind (ofPair? c) = none) :
    takeFrom c rest = .ok (t, rest) := by
  have hquote : ¬ (c = '\'' || c = '"') = true := by
    rw [not_quote_iff]
    rintro (rfl | rfl)
    · cases h
    · cases h
  unfold takeFrom
  rw [if_neg hquote, hnumeral, hpair, h]
  rfl

/-- Where an operator stands, something is cut off: perhaps a numeral or a longer operator. -/
theorem exists_takeFrom_of_ofChar? {c : Char} {t : Token} (h : ofChar? c = some t)
    (rest : List Char) : ∃ t' after, takeFrom c rest = .ok (t', after) := by
  cases hnumeral : startsNumeral c rest with
  | true => exact ⟨_, _, takeFrom_numeral hnumeral⟩
  | false =>
    cases hpair : rest.head?.bind (ofPair? c) with
    | none => exact ⟨_, _, takeFrom_char h hnumeral hpair⟩
    | some t' =>
      obtain ⟨d, hhead, hpair⟩ := Option.bind_eq_some_iff.mp hpair
      obtain ⟨more, rfl⟩ := List.head?_eq_some_iff.mp hhead
      exact ⟨_, _, takeFrom_pair hpair more⟩

/-- **What is cut off is at least as long as every text of a token that stands there.** -/
theorem takeFrom_of_spells {t : Token} {c : Char} {cs : List Char} (h : t.Spells (c :: cs))
    (rest : List Char) :
    ∃ t' after, takeFrom c (cs ++ rest) = .ok (t', after) ∧ after.length ≤ rest.length := by
  generalize htext : c :: cs = text at h
  cases h with
  | name h =>
    cases htext
    rw [isNameText, Bool.and_eq_true, List.all_eq_true] at h
    refine ⟨_, _, takeFrom_name h.1, ?_⟩
    rw [List.dropWhile_append_of_pos h.2]
    exact length_dropWhile_le _ _
  | literal hquote h =>
    cases htext
    rw [List.append_assoc, List.singleton_append]
    exact ⟨_, _, takeFrom_literal (by simpa using hquote) h rest, Nat.le_refl _⟩
  | number h =>
    cases htext
    refine ⟨_, _, takeFrom_numeral (startsNumeral_of_isNumeral h rest), ?_⟩
    exact length_takeNumeral_le_of_isNumeral h rest
  | symbol h =>
    obtain ⟨d, hsymbol, hchar⟩ | ⟨d, e, hsymbol, hpair⟩ := symbol_cases h
    · cases htext.trans hsymbol
      obtain ⟨t', after, htake⟩ := exists_takeFrom_of_ofChar? hchar rest
      exact ⟨t', after, htake, Nat.le_of_lt_succ (length_lt_of_takeFrom htake)⟩
    · cases htext.trans hsymbol
      exact ⟨_, _, takeFrom_pair hpair rest, Nat.le_refl _⟩

/-- Where no token can be made there is no text of a token. -/
theorem not_spells_of_takeFrom {c : Char} {rest : List Char} {fault : Fault}
    (h : takeFrom c rest = .error fault) {t : Token} {text : List Char} (htext : t.Spells text) :
    ¬ text <+: c :: rest := by
  rintro ⟨more, hmore⟩
  obtain ⟨d, cs, rfl, -⟩ := htext.exists_cons
  obtain ⟨rfl, hrest⟩ := List.cons.inj hmore
  obtain ⟨t', after, htake, -⟩ := takeFrom_of_spells htext more
  rw [← hrest, List.append_eq, htake] at h
  cases h

theorem not_quote_of_startsNone {c : Char} {rest : List Char}
    (h : takeFrom c rest = .error .startsNone) : ¬ (c = '\'' ∨ c = '"') := by
  rw [← not_quote_iff]
  intro hquote
  unfold takeFrom at h
  rw [if_pos hquote] at h
  split at h <;> cases h

/-- A quote is open if there is none of its kind behind it. -/
theorem quote_of_openQuote {c : Char} {rest : List Char}
    (h : takeFrom c rest = .error .openQuote) : (c = '\'' ∨ c = '"') ∧ c ∉ rest := by
  unfold takeFrom at h
  split at h
  · next hquote =>
    refine ⟨by simpa using hquote, ?_⟩
    split at h
    · next hnone =>
      intro hmem
      have hne := List.dropWhile_eq_nil_iff.mp hnone c hmem
      simp at hne
    · cases h
  · split at h
    · cases h
    · split at h
      · cases h
      · split at h
        · cases h
        · split at h <;> cases h

/-- **A text with white space behind it is cut off as it is.** -/
theorem takeFrom_spelled {t : Token} {c : Char} {cs : List Char} (h : t.Spells (c :: cs))
    {rest : List Char} (hrest : IsDelimited rest) : takeFrom c (cs ++ rest) = .ok (t, rest) := by
  generalize htext : c :: cs = text at h
  cases h with
  | name h =>
    cases htext
    rw [isNameText, Bool.and_eq_true, List.all_eq_true] at h
    obtain ⟨hdrop, htake⟩ := hrest.dropWhile_eq isNameChar_of_isBlank
    rw [takeFrom_name h.1, List.dropWhile_append_of_pos h.2, List.takeWhile_append_of_pos h.2,
      hdrop, htake, List.append_nil]
  | literal hquote h =>
    cases htext
    rw [List.append_assoc, List.singleton_append]
    exact takeFrom_literal (by simpa using hquote) h rest
  | number h =>
    cases htext
    rw [takeFrom_numeral (startsNumeral_of_isNumeral h rest), ← List.cons_append,
      takeNumeral_of_isDelimited h hrest]
  | symbol h =>
    obtain ⟨d, hsymbol, hchar⟩ | ⟨d, e, hsymbol, hpair⟩ := symbol_cases h
    · cases htext.trans hsymbol
      refine takeFrom_char hchar ?_ ?_
      · rw [Bool.eq_false_iff, ne_eq, startsNumeral_iff]
        rintro (hdigit | ⟨-, d, more, rfl, hd⟩)
        · rw [isAsciiDigit_of_ofChar? hchar] at hdigit
          cases hdigit
        · rw [isAsciiDigit_of_isBlank d (hrest d rfl)] at hd
          cases hd
      · refine Option.bind_eq_none_iff.mpr fun e he => ?_
        by_contra hsome
        obtain ⟨t', hpair⟩ := Option.ne_none_iff_exists'.mp hsome
        have hblank := hrest e he
        rw [(isBlank_of_ofPair? hpair).2] at hblank
        cases hblank
    · cases htext.trans hsymbol
      exact takeFrom_pair hpair rest

end Token

end Almanac.Selector
