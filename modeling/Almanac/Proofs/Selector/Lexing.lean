import Almanac.Proofs.Selector.Tiling

/-!
# Tokens and their texts

Tokens written with single spaces between them are read back (`lexFrom_spaced`): names of
which lexing can make a token, literals that leave out one kind of quote, and whole numbers
below `10 ^ 15`, whose decimal digits are read exactly. Of an expression lexing makes no other
names and literals (`isLexical_of_lexFrom`), and a whole number among its tokens is held as
that number. Every token begins at its position (`takeFrom_of_lexFrom`).
-/

namespace Almanac

open Text

/-! ## Whole numbers -/

namespace Number

/-- A whole number below `10 ^ 15`. -/
def IsSmallWhole : Number → Prop
  | finite _ mantissa exponent => ∃ n, whole? mantissa exponent = some n ∧ n < Nat.pow 10 15
  | _ => False

/-- A number that is held as it is where it is whole. -/
def IsHeld : Number → Prop
  | finite negative mantissa exponent => negative = false ∧
      ∀ n, whole? mantissa exponent = some n → n < Nat.pow 2 precision →
        mantissa = n ∧ exponent = 0
  | _ => True

theorem whole?_zero (n : Nat) : whole? n 0 = some n := by
  simp [whole?, Nat.mod_one]

theorem isHeld_natural (n : Nat) : (finite false n 0).IsHeld := by
  refine ⟨rfl, fun m hm _ => ?_⟩
  rw [whole?_zero] at hm
  cases hm
  exact ⟨rfl, rfl⟩

theorem isHeld_hold (mantissa : Nat) (exponent : Int) : (hold false mantissa exponent).IsHeld := by
  unfold hold
  split
  · exact isHeld_natural _
  · next hnone =>
    refine ⟨rfl, fun n hn hlt => ?_⟩
    simp only [hn, Option.filter, hlt, decide_true, if_true, reduceCtorEq] at hnone

theorem isHeld_ite {p : Prop} [Decidable p] {a b : Number} (ha : a.IsHeld) (hb : b.IsHeld) :
    (if p then a else b).IsHeld := by
  split
  · exact ha
  · exact hb

theorem isHeld_ofQuotient (num den : Nat) : (ofQuotient false num den).IsHeld := by
  unfold ofQuotient
  exact isHeld_ite (isHeld_natural _) (isHeld_ite trivial (isHeld_hold _ _))

/-- The number of a numeral is held as it is where it is whole. -/
theorem isHeld_ofNumeral (numeral : List Char) : (ofNumeral numeral).IsHeld := by
  unfold ofNumeral ofScientific
  exact isHeld_ite (isHeld_natural 0) (isHeld_ite trivial
    (isHeld_ite (isHeld_natural 0) (isHeld_ofQuotient _ _)))

/-- A small whole number that is held as it is has no exponent. -/
theorem IsHeld.eq_of_isSmallWhole {value : Number} (h : value.IsHeld)
    (hwhole : value.IsSmallWhole) : ∃ n, n < Nat.pow 10 15 ∧ value = finite false n 0 := by
  cases value with
  | nan | infinite => exact hwhole.elim
  | finite negative mantissa exponent =>
    obtain ⟨n, hn, hlt⟩ := hwhole
    obtain ⟨hsign, hheld⟩ := h
    obtain ⟨hm, he⟩ := hheld n hn (Nat.lt_trans hlt (by decide))
    exact ⟨n, hlt, by rw [hsign, hm, he]⟩

theorem text_natural {n : Nat} (h : n < Nat.pow 10 15) :
    (finite false n 0).text.toList = digits n := by
  simp [text, magnitudeText, whole?_zero, h]

theorem ne_point_of_mem_digits {n : Nat} {c : Char} (h : c ∈ digits n) : (c != '.') = true := by
  have hdigit := isAsciiDigit_of_mem_digits h
  rw [bne_iff_ne]
  rintro rfl
  cases hdigit

/-- A whole number that a number can hold is held as it is. -/
theorem ofNat_of_lt {n : Nat} (h : n < Nat.pow 2 precision) : ofNat n = finite false n 0 := by
  rw [ofNat, ofQuotient, if_pos (by simpa [Nat.mod_one] using h), Nat.div_one]

/-- The digits of a number that fits are read as the number. -/
theorem ofNumeral_digits {n : Nat} (h : n < Nat.pow 2 precision) :
    ofNumeral (digits n) = finite false n 0 := by
  have hwhole : (digits n).takeWhile (· != '.') = digits n :=
    List.takeWhile_eq_self_iff.mpr fun c hc => ne_point_of_mem_digits hc
  have hfraction : (digits n).dropWhile (· != '.') = [] :=
    List.dropWhile_eq_nil_iff.mpr fun c hc => ne_point_of_mem_digits hc
  have hlength : (digits n).length ≤ 16 :=
    length_digits_le (by decide) (Nat.lt_trans h (by decide))
  simp only [ofNumeral, hwhole, hfraction, List.drop_nil, List.append_nil, List.length_nil,
    value_digits]
  unfold ofScientific
  split
  · next hzero => rw [hzero]
  · have hlarge : ¬ ((digits n).length + -((0 : Nat) : Int) > 400) := by omega
    have hsmall : ¬ ((digits n).length + -((0 : Nat) : Int) < -400) := by omega
    dsimp only
    rw [if_neg hlarge, if_neg hsmall]
    exact (congrArg (ofQuotient false · 1) (Nat.mul_one n)).trans (ofNat_of_lt h)

end Number

namespace Selector

/-! ## Names -/

theorem isNameText_axis (axis : Axis) : isNameText axis.name.toList = true := by
  cases axis <;> decide

theorem isNameText_function (function : Function) : isNameText function.name.toList = true := by
  cases function <;> decide

theorem isNameStart_asciiLower (c : Char) : isNameStart (asciiLower c) = isNameStart c :=
  asciiLower_eq (by decide) c

theorem isNameChar_asciiLower (c : Char) : isNameChar (asciiLower c) = isNameChar c :=
  asciiLower_eq (by decide) c

theorem asciiLower_asciiLower (c : Char) : asciiLower (asciiLower c) = asciiLower c :=
  asciiLower_eq (by decide) c

theorem isNameText_lowerLatin {text : String} (h : isNameText text.toList = true) :
    isNameText (lowerLatin text).toList = true := by
  rw [lowerLatin, String.toList_ofList]
  cases hcs : text.toList with
  | nil =>
    rw [hcs] at h
    cases h
  | cons c rest =>
    rw [hcs, isNameText, Bool.and_eq_true, List.all_eq_true] at h
    rw [List.map_cons, isNameText, isNameStart_asciiLower, h.1, Bool.true_and, List.all_map,
      List.all_eq_true]
    intro d hd
    rw [Function.comp_apply, isNameChar_asciiLower]
    exact h.2 d hd

theorem lowerLatin_lowerLatin (text : String) : lowerLatin (lowerLatin text) = lowerLatin text := by
  simp only [lowerLatin, String.toList_ofList, List.map_map]
  congr 1
  exact List.map_congr_left fun c _ => asciiLower_asciiLower c

/-! ## Writing tokens -/

namespace Token

/-- A kind of quote that a literal can stand in. -/
def quoteFor (text : List Char) : Char := if '"' ∈ text then '\'' else '"'

/-- The characters of a token. -/
def write : Token → List Char
  | name text => text.toList
  | literal text => quoteFor text.toList :: (text.toList ++ [quoteFor text.toList])
  | number value => value.text.toList
  | token => token.symbol.toList

/-- A token of an expression. -/
def IsLexical : Token → Prop
  | name text => isNameText text.toList = true
  | literal text => '\'' ∉ text.toList ∨ '"' ∉ text.toList
  | number value => value.IsHeld
  | _ => True

/-- A token of an expression that is no fraction and no large number. -/
def IsWritable : Token → Prop
  | number value => ∃ n, n < Nat.pow 10 15 ∧ value = .finite false n 0
  | token => token.IsLexical

end Token

/-- Tokens with single spaces between them. -/
def spaced (ts : List Token) : List Char := [' '].intercalate (ts.map Token.write)

/-! ## Reading them back -/

namespace Token

/-- The quotes of a literal are of a kind that is not in it, if there is one. -/
theorem quoteFor_not_mem {text : List Char} (h : '\'' ∉ text ∨ '"' ∉ text) :
    quoteFor text ∉ text := by
  unfold quoteFor
  split
  · next hmem => exact h.resolve_right fun hnot => hnot hmem
  · next hnot => exact hnot

theorem quoteFor_eq (text : List Char) : quoteFor text = '\'' ∨ quoteFor text = '"' := by
  unfold quoteFor
  split
  · exact .inl rfl
  · exact .inr rfl

/-- A token is written as one of its texts. -/
theorem spells_write {t : Token} (h : t.IsWritable) : t.Spells t.write := by
  cases t with
  | name text =>
    have hname : (name (String.ofList text.toList)).Spells text.toList := .name h
    rwa [String.ofList_toList] at hname
  | literal text =>
    have hliteral := Spells.literal (quoteFor_eq text.toList) (quoteFor_not_mem h)
    rwa [String.ofList_toList] at hliteral
  | number value =>
    obtain ⟨n, hn, rfl⟩ := h
    have hdigits := Spells.number (.whole (Number.digits_ne_nil n) fun d hd =>
      Number.isAsciiDigit_of_mem_digits hd)
    rw [Number.ofNumeral_digits (Nat.lt_trans hn (by decide)), ← Number.text_natural hn] at hdigits
    exact hdigits
  | _ => exact .symbol (by decide)

end Token

theorem written_spaced {ts : List Token} (h : ∀ t ∈ ts, t.IsWritable) :
    Written ts (spaced ts) := by
  induction ts with
  | nil => exact .nil
  | cons t ts ih =>
    obtain ⟨ht, hts⟩ := List.forall_mem_cons.mp h
    have htext := Token.spells_write ht
    cases ts with
    | nil =>
      have hspaced : spaced [t] = t.write ++ [] := by simp [spaced]
      rw [hspaced]
      exact .token htext nofun .nil
    | cons t' ts =>
      have hspaced : spaced (t :: t' :: ts) = t.write ++ ' ' :: spaced (t' :: ts) := by
        simp [spaced, List.intercalate]
      have hspace : isBlank ' ' = true := by decide
      rw [hspaced]
      exact .token htext (isDelimited_cons hspace _) (.blank hspace (ih hts))

/-- **Written tokens are read back.** -/
theorem lexFrom_spaced {ts : List Token} (h : ∀ t ∈ ts, t.IsWritable) (position : Nat) :
    ∃ lexemes, lexFrom position (spaced ts) = .ok lexemes ∧ tokens lexemes = ts :=
  lexFrom_of_written (written_spaced h) position

/-! ## Where tokens stand -/

/-- What is left of the characters behind a token. -/
theorem Token.suffix_of_takeFrom {c : Char} {rest after : List Char} {t : Token}
    (h : takeFrom c rest = .ok (t, after)) : after <:+ c :: rest := by
  obtain ⟨text, htext, -⟩ := spells_of_takeFrom h
  exact ⟨text, htext.symm⟩

/-- Every token begins at its position. -/
theorem takeFrom_of_lexFrom {position : Nat} {cs : List Char} {lexemes : List Lexeme}
    (h : lexFrom position cs = .ok lexemes) {lexeme : Lexeme} (hmem : lexeme ∈ lexemes) :
    ∃ n c rest after, lexeme.position = position + n ∧ cs.drop n = c :: rest ∧
      Token.takeFrom c rest = .ok (lexeme.token, after) := by
  fun_induction lexFrom position cs generalizing lexemes with
  | case1 =>
    cases h
    cases hmem
  | case2 position c rest hblank ih =>
    obtain ⟨n, d, more, after, hposition, hdrop, htake⟩ := ih h hmem
    exact ⟨n + 1, d, more, after, by rw [hposition]; omega, hdrop, htake⟩
  | case3 => cases h
  | case4 => cases h
  | case5 => cases h
  | case6 position c rest hblank token after htake more hmore ih =>
    cases h
    rcases List.mem_cons.mp hmem with rfl | hmem
    · exact ⟨0, c, rest, after, rfl, rfl, htake⟩
    · obtain ⟨n, d, later, left, hposition, hdrop, htake'⟩ := ih hmore hmem
      refine ⟨(c :: rest).length - after.length + n, d, later, left, ?_, ?_, htake'⟩
      · rw [hposition, Nat.add_assoc]
      · rw [← List.drop_drop, ← List.suffix_iff_eq_drop.mp (Token.suffix_of_takeFrom htake)]
        exact hdrop

/-! ## What lexing makes -/

theorem Token.Spells.isLexical {t : Token} {text : List Char} (h : t.Spells text) :
    t.IsLexical := by
  cases h with
  | name h =>
    show isNameText (String.ofList text).toList = true
    rwa [String.toList_ofList]
  | @literal quote text hquote h =>
    show '\'' ∉ (String.ofList text).toList ∨ '"' ∉ (String.ofList text).toList
    rw [String.toList_ofList]
    rcases hquote with rfl | rfl
    · exact .inl h
    · exact .inr h
  | number => exact Number.isHeld_ofNumeral _
  | symbol h =>
    cases t with
    | name | literal | number => exact absurd rfl h
    | _ => trivial

/-- Lexing gives tokens of expressions. -/
theorem isLexical_of_lexFrom {position : Nat} {cs : List Char} {lexemes : List Lexeme}
    (h : lexFrom position cs = .ok lexemes) : ∀ t ∈ tokens lexemes, t.IsLexical := by
  fun_induction lexFrom position cs generalizing lexemes with
  | case1 =>
    cases h
    exact List.forall_mem_nil _
  | case2 position c rest hblank ih => exact ih h
  | case3 => cases h
  | case4 => cases h
  | case5 => cases h
  | case6 position c rest hblank token after htake more hmore ih =>
    cases h
    obtain ⟨text, -, hspells⟩ := Token.spells_of_takeFrom htake
    exact List.forall_mem_cons.mpr ⟨hspells.isLexical, ih hmore⟩

end Selector

end Almanac
