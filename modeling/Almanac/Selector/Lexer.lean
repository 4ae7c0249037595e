import Almanac.Selector.Error

/-!
# Cutting an expression into tokens

`Token.take` cuts the longest token off the front of the characters; `lex` does
so again and again, skipping white space between tokens. A token always takes at
least one character (`Token.length_lt_of_take`), so the cutting ends.
-/

namespace Almanac.Selector

open Almanac.Text

/-! ## The classes of characters in a token -/

/-- The characters a name may begin with. -/
def isNameStart (c : Char) : Bool := isAlphabetic c || c == '_'

/-- The characters a name may go on with. -/
def isNameChar (c : Char) : Bool := isAlphanumeric c || c == '_' || c == '-'

/-- The numeral at the front of the characters: digits, and a point if a digit
follows it. -/
def takeNumeral (cs : List Char) : List Char × List Char :=
  let whole := cs.takeWhile isAsciiDigit
  match cs.dropWhile isAsciiDigit with
  | '.' :: d :: rest =>
    if isAsciiDigit d then
      (whole ++ '.' :: (d :: rest).takeWhile isAsciiDigit, (d :: rest).dropWhile isAsciiDigit)
    else (whole, '.' :: d :: rest)
  | rest => (whole, rest)

/-! ## One token -/

namespace Token

/-- Why no token can be cut off. -/
inductive Fault where
  | startsNone
  | openQuote
  deriving Repr, DecidableEq

/-- The operator or bracket that is written with both characters. -/
def ofPair? (c d : Char) : Option Token :=
  match c, d with
  | '/', '/' => some doubleSlash
  | '.', '.' => some doubleDot
  | ':', ':' => some doubleColon
  | '!', '=' => some notEqual
  | '<', '=' => some lessEqual
  | '>', '=' => some greaterEqual
  | _, _ => none

/-- The operator or bracket that is written with one character. -/
def ofChar? (c : Char) : Option Token :=
  match c with
  | '/' => some slash
  | '.' => some dot
  | '@' => some atSign
  | ',' => some comma
  | '(' => some openParen
  | ')' => some closeParen
  | '[' => some openBracket
  | ']' => some closeBracket
  | '|' => some bar
  | '*' => some star
  | '=' => some equal
  | '<' => some less
  | '>' => some greater
  | _ => none

/-- Whether a numeral begins here: with a digit, or with a point and a digit. -/
def startsNumeral (c : Char) (rest : List Char) : Bool :=
  isAsciiDigit c || (c == '.' && (rest.head?.map isAsciiDigit).getD false)

/-- The token that begins with `c`, and the characters after it. -/
def takeFrom (c : Char) (rest : List Char) : Except Fault (Token × List Char) :=
  if c = '\'' || c = '"' then
    match rest.dropWhile (· != c) with
    | [] => .error .openQuote
    | _ :: after => .ok (literal (String.ofList (rest.takeWhile (· != c))), after)
  else if startsNumeral c rest then
    let (numeral, after) := takeNumeral (c :: rest)
    .ok (number (Number.ofNumeral numeral), after)
  else
    match (rest.head?.bind (ofPair? c)) with
    | some token => .ok (token, rest.drop 1)
    | none =>
      match ofChar? c with
      | some token => .ok (token, rest)
      | none =>
        if isNameStart c then
          .ok (name (String.ofList (c :: rest.takeWhile isNameChar)), rest.dropWhile isNameChar)
        else .error .startsNone

theorem length_takeNumeral_le (cs : List Char) :
    (takeNumeral cs).2.length ≤ (cs.dropWhile isAsciiDigit).length := by
  unfold takeNumeral
  split
  · next d more heq =>
    rw [heq]
    have := length_dropWhile_le isAsciiDigit (d :: more)
    split <;> simp only [List.length_cons] at * <;> omega
  · exact Nat.le_refl _

theorem length_takeNumeral_lt {c : Char} {rest : List Char} (h : startsNumeral c rest = true) :
    (takeNumeral (c :: rest)).2.length < (c :: rest).length := by
  by_cases hc : isAsciiDigit c = true
  · have h1 := length_takeNumeral_le (c :: rest)
    have h2 := length_dropWhile_le isAsciiDigit rest
    rw [List.dropWhile_cons_of_pos hc] at h1
    simp only [List.length_cons]
    omega
  · simp only [startsNumeral, Bool.not_eq_true] at h hc
    simp only [hc, Bool.false_or, Bool.and_eq_true, beq_iff_eq] at h
    obtain ⟨rfl, h⟩ := h
    cases rest with
    | nil => simp at h
    | cons d more =>
      have hd : isAsciiDigit d = true := by simpa using h
      have h2 := length_dropWhile_le isAsciiDigit (d :: more)
      unfold takeNumeral
      rw [List.dropWhile_cons_of_neg (by simp [hc])]
      simp only [hd, ite_true, List.length_cons] at *
      omega

/-- A token takes at least one character. -/
theorem length_lt_of_takeFrom {c : Char} {rest after : List Char} {t : Token}
    (h : takeFrom c rest = .ok (t, after)) : after.length < (c :: rest).length := by
  unfold takeFrom at h
  split at h
  · split at h
    · simp at h
    · next x tail heq =>
      have := length_dropWhile_le (· != c) rest
      simp only [Except.ok.injEq, Prod.mk.injEq] at h
      obtain ⟨-, rfl⟩ := h
      rw [heq] at this
      simp only [List.length_cons] at *
      omega
  · split at h
    · next hn =>
      have := length_takeNumeral_lt hn
      simp only [Except.ok.injEq, Prod.mk.injEq] at h
      obtain ⟨-, rfl⟩ := h
      exact this
    · split at h
      · simp only [Except.ok.injEq, Prod.mk.injEq] at h
        obtain ⟨-, rfl⟩ := h
        simp only [List.length_drop, List.length_cons]
        omega
      · split at h
        · simp only [Except.ok.injEq, Prod.mk.injEq] at h
          obtain ⟨-, rfl⟩ := h
          simp
        · split at h
          · have := length_dropWhile_le isNameChar rest
            simp only [Except.ok.injEq, Prod.mk.injEq] at h
            obtain ⟨-, rfl⟩ := h
            simp only [List.length_cons]
            omega
          · simp at h

end Token

/-! ## All tokens -/

/-- The tokens of the characters `cs`, which stand at `position`. -/
def lexFrom (position : Nat) (cs : List Char) : Except Error (List Lexeme) :=
  match cs with
  | [] => .ok []
  | c :: rest =>
    if isBlank c then lexFrom (position + 1) rest
    else
      match _h : Token.takeFrom c rest with
      | .error .startsNone => .error (.unexpectedChar c position)
      | .error .openQuote => .error (.unterminatedLiteral position)
      | .ok (token, after) =>
        match lexFrom (position + ((c :: rest).length - after.length)) after with
        | .error e => .error e
        | .ok more => .ok (⟨token, position⟩ :: more)
termination_by cs.length
decreasing_by
  · simp
  · exact Token.length_lt_of_takeFrom _h

/-- The tokens of an expression. -/
def lex (source : String) : Except Error (List Lexeme) := lexFrom 0 source.toList

end Almanac.Selector
