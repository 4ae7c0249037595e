import Almanac.Proofs.Selector.TokenTexts

/-!
# How tokens tile an expression

The characters up to a place are cut into tiles, each the longest text of a token that stands
where it begins, with only white space between them (`Tiling`). Lexing goes from one such place to
the next (`Tiling.skip`, `Tiling.cons`); it ends where no characters are left, or stops at one from
which no token can be cut off (`lexFrom_tiling`). Texts of tokens that are kept apart by white
space are their own tiles, so every list of tokens is read back from them
(`lexFrom_of_written`).
-/

namespace Almanac.Selector

open Almanac.Text

/-! ## Tiles -/

/-- A token at its place, with the text it is written as. -/
structure Tile where
  lexeme : Lexeme
  text : List Char

namespace Tile

/-- Where the text begins. -/
def start (tile : Tile) : Nat := tile.lexeme.position

/-- Where the characters behind the text begin. -/
def stop (tile : Tile) : Nat := tile.start + tile.text.length

/-- The text stands in the source from its start to its end, and no longer text of a token
stands there. -/
structure IsCut (source : List Char) (tile : Tile) : Prop where
  spelled : tile.lexeme.token.Spells tile.text
  placed : (source.drop tile.start).take (tile.stop - tile.start) = tile.text
  longest : ∀ (t : Token) (text : List Char), t.Spells text →
    text <+: source.drop tile.start → text.length ≤ tile.text.length

end Tile

/-- The characters of the source from `start` up to `stop` are those of the tiles, which follow
one another, and white space. -/
structure Tiling (source : List Char) (start stop : Nat) (tiles : List Tile) : Prop where
  le : start ≤ stop
  cut : ∀ tile ∈ tiles, tile.IsCut source
  within : ∀ tile ∈ tiles, start ≤ tile.start ∧ tile.stop ≤ stop
  apart : tiles.Pairwise fun tile later => tile.stop ≤ later.start
  blank : ∀ (i : Nat) (c : Char), start ≤ i → i < stop → source[i]? = some c →
    (∀ tile ∈ tiles, i < tile.start ∨ tile.stop ≤ i) → isBlank c = true

namespace Tiling

variable {source : List Char} {start stop : Nat} {tiles : List Tile}

theorem nil (source : List Char) (position : Nat) : Tiling source position position [] where
  le := Nat.le_refl _
  cut := nofun
  within := nofun
  apart := .nil
  blank i c hi hlt := absurd hi (by omega)

/-- White space before the tiles. -/
theorem skip (h : Tiling source (start + 1) stop tiles) {c : Char} (hc : source[start]? = some c)
    (hblank : isBlank c = true) : Tiling source start stop tiles where
  le := by
    have := h.le
    omega
  cut := h.cut
  within tile htile := by
    have := h.within tile htile
    omega
  apart := h.apart
  blank i d hi hlt hd hout := by
    obtain rfl | hi := Nat.eq_or_lt_of_le hi
    · rw [hc] at hd
      cases hd
      exact hblank
    · exact h.blank i d hi hlt hd hout

/-- A tile in front of the others. -/
theorem cons {tile : Tile} (hcut : tile.IsCut source) (h : Tiling source tile.stop stop tiles) :
    Tiling source tile.start stop (tile :: tiles) where
  le := (Nat.le_add_right _ _).trans h.le
  cut := List.forall_mem_cons.mpr ⟨hcut, h.cut⟩
  within := by
    refine List.forall_mem_cons.mpr ⟨⟨Nat.le_refl _, h.le⟩, fun later hlater => ?_⟩
    exact ⟨(Nat.le_add_right _ _).trans (h.within later hlater).1, (h.within later hlater).2⟩
  apart := List.pairwise_cons.mpr ⟨fun later hlater => (h.within later hlater).1, h.apart⟩
  blank i c hi hlt hc hout := by
    obtain ⟨hfirst, hout⟩ := List.forall_mem_cons.mp hout
    obtain hbefore | hbehind := hfirst
    · omega
    · exact h.blank i c hbehind hlt hc hout

/-- Tiles begin one behind the other. -/
theorem pairwise_start (h : Tiling source start stop tiles) :
    tiles.Pairwise fun tile later => tile.start < later.start := by
  refine h.apart.imp_of_mem fun {tile later} htile _ hle => ?_
  obtain ⟨c, cs, htext, -⟩ := (h.cut tile htile).spelled.exists_cons
  have hstop : tile.stop = tile.start + (cs.length + 1) := by
    rw [Tile.stop, htext, List.length_cons]
  omega

end Tiling

/-! ## Lexing -/

/-- Lexing ends behind the tiles: there is nothing more, or from the character that stands there,
which is not white space, no token can be cut off. -/
inductive LexEnds (source : List Char) (tiles : List Tile) (stop : Nat) :
    Except Error (List Lexeme) → Prop where
  | all (hstop : stop = source.length) : LexEnds source tiles stop (.ok (tiles.map (·.lexeme)))
  | unexpected {c : Char} (hc : source[stop]? = some c) (hblank : isBlank c = false)
      (hquote : ¬ (c = '\'' ∨ c = '"'))
      (hnone : ∀ (t : Token) (text : List Char), t.Spells text → ¬ text <+: source.drop stop) :
      LexEnds source tiles stop (.error (.unexpectedChar c stop))
  | unterminated {quote : Char} (hc : source[stop]? = some quote)
      (hquote : quote = '\'' ∨ quote = '"') (hopen : quote ∉ source.drop (stop + 1)) :
      LexEnds source tiles stop (.error (.unterminatedLiteral stop))

/-- A token in front of those that lexing found. -/
theorem LexEnds.cons {source : List Char} {tiles : List Tile} {stop : Nat}
    {result : Except Error (List Lexeme)} (h : LexEnds source tiles stop result) (tile : Tile) :
    LexEnds source (tile :: tiles) stop (result.map (tile.lexeme :: ·)) := by
  cases h with
  | all hstop => exact .all hstop
  | unexpected hc hblank hquote hnone => exact .unexpected hc hblank hquote hnone
  | unterminated hc hquote hopen => exact .unterminated hc hquote hopen

theorem getElem?_of_drop {source : List Char} {position : Nat} {c : Char} {rest : List Char}
    (h : source.drop position = c :: rest) : source[position]? = some c := by
  rw [← List.head?_drop, h, List.head?_cons]

/-- What is cut off at a place of the source is the text of a tile. -/
theorem Tile.exists_of_takeFrom {source : List Char} {position : Nat} {c : Char}
    {rest after : List Char} {t : Token} (hdrop : source.drop position = c :: rest)
    (htake : Token.takeFrom c rest = .ok (t, after)) :
    ∃ tile : Tile, tile.lexeme = ⟨t, position⟩ ∧ tile.IsCut source ∧
      tile.stop = position + ((c :: rest).length - after.length) ∧ tile.stop ≤ source.length ∧
      source.drop tile.stop = after := by
  obtain ⟨text, htext, hspells⟩ := Token.spells_of_takeFrom htake
  have hlength : text.length = (c :: rest).length - after.length := by
    rw [htext, List.length_append, Nat.add_sub_cancel]
  refine ⟨⟨⟨t, position⟩, text⟩, rfl, ⟨hspells, ?_, ?_⟩, congrArg (position + ·) hlength, ?_, ?_⟩
  · show (source.drop position).take (position + text.length - position) = text
    rw [Nat.add_sub_cancel_left, hdrop, htext, List.take_left]
  · rintro t' text' hspells' ⟨more, hmore⟩
    show text'.length ≤ text.length
    obtain ⟨d, cs, rfl, -⟩ := hspells'.exists_cons
    obtain ⟨rfl, hrest⟩ := List.cons.inj (hmore.trans hdrop)
    obtain ⟨_, _, htake', hle⟩ := Token.takeFrom_of_spells hspells' more
    rw [← List.append_eq, hrest, htake] at htake'
    cases htake'
    -- Both texts stand at the front of the same characters, with `more` and `after` behind them.
    have hlengths := congrArg List.length ((hmore.trans hdrop).trans htext)
    rw [List.length_append, List.length_append] at hlengths
    omega
  · show position + text.length ≤ source.length
    have hsource := congrArg List.length hdrop
    rw [List.length_drop, List.length_cons] at hsource
    rw [List.length_cons] at hlength
    omega
  · show source.drop (position + text.length) = after
    rw [← List.drop_drop, hdrop, htext, List.drop_left]

/-- A step of lexing that cuts a token off puts a tile in front of those of the characters behind
it. -/
theorem exists_tiling_cons {source : List Char} {position : Nat} {c : Char}
    {rest after : List Char} {t : Token} {result : Except Error (List Lexeme)}
    (hdrop : source.drop position = c :: rest) (htake : Token.takeFrom c rest = .ok (t, after))
    (ih : position + ((c :: rest).length - after.length) ≤ source.length →
      source.drop (position + ((c :: rest).length - after.length)) = after →
      ∃ tiles stop, Tiling source (position + ((c :: rest).length - after.length)) stop tiles ∧
        LexEnds source tiles stop result) :
    ∃ tiles stop, Tiling source position stop tiles ∧
      LexEnds source tiles stop (result.map (⟨t, position⟩ :: ·)) := by
  obtain ⟨tile, hlexeme, hcut, hstop, hle, hafter⟩ := Tile.exists_of_takeFrom hdrop htake
  rw [← hstop] at ih
  obtain ⟨tiles, stop, htiling, hends⟩ := ih hle hafter
  have hstart : tile.start = position := congrArg Lexeme.position hlexeme
  exact ⟨tile :: tiles, stop, hstart ▸ htiling.cons hcut, hlexeme ▸ hends.cons tile⟩

/-- **Lexing tiles the characters** from where it starts to where it ends. -/
theorem lexFrom_tiling {source : List Char} {position : Nat} {cs : List Char}
    (hle : position ≤ source.length) (hdrop : source.drop position = cs) :
    ∃ tiles stop, Tiling source position stop tiles ∧
      LexEnds source tiles stop (lexFrom position cs) := by
  fun_induction lexFrom position cs with
  | case1 position =>
    exact ⟨[], position, .nil source position,
      .all (Nat.le_antisymm hle (List.drop_eq_nil_iff.mp hdrop))⟩
  | case2 position c rest hblank ih =>
    have hc := getElem?_of_drop hdrop
    have hlt : position + 1 ≤ source.length := (List.getElem?_eq_some_iff.mp hc).1
    obtain ⟨tiles, stop, htiling, hends⟩ := ih hlt (by rw [← List.drop_drop, hdrop]; rfl)
    exact ⟨tiles, stop, htiling.skip hc hblank, hends⟩
  | case3 position c rest hblank hfault =>
    refine ⟨[], position, .nil source position, .unexpected (getElem?_of_drop hdrop)
      (Bool.eq_false_iff.mpr hblank) (Token.not_quote_of_startsNone hfault) ?_⟩
    rw [hdrop]
    exact fun t text => Token.not_spells_of_takeFrom hfault
  | case4 position c rest hblank hfault =>
    obtain ⟨hquote, hopen⟩ := Token.quote_of_openQuote hfault
    refine ⟨[], position, .nil source position, .unterminated (getElem?_of_drop hdrop) hquote ?_⟩
    rw [← List.drop_drop, hdrop]
    exact hopen
  | case5 position c rest hblank token after htake e hmore ih =>
    rw [hmore] at ih
    exact exists_tiling_cons hdrop htake ih
  | case6 position c rest hblank token after htake more hmore ih =>
    rw [hmore] at ih
    exact exists_tiling_cons hdrop htake ih

/-! ## Written tokens -/

/-- The characters are texts of the tokens, one after the other, with white space behind each of
them unless it is the last, and wherever else. -/
inductive Written : List Token → List Char → Prop where
  | nil : Written [] []
  | blank {ts : List Token} {c : Char} {cs : List Char} (hblank : isBlank c = true)
      (h : Written ts cs) : Written ts (c :: cs)
  | token {t : Token} {ts : List Token} {text cs : List Char} (htext : t.Spells text)
      (hcs : IsDelimited cs) (h : Written ts cs) : Written (t :: ts) (text ++ cs)

theorem lexFrom_cons {c : Char} {rest after : List Char} {t : Token} (hblank : isBlank c = false)
    (htake : Token.takeFrom c rest = .ok (t, after)) (position : Nat) :
    lexFrom position (c :: rest) =
      (lexFrom (position + ((c :: rest).length - after.length)) after).map
        (⟨t, position⟩ :: ·) := by
  have hfirst : ¬ isBlank c = true := by simp [hblank]
  rw [lexFrom, if_neg hfirst]
  split
  · next hfault =>
    rw [htake] at hfault
    cases hfault
  · next hfault =>
    rw [htake] at hfault
    cases hfault
  · next htoken =>
    rw [htake] at htoken
    cases htoken
    cases lexFrom (position + ((c :: rest).length - after.length)) after <;> rfl

/-- **Written tokens are read back.** -/
theorem lexFrom_of_written {ts : List Token} {cs : List Char} (h : Written ts cs)
    (position : Nat) : ∃ lexemes, lexFrom position cs = .ok lexemes ∧ tokens lexemes = ts := by
  induction h generalizing position with
  | nil => exact ⟨[], by rw [lexFrom], rfl⟩
  | blank hblank _ ih =>
    rw [lexFrom, if_pos hblank]
    exact ih (position + 1)
  | @token t ts text cs htext hcs _ ih =>
    obtain ⟨c, rest, rfl, hblank⟩ := htext.exists_cons
    have htake := Token.takeFrom_spelled htext hcs
    obtain ⟨lexemes, hlexemes, htokens⟩ :=
      ih (position + ((c :: (rest ++ cs)).length - cs.length))
    refine ⟨⟨t, position⟩ :: lexemes, ?_, ?_⟩
    · rw [List.cons_append, lexFrom_cons hblank htake, hlexemes]
      rfl
    · rw [← htokens]
      rfl

/-- **Lexing tiles an expression** with the longest texts of tokens and white space between them. If
it fails, the characters before the reported position are tiled so, and from there on is no text of
a token, or a quote that is never closed. Every list of tokens is read back from texts of them. -/
theorem lex_tiling :
    (∀ (source : String) (lexemes : List Lexeme), lex source = .ok lexemes →
      (lexemes.map (·.position)).Pairwise (· < ·) ∧
      ∃ tiles, Tiling source.toList 0 source.toList.length tiles ∧
        tiles.map (·.lexeme) = lexemes) ∧
    (∀ (source : String) (e : Error), lex source = .error e →
      ∃ tiles stop c, Tiling source.toList 0 stop tiles ∧ source.toList[stop]? = some c ∧
        isBlank c = false ∧
        (e = .unexpectedChar c stop ∧ ¬ (c = '\'' ∨ c = '"') ∧
            (∀ (t : Token) (text : List Char), t.Spells text →
              ¬ text <+: source.toList.drop stop) ∨
          e = .unterminatedLiteral stop ∧ (c = '\'' ∨ c = '"') ∧
            c ∉ source.toList.drop (stop + 1))) ∧
    ∀ (source : String) (ts : List Token), Written ts source.toList →
      ∃ lexemes, lex source = .ok lexemes ∧ tokens lexemes = ts := by
  have hlex (source : String) := @lexFrom_tiling source.toList 0 _ (Nat.zero_le _) List.drop_zero
  refine ⟨?_, ?_, ?_⟩
  · intro source lexemes h
    obtain ⟨tiles, stop, htiling, hends⟩ := hlex source
    rw [← lex, h] at hends
    cases hends with
    | all hstop =>
      subst hstop
      refine ⟨?_, tiles, htiling, rfl⟩
      rw [List.map_map, List.pairwise_map]
      exact htiling.pairwise_start
  · intro source e h
    obtain ⟨tiles, stop, htiling, hends⟩ := hlex source
    rw [← lex, h] at hends
    cases hends with
    | @unexpected c hc hblank hquote hnone =>
      exact ⟨tiles, stop, c, htiling, hc, hblank, .inl ⟨rfl, hquote, hnone⟩⟩
    | @unterminated quote hc hquote hopen =>
      refine ⟨tiles, stop, quote, htiling, hc, ?_, .inr ⟨rfl, hquote, hopen⟩⟩
      rcases hquote with rfl | rfl <;> decide
  · intro source ts h
    exact lexFrom_of_written h 0

theorem lex_tiling_paths :
    (∃ tiles, Tiling "a-b//..".toList 0 7 tiles ∧ tiles.map (·.lexeme) =
      [⟨.name "a-b", 0⟩, ⟨.doubleSlash, 3⟩, ⟨.doubleDot, 5⟩]) ∧
    (∃ tiles, Tiling "a =\"b'".toList 0 3 tiles ∧ '"' ∉ "a =\"b'".toList.drop 4) ∧
    ∃ lexemes, lex "a >= \"'\"" = .ok lexemes ∧
      tokens lexemes = [.name "a", .greaterEqual, .literal "'"] := by
  refine ⟨?_, ?_, ?_⟩
  · have hpath : lex "a-b//.." = .ok [⟨.name "a-b", 0⟩, ⟨.doubleSlash, 3⟩, ⟨.doubleDot, 5⟩] := by
      decide +kernel
    exact (lex_tiling.1 _ _ hpath).2
  · have hopen : lex "a =\"b'" = .error (.unterminatedLiteral 3) := by decide +kernel
    obtain ⟨tiles, stop, c, htiling, hc, -, hfault⟩ := lex_tiling.2.1 _ _ hopen
    obtain ⟨hother, -⟩ | ⟨hstop, -, hnot⟩ := hfault
    · cases hother
    · cases hstop
      cases hc
      exact ⟨tiles, htiling, hnot⟩
  · have hliteral : Written [.literal "'"] ['"', '\'', '"'] :=
      .token (@Token.Spells.literal '"' ['\''] (.inr rfl) (by decide)) nofun .nil
    have hoperator : Written [.greaterEqual, .literal "'"] ['>', '=', ' ', '"', '\'', '"'] :=
      .token (.symbol (t := .greaterEqual) (by decide)) (isDelimited_cons (by decide) _)
        (.blank (by decide) hliteral)
    have hname : Written [.name "a", .greaterEqual, .literal "'"]
        ['a', ' ', '>', '=', ' ', '"', '\'', '"'] :=
      .token (@Token.Spells.name ['a'] (by decide)) (isDelimited_cons (by decide) _)
        (.blank (by decide) hoperator)
    exact lex_tiling.2.2 "a >= \"'\"" _ hname

end Almanac.Selector
