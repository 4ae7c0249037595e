import Almanac.Datetime.Compaction
import Almanac.Proofs.Text.Splitting

/-!
# The layout of values and formats

Compaction trims a text, collapses its white space and then splits and joins it at dots and
at dashes. One pass over the characters does the same (`layout_eq`): `layoutFrom` remembers
whether white space came before the next character and whether the character in front of it
takes any. Trimming around a separator makes the separator tight and changes nothing else
(`stripSides_layoutFrom`), so the order of the steps does not matter.

Range macros come last. The macro that counts is the one behind which none is left
(`splitMacro?_rangeMacro`); a text without a percent sign has none
(`compactChars_of_not_percent`).
-/

namespace Almanac.Datetime

open Almanac.Text

/-- The characters with one space for a run of white space, but none beside tight
characters and at the ends: `glued` says that none goes before the next character, `gap`
that there was white space before it. -/
def layoutFrom (tight : Char → Bool) (glued gap : Bool) : List Char → List Char
  | [] => []
  | c :: cs =>
    if isBlank c then layoutFrom tight glued true cs
    else
      (if gap && !glued && !tight c then [' '] else []) ++ c :: layoutFrom tight (tight c) false cs

variable {tight : Char → Bool} {glued gap : Bool}

theorem layoutFrom_blank {c : Char} (hc : isBlank c = true) (cs : List Char) :
    layoutFrom tight glued gap (c :: cs) = layoutFrom tight glued true cs := by
  rw [layoutFrom, if_pos hc]

theorem layoutFrom_char {c : Char} (hc : isBlank c = false) (cs : List Char) :
    layoutFrom tight glued gap (c :: cs) =
      (if gap && !glued && !tight c then [' '] else []) ++
        c :: layoutFrom tight (tight c) false cs := by
  rw [layoutFrom, hc]
  rfl

/-- A run of white space counts as one gap. -/
theorem layoutFrom_blanks {blanks : List Char} (h : ∀ c ∈ blanks, isBlank c = true)
    (cs : List Char) :
    layoutFrom tight glued gap (blanks ++ cs) =
      layoutFrom tight glued (gap || !blanks.isEmpty) cs := by
  induction blanks generalizing gap with
  | nil => simp
  | cons c blanks ih =>
    rw [List.cons_append, layoutFrom_blank (h c List.mem_cons_self),
      ih fun d hd => h d (List.mem_cons_of_mem _ hd)]
    simp

theorem layoutFrom_eq_nil {blanks : List Char} (h : ∀ c ∈ blanks, isBlank c = true) :
    layoutFrom tight glued gap blanks = [] := by
  have hlayout := @layoutFrom_blanks tight glued gap blanks h []
  rwa [List.append_nil] at hlayout

/-- White space at the start or behind a tight character is not kept. -/
theorem layoutFrom_glued (cs : List Char) :
    layoutFrom tight true gap cs = layoutFrom tight true false cs := by
  induction cs generalizing gap with
  | nil => rfl
  | cons c cs ih =>
    cases hc : isBlank c with
    | true => rw [layoutFrom_blank hc, layoutFrom_blank hc]
    | false => simp [layoutFrom_char hc]

/-- White space before a tight character is not kept. -/
theorem layoutFrom_tight {c : Char} (hc : isBlank c = false) (htight : tight c = true)
    (cs : List Char) :
    layoutFrom tight glued gap (c :: cs) = c :: layoutFrom tight true false cs := by
  simp [layoutFrom_char hc, htight]

/-- The layout keeps a word, with a space in front of it if there is a gap. -/
theorem layoutFrom_word {word : List Char} (hne : word ≠ [])
    (h : ∀ c ∈ word, isBlank c = false ∧ tight c = false) (cs : List Char) :
    layoutFrom tight glued gap (word ++ cs) =
      (if gap && !glued then [' '] else []) ++ word ++ layoutFrom tight false false cs := by
  induction word generalizing glued gap with
  | nil => exact absurd rfl hne
  | cons c word ih =>
    obtain ⟨hblank, htight⟩ := h c List.mem_cons_self
    rw [List.cons_append, layoutFrom_char hblank, htight]
    cases word with
    | nil => simp
    | cons d word =>
      have hword : layoutFrom tight false false (d :: word ++ cs) =
          d :: word ++ layoutFrom tight false false cs := by
        rw [ih (List.cons_ne_nil _ _) fun x hx => h x (List.mem_cons_of_mem _ hx)]
        rfl
      rw [hword]
      simp

theorem layoutFrom_run {word : List Char} (h : ∀ c ∈ word, isBlank c = false)
    (cs : List Char) :
    ∃ glued', layoutFrom tight glued false (word ++ cs) =
      word ++ layoutFrom tight glued' false cs := by
  induction word generalizing glued with
  | nil => exact ⟨glued, rfl⟩
  | cons c word ih =>
    obtain ⟨hc, hword⟩ := List.forall_mem_cons.mp h
    obtain ⟨glued', hrest⟩ := @ih (tight c) hword
    refine ⟨glued', ?_⟩
    rw [List.cons_append, layoutFrom_char hc, hrest]
    rfl

/-- The layout keeps what has no white space in it, tight characters included. -/
theorem layoutFrom_solid {word : List Char} (hne : word ≠ [])
    (h : ∀ c ∈ word, isBlank c = false) (cs : List Char) :
    ∃ (space : Bool) (glued' : Bool), layoutFrom tight glued gap (word ++ cs) =
      (if space then [' '] else []) ++ word ++ layoutFrom tight glued' false cs := by
  obtain ⟨c, word, rfl⟩ := List.ne_nil_iff_exists_cons.mp hne
  obtain ⟨hc, hword⟩ := List.forall_mem_cons.mp h
  obtain ⟨glued', hrest⟩ := @layoutFrom_run tight (tight c) word hword cs
  refine ⟨gap && !glued && !tight c, glued', ?_⟩
  rw [List.cons_append, layoutFrom_char hc, hrest, List.append_assoc]
  rfl

/-- The layout adds no characters but spaces. -/
theorem mem_of_mem_layoutFrom {c : Char} {cs : List Char} (h : c ∈ layoutFrom tight glued gap cs) :
    c ∈ cs ∨ c = ' ' := by
  induction cs generalizing glued gap with
  | nil => cases h
  | cons d cs ih =>
    cases hd : isBlank d with
    | true =>
      rw [layoutFrom_blank hd] at h
      exact (ih h).imp_left (List.mem_cons_of_mem _)
    | false =>
      rw [layoutFrom_char hd, List.mem_append, List.mem_cons] at h
      rcases h with h | rfl | h
      · refine .inr ?_
        split at h
        · exact List.mem_singleton.mp h
        · cases h
      · exact .inl List.mem_cons_self
      · exact (ih h).imp_left (List.mem_cons_of_mem _)

/-- No white space is left at the end. -/
theorem not_isBlank_getLast?_layoutFrom {c : Char} {cs : List Char}
    (h : c ∈ (layoutFrom tight glued gap cs).getLast?) : isBlank c = false := by
  induction cs generalizing glued gap with
  | nil => cases h
  | cons d cs ih =>
    cases hd : isBlank d with
    | true =>
      rw [layoutFrom_blank hd] at h
      exact ih h
    | false =>
      rw [layoutFrom_char hd, List.getLast?_append_cons] at h
      cases hrest : layoutFrom tight (tight d) false cs with
      | nil =>
        rw [hrest] at h
        obtain rfl : d = c := Option.some.inj h
        exact hd
      | cons e rest =>
        rw [hrest, List.getLast?_cons_cons, ← hrest] at h
        exact ih h

/-! ## Collapsing and trimming -/

theorem layoutFrom_dropBlank (cs : List Char) :
    layoutFrom tight glued true (dropBlank cs) = layoutFrom tight glued true cs := by
  induction cs with
  | nil => rfl
  | cons c cs ih =>
    cases hc : isBlank c with
    | true =>
      have hdrop : dropBlank (c :: cs) = dropBlank cs := by simp [dropBlank, hc]
      rw [hdrop, ih, layoutFrom_blank hc]
    | false =>
      have hdrop : dropBlank (c :: cs) = c :: cs := by simp [dropBlank, hc]
      rw [hdrop]

/-- A text is white space only, or it has a first character that is not white space. -/
theorem exists_first (cs : List Char) :
    (∀ c ∈ cs, isBlank c = true) ∨
      ∃ blanks c rest, cs = blanks ++ c :: rest ∧ (∀ b ∈ blanks, isBlank b = true) ∧
        isBlank c = false := by
  induction cs with
  | nil => exact .inl nofun
  | cons d cs ih =>
    cases hd : isBlank d with
    | false => exact .inr ⟨[], d, cs, rfl, nofun, hd⟩
    | true =>
      rcases ih with hall | ⟨blanks, c, rest, rfl, hblanks, hc⟩
      · exact .inl (List.forall_mem_cons.mpr ⟨hd, hall⟩)
      · exact .inr ⟨d :: blanks, c, rest, rfl, List.forall_mem_cons.mpr ⟨hd, hblanks⟩, hc⟩

theorem collapseChars_nil : collapseChars [] = [] := by
  rw [collapseChars.eq_def]

theorem collapseChars_char {c : Char} (hc : isBlank c = false) (cs : List Char) :
    collapseChars (c :: cs) = c :: collapseChars cs := by
  rw [collapseChars.eq_def]
  simp only [hc, Bool.false_eq_true, if_false]

theorem collapseChars_blank {c : Char} (hc : isBlank c = true) (cs : List Char) :
    collapseChars (c :: cs) = ' ' :: collapseChars (dropBlank cs) := by
  rw [collapseChars.eq_def]
  simp only [hc, if_true, dropBlank]

theorem collapseChars_dropBlankEnd (cs : List Char) :
    collapseChars (dropBlankEnd cs) = layoutFrom (fun _ => false) false false cs := by
  induction hn : cs.length using Nat.strongRecOn generalizing cs with
  | ind n ih =>
    subst hn
    rcases exists_first cs with hall | ⟨blanks, c, rest, rfl, hblanks, hc⟩
    · rw [dropBlankEnd_eq_nil hall, layoutFrom_eq_nil hall, collapseChars_nil]
    · have hrest := ih rest.length (by simp; omega) rest rfl
      rw [dropBlankEnd_glue hc, layoutFrom_blanks hblanks, layoutFrom_char hc]
      cases blanks with
      | nil =>
        rw [List.nil_append, collapseChars_char hc, hrest]
        rfl
      | cons b blanks =>
        obtain ⟨hb, hblanks⟩ := List.forall_mem_cons.mp hblanks
        rw [List.cons_append, collapseChars_blank hb, dropBlank_glue hc, dropBlank_eq_nil hblanks,
          List.nil_append, collapseChars_char hc, hrest]
        rfl

/-- Collapsing after trimming is the layout without tight characters. -/
theorem collapseChars_trimChars (cs : List Char) :
    collapseChars (trimChars cs) = layoutFrom (fun _ => false) true false cs := by
  have hlayout : layoutFrom (fun _ => false) true false cs =
      layoutFrom (fun _ => false) true false (dropBlank cs) := by
    rw [← layoutFrom_glued, ← layoutFrom_dropBlank, layoutFrom_glued]
  rw [trimChars, collapseChars_dropBlankEnd, hlayout]
  rcases exists_first cs with hall | ⟨blanks, c, rest, rfl, hblanks, hc⟩
  · rw [dropBlank_eq_nil hall]
    rfl
  · rw [dropBlank_glue hc, dropBlank_eq_nil hblanks, List.nil_append, layoutFrom_char hc,
      layoutFrom_char hc]
    rfl

/-! ## Tight separators -/

theorem isBlank_of_mem_gap (space : Bool) :
    ∀ c ∈ if space then [' '] else [], isBlank c = true := by
  refine List.all_eq_true.mp ?_
  cases space <;> decide

theorem not_mem_gap {c : Char} (hc : isBlank c = false) (space : Bool) :
    c ∉ if space then [' '] else [] := by
  intro hmem
  rw [isBlank_of_mem_gap space c hmem] at hc
  cases hc

theorem trimSides_gap (left right space : Bool) :
    trimSides left right (if space then [' '] else []) =
      if space && !left && !right then [' '] else [] := by
  cases left <;> cases right <;> cases space <;> decide

/-- The parts between the occurrences of a character are trimmed exactly when the character
becomes tight. -/
theorem stripSides_layoutFrom {c : Char} (hc : isBlank c = false) (left right : Bool)
    (cs : List Char) :
    stripSides [c] left right (layoutFrom tight glued gap cs) =
      layoutFrom (fun d => tight d || d == c) (glued || left) gap cs := by
  have hs : [c] ≠ [] := List.cons_ne_nil _ _
  induction cs generalizing glued gap left with
  | nil =>
    have hnone : splitFirst [c] [] = none := rfl
    rw [layoutFrom, layoutFrom, stripSides_of_none left right hnone]
    cases left <;> cases right <;> rfl
  | cons d cs ih =>
    cases hd : isBlank d with
    | true => rw [layoutFrom_blank hd, layoutFrom_blank hd, ih]
    | false =>
      rw [layoutFrom_char hd, layoutFrom_char hd]
      generalize hspace : (gap && !glued && !tight d) = space
      by_cases heq : d = c
      · subst heq
        have hsplit : splitFirst [d] ((if space then [' '] else []) ++
            ([d] ++ layoutFrom tight (tight d) false cs)) =
            some (if space then [' '] else [], layoutFrom tight (tight d) false cs) :=
          splitFirst_append_piece (not_mem_gap hd space) _
        rw [List.singleton_append] at hsplit
        rw [stripSides_of_some hs left right hsplit, trimSides_gap, ih]
        simp
      · have hmem : d ∉ [c] := by simpa using heq
        have hfalse : (d == c) = false := beq_false_of_ne heq
        have hgap : splitFirst [c] (if space then [' '] else []) = none :=
          splitFirst_eq_none_iff.mpr (occurs_eq_false List.mem_cons_self (not_mem_gap hc space))
        rw [stripSides_glue hmem hd hs, ih, stripSides_of_none left false hgap, trimSides_gap,
          hfalse, ← hspace]
        cases left <;> simp

/-- Stripping around a separator that occurs strips it on all sides. -/
theorem stripAround_of_occurs {separator cs : List Char} (hs : separator ≠ [])
    (h : occurs separator cs = true) :
    stripAround separator cs = stripSides separator true true cs := by
  rw [stripAround, List.isEmpty_eq_false_iff.mpr hs, h]
  exact (stripSides_outer hs cs).symm

/-- Stripping around a character makes it tight. -/
theorem stripAround_layoutFrom {c : Char} (hc : isBlank c = false) (cs : List Char) :
    stripAround [c] (layoutFrom tight true false cs) =
      layoutFrom (fun d => tight d || d == c) true false cs := by
  have hs : [c] ≠ [] := List.cons_ne_nil _ _
  cases hoccurs : occurs [c] (layoutFrom tight true false cs) with
  | false =>
    have hkeep := stripSides_inner_of_not_occurs hoccurs
    rw [stripSides_layoutFrom hc] at hkeep
    rw [stripAround, hoccurs]
    exact hkeep.symm
  | true => exact (stripAround_of_occurs hs hoccurs).trans (stripSides_layoutFrom hc true true cs)

/-! ## Texts without range macros -/

/-- Whether white space beside a character is dropped. -/
def isTight (c : Char) : Bool := c == '.' || c == '-'

/-- The layout of a text in which range macros are not looked for. -/
def layout (cs : List Char) : List Char := layoutFrom isTight true false cs

/-- Trimming, collapsing and stripping around dots and dashes is one layout. -/
theorem layout_eq (cs : List Char) :
    stripAround ['-'] (stripAround ['.'] (collapseChars (trimChars cs))) = layout cs := by
  have hdot : isBlank '.' = false := by decide
  have hdash : isBlank '-' = false := by decide
  rw [collapseChars_trimChars, stripAround_layoutFrom hdot, stripAround_layoutFrom hdash]
  rfl

/-- With a range macro compaction strips the space around the delimiter and the macro too. -/
theorem compactChars_of_some {cs : List Char} {parts : RangeParts}
    (h : splitMacro? (layout cs) = some parts) :
    compactChars cs =
      stripAround (rangeMacro (trimChars parts.delimiter))
        (stripAround (trimChars parts.delimiter) (layout cs)) := by
  rw [compactChars, layout_eq, h]

/-! ## Range macros -/

theorem findMacro?_eq_none {cs : List Char} (h : occurs macroOpening cs = false) :
    findMacro? cs = none := by
  induction cs with
  | nil => rfl
  | cons c cs ih =>
    rw [occurs, Bool.or_eq_false_iff] at h
    rw [findMacro?, ih h.2]
    dsimp only
    rw [h.1]
    rfl

theorem findMacro?_append {cs : List Char} {parts : RangeParts}
    (h : findMacro? cs = some parts) (front : List Char) :
    findMacro? (front ++ cs) = some { parts with start := front ++ parts.start } := by
  induction front with
  | nil => exact h
  | cons c front ih => rw [List.cons_append, findMacro?, ih]; rfl

/-- The parts around a range macro and the macro make up the text. -/
theorem eq_append_of_findMacro? {cs : List Char} {parts : RangeParts}
    (h : findMacro? cs = some parts) :
    cs = parts.start ++ (rangeMacro parts.delimiter ++ parts.finish) := by
  induction cs generalizing parts with
  | nil => cases h
  | cons c cs ih =>
    rw [findMacro?] at h
    split at h
    · next found hfound =>
      cases h
      rw [List.cons_append, ← ih hfound]
    · split at h
      · next hprefix =>
        obtain ⟨⟨delimiter, finish⟩, hsplit, rfl⟩ := Option.map_eq_some_iff.mp h
        rw [eq_append_drop_of_isPrefixOf hprefix, eq_append_of_splitLast hsplit, rangeMacro]
        simp only [List.append_assoc, List.nil_append]
      · cases h

theorem eq_append_of_splitMacro? {cs : List Char} {parts : RangeParts}
    (h : splitMacro? cs = some parts) :
    cs = parts.start ++ (rangeMacro parts.delimiter ++ parts.finish) := by
  rw [splitMacro?] at h
  split at h
  · cases h
  · exact eq_append_of_findMacro? h

/-- A range macro is found between two texts when the one behind it holds none. -/
theorem splitMacro?_rangeMacro {front delimiter back : List Char} (hfront : '\n' ∉ front)
    (hdelimiter : '\n' ∉ delimiter ∧ '%' ∉ delimiter) (hline : '\n' ∉ back)
    (hclosing : '\x7d' ∉ back) (hback : occurs macroOpening back = false) :
    splitMacro? (front ++ rangeMacro delimiter ++ back) = some ⟨front, delimiter, back⟩ := by
  have hsign : rangeMacro delimiter ++ back =
      '%' :: (['r', 'a', 'n', 'g', 'e', '\x7b'] ++ delimiter ++ ['\x7d'] ++ back) := by
    simp [rangeMacro, macroOpening]
  have hbehind : '%' ∉ ['r', 'a', 'n', 'g', 'e', '\x7b'] ++ delimiter ++ ['\x7d'] := by
    simp [hdelimiter.2]
  have hlater : findMacro? (['r', 'a', 'n', 'g', 'e', '\x7b'] ++ delimiter ++ ['\x7d'] ++ back) =
      none := by
    refine findMacro?_eq_none ?_
    rw [macroOpening, occurs_append hbehind]
    exact hback
  have hends : splitLast ['\x7d'] (delimiter ++ (['\x7d'] ++ back)) = some (delimiter, back) :=
    splitLast_append_piece (List.cons_ne_nil _ _) (by simpa using hclosing) delimiter
  have hfound : findMacro? (rangeMacro delimiter ++ back) = some ⟨[], delimiter, back⟩ := by
    have hprefix : macroOpening.isPrefixOf (rangeMacro delimiter ++ back) = true := by
      rw [rangeMacro, List.append_assoc, List.append_assoc]
      exact isPrefixOf_append_self _ _
    have hdrop : (rangeMacro delimiter ++ back).drop macroOpening.length =
        delimiter ++ (['\x7d'] ++ back) := by
      rw [rangeMacro, List.append_assoc, List.append_assoc, List.drop_left]
    rw [hsign] at hprefix hdrop ⊢
    rw [findMacro?, hlater]
    dsimp only
    rw [if_pos hprefix, hdrop, hends]
    rfl
  have hcontains : (front ++ rangeMacro delimiter ++ back).contains '\n' = false := by
    rw [← Bool.not_eq_true, List.contains_iff_mem]
    simp [rangeMacro, macroOpening, hfront, hdelimiter.1, hline]
  rw [splitMacro?, hcontains, List.append_assoc, findMacro?_append hfound]
  simp

/-- Without a range macro compaction is the layout. -/
theorem compactChars_of_none {cs : List Char} (h : splitMacro? (layout cs) = none) :
    compactChars cs = layout cs := by
  rw [compactChars, layout_eq, h]

theorem compactChars_of_not_percent {cs : List Char} (h : '%' ∉ layout cs) :
    compactChars cs = layout cs := by
  have hsign : findMacro? (layout cs) = none :=
    findMacro?_eq_none (occurs_eq_false List.mem_cons_self h)
  refine compactChars_of_none ?_
  rw [splitMacro?, hsign, ite_self]

end Almanac.Datetime
