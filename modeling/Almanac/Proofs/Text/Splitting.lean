import Mathlib.Data.List.DropRight
import Almanac.Text.Blank
import Almanac.Text.Search

/-!
# Splitting and trimming

Where the occurrences of a piece lie in a text that is put together from parts. A character
that the piece does not hold keeps occurrences apart: they lie on one side of it
(`splitFirst_glue`), so the parts between them, trimmed and joined again, can be worked out
on each side alone (`stripSides_glue`). Joined again as they are, the parts make up the text
(`intercalate_splitAll`).
-/

namespace Almanac.Text

/-! ## Occurrences -/

theorem isPrefixOf_append_self (piece cs : List Char) : piece.isPrefixOf (piece ++ cs) = true :=
  List.isPrefixOf_iff_prefix.mpr (List.prefix_append piece cs)

/-- A piece occurs where the text can be split at it. -/
theorem occurs_eq_isSome (piece cs : List Char) :
    occurs piece cs = (splitFirst piece cs).isSome := by
  induction cs with
  | nil =>
    rw [occurs, splitFirst]
    cases piece.isEmpty <;> rfl
  | cons c cs ih =>
    rw [occurs, splitFirst, ih]
    cases piece.isPrefixOf (c :: cs) with
    | true => rfl
    | false => simp

theorem splitFirst_eq_none_iff {piece cs : List Char} :
    splitFirst piece cs = none ↔ occurs piece cs = false := by
  rw [occurs_eq_isSome, Option.isSome_eq_false_iff, Option.isNone_iff_eq_none]

/-- Nothing of a piece is found in front of its first occurrence. -/
theorem occurs_eq_false_of_splitFirst {piece cs before after : List Char} (hne : piece ≠ [])
    (h : splitFirst piece cs = some (before, after)) : occurs piece before = false := by
  induction cs generalizing before with
  | nil =>
    rw [splitFirst, List.isEmpty_eq_false_iff.mpr hne] at h
    cases h
  | cons c cs ih =>
    rw [splitFirst] at h
    by_cases hbegins : piece.isPrefixOf (c :: cs) = true
    · rw [if_pos hbegins] at h
      cases h
      exact List.isEmpty_eq_false_iff.mpr hne
    · rw [if_neg hbegins] at h
      obtain ⟨⟨before', after'⟩, hrest, hparts⟩ := Option.map_eq_some_iff.mp h
      cases hparts
      have hcs := eq_append_of_splitFirst hrest
      have hshorter : ¬ piece.isPrefixOf (c :: before') = true := by
        rw [List.isPrefixOf_iff_prefix] at hbegins ⊢
        intro hpre
        refine hbegins (hpre.trans ?_)
        rw [hcs, List.append_assoc]
        exact List.prefix_append (c :: before') _
      rw [occurs, Bool.not_eq_true _ |>.mp hshorter, ih hrest]
      rfl

/-- A piece that holds a character that the text does not hold does not occur in it. -/
theorem occurs_eq_false {piece cs : List Char} {c : Char} (hc : c ∈ piece) (h : c ∉ cs) :
    occurs piece cs = false := by
  induction cs with
  | nil =>
    rw [occurs, List.isEmpty_eq_false_iff]
    exact List.ne_nil_of_mem hc
  | cons d cs ih =>
    have hprefix : piece.isPrefixOf (d :: cs) = false := by
      rw [← Bool.not_eq_true, List.isPrefixOf_iff_prefix]
      exact fun hpre => h (hpre.subset hc)
    rw [occurs, hprefix, ih fun hmem => h (List.mem_cons_of_mem _ hmem)]
    rfl

theorem occurs_self_append (front piece back : List Char) :
    occurs piece (front ++ (piece ++ back)) = true := by
  induction front with
  | nil =>
    have hprefix := isPrefixOf_append_self piece back
    rw [List.nil_append]
    cases hcs : piece ++ back with
    | nil => exact List.isEmpty_iff.mpr (List.append_eq_nil_iff.mp hcs).1
    | cons c cs => rw [occurs, ← hcs, hprefix]; rfl
  | cons c front ih => rw [List.cons_append, occurs, ih, Bool.or_true]

theorem splitFirst_self {piece : List Char} (h : piece ≠ []) (cs : List Char) :
    splitFirst piece (piece ++ cs) = some ([], cs) := by
  obtain ⟨c, rest, rfl⟩ := List.ne_nil_iff_exists_cons.mp h
  have hprefix := isPrefixOf_append_self (c :: rest) cs
  rw [List.cons_append] at hprefix ⊢
  rw [splitFirst, if_pos hprefix, ← List.cons_append, List.drop_left]

/-- The first character of a piece has to be found before the piece. -/
theorem splitFirst_append {c : Char} {piece front : List Char} (h : c ∉ front) (back : List Char) :
    splitFirst (c :: piece) (front ++ back) =
      (splitFirst (c :: piece) back).map fun parts => (front ++ parts.1, parts.2) := by
  induction front with
  | nil => simp
  | cons d front ih =>
    have hne : (c == d) = false := beq_false_of_ne (List.ne_of_not_mem_cons h)
    rw [List.cons_append, splitFirst, List.isPrefixOf_cons_cons, hne,
      ih (List.not_mem_of_not_mem_cons h), Option.map_map]
    rfl

theorem occurs_append {c : Char} {piece front : List Char} (h : c ∉ front) (back : List Char) :
    occurs (c :: piece) (front ++ back) = occurs (c :: piece) back := by
  rw [occurs_eq_isSome, occurs_eq_isSome, splitFirst_append h, Option.isSome_map]

theorem splitFirst_append_piece {c : Char} {piece front : List Char} (h : c ∉ front)
    (back : List Char) :
    splitFirst (c :: piece) (front ++ (c :: piece ++ back)) = some (front, back) := by
  rw [splitFirst_append h, splitFirst_self (List.cons_ne_nil _ _), Option.map_some,
    List.append_nil]

/-- What is behind an occurrence does not matter for it. -/
theorem splitFirst_append_of_eq_some {piece cs before after : List Char}
    (h : splitFirst piece cs = some (before, after)) (hpiece : piece ≠ []) (more : List Char) :
    splitFirst piece (cs ++ more) = some (before, after ++ more) := by
  induction cs generalizing before with
  | nil =>
    rw [splitFirst, if_neg (by simpa using hpiece)] at h
    cases h
  | cons c cs ih =>
    rw [splitFirst] at h
    by_cases hprefix : piece.isPrefixOf (c :: cs) = true
    · rw [if_pos hprefix] at h
      cases h
      have hlonger : piece.isPrefixOf (c :: (cs ++ more)) = true := by
        rw [List.isPrefixOf_iff_prefix] at hprefix ⊢
        exact hprefix.trans (List.prefix_append _ _)
      have hlength := (List.isPrefixOf_iff_prefix.mp hprefix).length_le
      rw [List.cons_append, splitFirst, if_pos hlonger, ← List.cons_append,
        List.drop_append_of_le_length hlength]
    · rw [if_neg hprefix, Option.map_eq_some_iff] at h
      obtain ⟨⟨before', after'⟩, hrest, hparts⟩ := h
      cases hparts
      have hlonger : ¬ piece.isPrefixOf (c :: (cs ++ more)) = true := by
        -- the piece is no longer than the text in which it occurs later
        have hlength : piece.length ≤ (c :: cs).length := by
          have := congrArg List.length (eq_append_of_splitFirst hrest)
          simp only [List.length_append, List.length_cons] at this ⊢
          omega
        rw [List.isPrefixOf_iff_prefix] at hprefix ⊢
        exact fun hpre =>
          hprefix (List.prefix_of_prefix_length_le hpre (List.prefix_append _ _) hlength)
      rw [List.cons_append, splitFirst, if_neg hlonger, ih hrest]
      rfl

/-- An occurrence does not reach over a character that the piece does not hold. -/
theorem isPrefixOf_glue {piece front back : List Char} {b : Char} (hb : b ∉ piece)
    (h : piece.isPrefixOf (front ++ b :: back) = true) : piece.isPrefixOf front = true := by
  rw [List.isPrefixOf_iff_prefix] at h ⊢
  rcases List.prefix_or_prefix_of_prefix h (List.prefix_append front (b :: back)) with h' | h'
  · exact h'
  · obtain ⟨rest, rfl⟩ := h'
    cases rest with
    | nil => simp
    | cons d rest =>
      have hrest : d :: rest <+: b :: back := (List.prefix_append_right_inj front).mp h
      obtain rfl : d = b := (List.cons_prefix_cons.mp hrest).1
      exact absurd (List.mem_append_right _ List.mem_cons_self) hb

/-- A character that is not in a piece keeps its occurrences apart. -/
theorem splitFirst_glue {piece front : List Char} {b : Char} (hb : b ∉ piece)
    (hfront : splitFirst piece front = none) (hpiece : piece ≠ []) (back : List Char) :
    splitFirst piece (front ++ b :: back) =
      (splitFirst piece back).map fun parts => (front ++ b :: parts.1, parts.2) := by
  induction front with
  | nil =>
    have hprefix : ¬ piece.isPrefixOf (b :: back) = true := by
      intro h
      have hnil := List.isPrefixOf_iff_prefix.mp (@isPrefixOf_glue piece [] back b hb h)
      exact hpiece (List.prefix_nil.mp hnil)
    rw [List.nil_append, splitFirst, if_neg hprefix]
    rfl
  | cons c front ih =>
    rw [splitFirst] at hfront
    split at hfront
    · cases hfront
    · next hprefix =>
      have hwhole : ¬ piece.isPrefixOf (c :: (front ++ b :: back)) = true :=
        fun h => hprefix (isPrefixOf_glue hb h)
      rw [List.cons_append, splitFirst, if_neg hwhole,
        ih (Option.map_eq_none_iff.mp hfront), Option.map_map]
      rfl

/-- A piece occurs before or behind a character that is not in it, and not across it. -/
theorem occurs_glue {piece : List Char} {b : Char} (hb : b ∉ piece) (hpiece : piece ≠ [])
    (front back : List Char) :
    occurs piece (front ++ b :: back) = (occurs piece front || occurs piece back) := by
  rw [occurs_eq_isSome, occurs_eq_isSome, occurs_eq_isSome]
  cases hfront : splitFirst piece front with
  | some parts => rw [splitFirst_append_of_eq_some hfront hpiece]; rfl
  | none =>
    rw [splitFirst_glue hb hfront hpiece]
    cases splitFirst piece back <;> rfl

/-- Where a piece begins is seen by its first two characters. -/
theorem splitFirst_append_pair {c d : Char} {piece front : List Char}
    (h : occurs [c, d] (front ++ [c]) = false) (back : List Char) :
    splitFirst (c :: d :: piece) (front ++ c :: back) =
      (splitFirst (c :: d :: piece) (c :: back)).map fun parts => (front ++ parts.1, parts.2) := by
  induction front with
  | nil => simp
  | cons e front ih =>
    rw [List.cons_append, occurs, Bool.or_eq_false_iff] at h
    have hprefix : ¬ (c :: d :: piece).isPrefixOf (e :: (front ++ c :: back)) = true := by
      rw [← Bool.not_eq_true] at h
      refine fun hpre => h.1 ?_
      rw [List.isPrefixOf_cons_cons, Bool.and_eq_true] at hpre ⊢
      refine ⟨hpre.1, ?_⟩
      cases front with
      | nil =>
        rw [List.nil_append, List.isPrefixOf_cons_cons, Bool.and_eq_true] at hpre
        rw [List.nil_append, List.isPrefixOf_cons_cons, hpre.2.1]
        rfl
      | cons x front =>
        rw [List.cons_append, List.isPrefixOf_cons_cons, Bool.and_eq_true] at hpre
        rw [List.cons_append, List.isPrefixOf_cons_cons, hpre.2.1]
        rfl
    rw [List.cons_append, splitFirst, if_neg hprefix, ih h.2, Option.map_map]
    rfl

/-! ## The last occurrence -/

theorem splitLast_eq_none {piece cs : List Char} {c : Char} (hc : c ∈ piece) (h : c ∉ cs) :
    splitLast piece cs = none := by
  induction cs with
  | nil =>
    rw [splitLast, if_neg]
    rw [List.isEmpty_iff]
    exact List.ne_nil_of_mem hc
  | cons d cs ih =>
    have hprefix : ¬ piece.isPrefixOf (d :: cs) = true := by
      rw [List.isPrefixOf_iff_prefix]
      exact fun hpre => h (hpre.subset hc)
    rw [splitLast, ih fun hmem => h (List.mem_cons_of_mem _ hmem), if_neg hprefix]

/-- No occurrence begins within a piece when its last character is not in what follows. -/
theorem splitLast_short_append {piece front back : List Char} {l : Char}
    (hlast : piece.getLast? = some l) (hback : l ∉ back) (hlength : front.length < piece.length) :
    splitLast piece (front ++ back) = none := by
  induction front with
  | nil => exact splitLast_eq_none (List.mem_of_getLast? hlast) hback
  | cons d front ih =>
    have hprefix : ¬ piece.isPrefixOf (d :: (front ++ back)) = true := by
      rw [List.isPrefixOf_iff_prefix]
      intro h
      obtain ⟨rest, rfl⟩ := List.prefix_of_prefix_length_le (List.prefix_append (d :: front) back)
        h (Nat.le_of_lt hlength)
      have hrest : rest <+: back := (List.prefix_append_right_inj (d :: front)).mp h
      have hne : rest ≠ [] := by
        rintro rfl
        simp at hlength
      rw [List.getLast?_append_of_ne_nil _ hne] at hlast
      exact hback (hrest.subset (List.mem_of_getLast? hlast))
    rw [List.cons_append, splitLast, ih (Nat.lt_of_succ_lt hlength), if_neg hprefix]

/-- A piece is found last where its last character does not come again. -/
theorem splitLast_append_of_getLast? {piece back : List Char} {l : Char}
    (hlast : piece.getLast? = some l) (hback : l ∉ back) (front : List Char) :
    splitLast piece (front ++ (piece ++ back)) = some (front, back) := by
  induction front with
  | nil =>
    obtain ⟨c, rest, rfl⟩ :=
      List.ne_nil_iff_exists_cons.mp (List.ne_nil_of_mem (List.mem_of_getLast? hlast))
    have hprefix := isPrefixOf_append_self (c :: rest) back
    rw [List.nil_append]
    rw [List.cons_append] at hprefix ⊢
    rw [splitLast, splitLast_short_append hlast hback (Nat.lt_succ_self _), if_pos hprefix,
      ← List.cons_append, List.drop_left]
  | cons c front ih =>
    rw [List.cons_append, splitLast, ih]

/-- The last occurrence is found if no character of the piece is behind it. -/
theorem splitLast_append_piece {piece back : List Char} (hpiece : piece ≠ [])
    (hback : ∀ c ∈ piece, c ∉ back) (front : List Char) :
    splitLast piece (front ++ (piece ++ back)) = some (front, back) :=
  splitLast_append_of_getLast? (List.getLast?_eq_some_getLast hpiece)
    (hback _ (List.getLast_mem hpiece)) front

theorem splitLast_eq_none_iff {piece cs : List Char} :
    splitLast piece cs = none ↔ occurs piece cs = false := by
  induction cs with
  | nil =>
    rw [splitLast, occurs]
    cases piece <;> simp
  | cons c cs ih =>
    rw [splitLast, occurs, Bool.or_eq_false_iff, ← ih]
    cases splitLast piece cs with
    | some parts => simp
    | none => cases piece.isPrefixOf (c :: cs) <;> simp

/-- The parts of a split at the last occurrence and the piece between them make up the text. -/
theorem eq_append_of_splitLast {piece cs before after : List Char}
    (h : splitLast piece cs = some (before, after)) : cs = before ++ (piece ++ after) := by
  induction cs generalizing before with
  | nil =>
    rw [splitLast] at h
    split at h
    · next hempty =>
      cases h
      rw [List.isEmpty_iff.mp hempty]
      rfl
    · cases h
  | cons c cs ih =>
    rw [splitLast] at h
    split at h
    · next parts hrest =>
      cases h
      rw [List.cons_append, ← ih hrest]
    · split at h
      · next hprefix =>
        cases h
        exact eq_append_drop_of_isPrefixOf hprefix
      · cases h

/-- Behind the last occurrence of a character there is none. -/
theorem not_mem_of_splitLast {c : Char} {cs before after : List Char}
    (h : splitLast [c] cs = some (before, after)) : c ∉ after := by
  induction cs generalizing before with
  | nil => cases h
  | cons d cs ih =>
    rw [splitLast] at h
    split at h
    · next parts hrest =>
      cases h
      exact ih hrest
    · next hnone =>
      split at h
      · cases h
        intro hmem
        obtain ⟨front, back, rfl⟩ := List.append_of_mem hmem
        have hoccurs := occurs_self_append front [c] back
        rw [List.singleton_append, splitLast_eq_none_iff.mp hnone] at hoccurs
        cases hoccurs
      · cases h

theorem occurs_iff_isInfix {piece cs : List Char} : occurs piece cs = true ↔ piece <:+: cs := by
  induction cs with
  | nil => rw [occurs, List.isEmpty_iff, List.infix_nil]
  | cons c cs ih =>
    rw [occurs, Bool.or_eq_true, List.isPrefixOf_iff_prefix, ih, List.infix_cons_iff]

/-- What does not occur in a text does not occur in a part of it. -/
theorem occurs_eq_false_of_isInfix {piece part cs : List Char} (hpart : part <:+: cs)
    (h : occurs piece cs = false) : occurs piece part = false := by
  rw [← Bool.not_eq_true, occurs_iff_isInfix] at h ⊢
  exact fun hpiece => h (hpiece.trans hpart)

/-! ## Trimming -/

theorem dropBlank_glue {b : Char} (hb : isBlank b = false) (front back : List Char) :
    dropBlank (front ++ b :: back) = dropBlank front ++ b :: back := by
  induction front with
  | nil => simp [dropBlank, hb]
  | cons c front ih =>
    rw [dropBlank, List.cons_append, List.dropWhile_cons, dropBlank, List.dropWhile_cons]
    split
    · exact ih
    · rfl

theorem dropBlankEnd_glue {b : Char} (hb : isBlank b = false) (front back : List Char) :
    dropBlankEnd (front ++ b :: back) = front ++ b :: dropBlankEnd back := by
  have hreverse : (front ++ b :: back).reverse = back.reverse ++ b :: front.reverse := by simp
  rw [dropBlankEnd, hreverse, dropBlank_glue hb]
  simp [dropBlankEnd]

theorem dropBlank_eq_nil {cs : List Char} (h : ∀ c ∈ cs, isBlank c = true) : dropBlank cs = [] :=
  List.dropWhile_eq_nil_iff.mpr h

theorem dropBlankEnd_eq_nil {cs : List Char} (h : ∀ c ∈ cs, isBlank c = true) :
    dropBlankEnd cs = [] :=
  List.rdropWhile_eq_nil_iff.mpr h

/-- The characters without the white space at those ends that are named. -/
def trimSides (left right : Bool) (cs : List Char) : List Char :=
  let cs := if left then dropBlank cs else cs
  if right then dropBlankEnd cs else cs

/-- Trimming stops at a character that is not white space. -/
theorem trimSides_glue {b : Char} (hb : isBlank b = false) (left right : Bool)
    (front back : List Char) :
    trimSides left right (front ++ b :: back) =
      trimSides left false front ++ b :: trimSides false right back := by
  cases left <;> cases right <;> simp [trimSides, dropBlank_glue hb, dropBlankEnd_glue hb]

theorem dropBlank_eq_self {cs : List Char} (h : ∀ c ∈ cs, isBlank c = false) :
    dropBlank cs = cs := by
  cases cs with
  | nil => rfl
  | cons c cs =>
    rw [dropBlank, List.dropWhile_cons, h c List.mem_cons_self]
    rfl

theorem dropBlankEnd_eq_self {cs : List Char} (h : ∀ c ∈ cs, isBlank c = false) :
    dropBlankEnd cs = cs := by
  rw [dropBlankEnd, dropBlank_eq_self fun c hc => h c (List.mem_reverse.mp hc),
    List.reverse_reverse]

theorem trimSides_eq_self {cs : List Char} (h : ∀ c ∈ cs, isBlank c = false)
    (left right : Bool) : trimSides left right cs = cs := by
  cases left <;> cases right <;> simp [trimSides, dropBlank_eq_self h, dropBlankEnd_eq_self h]

/-- A text that neither begins nor ends with white space. -/
def IsTrimmed (cs : List Char) : Prop :=
  (∃ c rest, cs = c :: rest ∧ isBlank c = false) ∧ ∃ rest c, cs = rest ++ [c] ∧ isBlank c = false

/-- A text is trimmed if it has a first and a last character and both are not white space. -/
theorem isTrimmed_iff {cs : List Char} :
    IsTrimmed cs ↔ cs.head?.any (!isBlank ·) = true ∧ cs.getLast?.any (!isBlank ·) = true := by
  simp only [IsTrimmed, Option.any_eq_true, List.head?_eq_some_iff, List.getLast?_eq_some_iff,
    Bool.not_eq_true']
  grind

instance (cs : List Char) : Decidable (IsTrimmed cs) := decidable_of_iff _ isTrimmed_iff.symm

/-- Trimming takes the white space around a trimmed text away. -/
theorem IsTrimmed.trimChars_surrounded {front cs back : List Char} (h : IsTrimmed cs)
    (hfront : ∀ c ∈ front, isBlank c = true) (hback : ∀ c ∈ back, isBlank c = true) :
    trimChars (front ++ cs ++ back) = cs := by
  obtain ⟨⟨first, rest, hfirst, hfirstBlank⟩, init, last, hlast, hlastBlank⟩ := h
  have hdrop : dropBlank (front ++ cs ++ back) = cs ++ back := by
    rw [hfirst, List.append_assoc, List.cons_append, dropBlank_glue hfirstBlank,
      dropBlank_eq_nil hfront, List.nil_append]
  rw [trimChars, hdrop, hlast, List.append_assoc, List.singleton_append,
    dropBlankEnd_glue hlastBlank, dropBlankEnd_eq_nil hback]

theorem IsTrimmed.trimChars_eq_self {cs : List Char} (h : IsTrimmed cs) : trimChars cs = cs := by
  have hsurrounded := @trimChars_surrounded [] cs [] h nofun nofun
  rwa [List.nil_append, List.append_nil] at hsurrounded

/-- A text is what is left of it by trimming, with white space around. -/
theorem exists_trimChars (cs : List Char) :
    ∃ before after, cs = before ++ trimChars cs ++ after ∧ (∀ c ∈ before, isBlank c = true) ∧
      ∀ c ∈ after, isBlank c = true := by
  refine ⟨cs.takeWhile isBlank, ((dropBlank cs).reverse.takeWhile isBlank).reverse, ?_,
    fun _ => List.mem_takeWhile_imp, fun c hc => List.mem_takeWhile_imp (List.mem_reverse.mp hc)⟩
  rw [List.append_assoc, trimChars, dropBlankEnd, ← List.reverse_append, dropBlank, dropBlank,
    List.takeWhile_append_dropWhile, List.reverse_reverse, List.takeWhile_append_dropWhile]

/-- Nothing is left of white space only. -/
theorem trimChars_eq_nil_iff {cs : List Char} :
    trimChars cs = [] ↔ ∀ c ∈ cs, isBlank c = true := by
  constructor
  · intro h c hc
    obtain ⟨before, after, hcs, hbefore, hafter⟩ := exists_trimChars cs
    rw [h, List.append_nil] at hcs
    rw [hcs, List.mem_append] at hc
    exact hc.elim (hbefore c) (hafter c)
  · intro h
    rw [trimChars, dropBlank_eq_nil h]
    rfl

/-- Trimming leaves nothing or a trimmed text. -/
theorem isTrimmed_trimChars {cs : List Char} (h : trimChars cs ≠ []) :
    IsTrimmed (trimChars cs) := by
  -- the first character that is not blank stays, whatever is dropped behind it
  obtain ⟨first, rest, hdrop⟩ : ∃ first rest, dropBlank cs = first :: rest := by
    apply List.ne_nil_iff_exists_cons.mp
    intro hnil
    rw [trimChars, hnil] at h
    exact h rfl
  have hfirst : isBlank first = false := by
    have hhead := List.head?_dropWhile_not isBlank cs
    unfold dropBlank at hdrop
    rw [hdrop] at hhead
    exact hhead
  have htrim : trimChars cs = first :: dropBlankEnd rest := by
    rw [trimChars, hdrop]
    exact dropBlankEnd_glue hfirst [] rest
  have hlast : ¬isBlank ((trimChars cs).getLast h) = true :=
    List.rdropWhile_last_not isBlank (dropBlank cs) h
  refine ⟨⟨first, dropBlankEnd rest, htrim, hfirst⟩, ?_⟩
  exact ⟨(trimChars cs).dropLast, (trimChars cs).getLast h,
    (List.dropLast_append_getLast h).symm, Bool.eq_false_iff.mpr hlast⟩

theorem isTrimmed_of_solid {cs : List Char} (hne : cs ≠ []) (h : ∀ c ∈ cs, isBlank c = false) :
    IsTrimmed cs := by
  obtain ⟨c, rest, hcons⟩ := List.ne_nil_iff_exists_cons.mp hne
  refine ⟨⟨c, rest, hcons, h c (hcons ▸ List.mem_cons_self)⟩, cs.dropLast, cs.getLast hne, ?_, ?_⟩
  · exact (List.dropLast_append_getLast hne).symm
  · exact h _ (List.getLast_mem hne)

/-- What is between trimmed texts does not matter. -/
theorem IsTrimmed.append {front back : List Char} (hfront : IsTrimmed front)
    (hback : IsTrimmed back) (between : List Char) : IsTrimmed (front ++ between ++ back) := by
  obtain ⟨⟨c, rest, rfl, hc⟩, -⟩ := hfront
  obtain ⟨-, init, d, rfl, hd⟩ := hback
  exact ⟨⟨c, _, rfl, hc⟩, _, d, (List.append_assoc _ _ _).symm, hd⟩

/-! ## Parts trimmed and joined again -/

theorem length_after_lt {separator cs before after : List Char} (hs : separator ≠ [])
    (h : splitFirst separator cs = some (before, after)) : after.length < cs.length := by
  have hlength := congrArg List.length (eq_append_of_splitFirst h)
  have := List.length_pos_iff.mpr hs
  simp only [List.length_append] at hlength
  omega

/-- The parts of the characters between the occurrences of a separator, trimmed and joined
again; the ends of the characters are trimmed only if they are named. -/
def stripSides (separator : List Char) (left right : Bool) (cs : List Char) : List Char :=
  if _hs : separator = [] then trimSides left right cs
  else
    match _h : splitFirst separator cs with
    | none => trimSides left right cs
    | some (before, after) =>
      trimSides left true before ++ separator ++ stripSides separator true right after
termination_by cs.length
decreasing_by exact length_after_lt _hs _h

variable {separator : List Char}

theorem stripSides_of_none (left right : Bool) {cs : List Char}
    (h : splitFirst separator cs = none) :
    stripSides separator left right cs = trimSides left right cs := by
  rw [stripSides]
  split
  · rfl
  · split
    · rfl
    · next hsome => rw [h] at hsome; cases hsome

theorem stripSides_of_some (hs : separator ≠ []) (left right : Bool) {cs before after : List Char}
    (h : splitFirst separator cs = some (before, after)) :
    stripSides separator left right cs =
      trimSides left true before ++ separator ++ stripSides separator true right after := by
  rw [stripSides, dif_neg hs]
  split
  · next hnone => rw [h] at hnone; cases hnone
  · next before' after' hsome =>
    rw [h] at hsome
    cases hsome
    rfl

/-- Stripping goes on by itself on both sides of a character that is neither white space nor in the
separator. -/
theorem stripSides_glue {b : Char} (hb : b ∉ separator) (hblank : isBlank b = false)
    (hs : separator ≠ []) (left right : Bool) (front back : List Char) :
    stripSides separator left right (front ++ b :: back) =
      stripSides separator left false front ++ b :: stripSides separator false right back := by
  induction hn : front.length using Nat.strongRecOn generalizing front left with
  | ind n ih =>
    subst hn
    cases hfront : splitFirst separator front with
    | none =>
      rw [stripSides_of_none left false hfront]
      cases hback : splitFirst separator back with
      | none =>
        have hwhole : splitFirst separator (front ++ b :: back) = none := by
          rw [splitFirst_glue hb hfront hs, hback]
          rfl
        rw [stripSides_of_none left right hwhole, stripSides_of_none false right hback,
          trimSides_glue hblank]
      | some parts =>
        have hwhole : splitFirst separator (front ++ b :: back) =
            some (front ++ b :: parts.1, parts.2) := by
          rw [splitFirst_glue hb hfront hs, hback]
          rfl
        rw [stripSides_of_some hs left right hwhole, stripSides_of_some hs false right hback,
          trimSides_glue hblank]
        simp
    | some parts =>
      have hshorter : parts.2.length < front.length := length_after_lt hs hfront
      rw [stripSides_of_some hs left right (splitFirst_append_of_eq_some hfront hs (b :: back)),
        stripSides_of_some hs left false hfront, ih _ hshorter true parts.2 rfl]
      simp

theorem stripSides_eq_self (hs : separator ≠ []) {cs : List Char}
    (h : ∀ c ∈ cs, isBlank c = false) (left right : Bool) :
    stripSides separator left right cs = cs := by
  induction hn : cs.length using Nat.strongRecOn generalizing cs left with
  | ind n ih =>
    subst hn
    cases hsplit : splitFirst separator cs with
    | none => rw [stripSides_of_none left right hsplit, trimSides_eq_self h]
    | some parts =>
      have hparts := eq_append_of_splitFirst hsplit
      have hshorter : parts.2.length < cs.length := length_after_lt hs hsplit
      have hbefore : ∀ c ∈ parts.1, isBlank c = false := fun c hc => h c (hparts ▸ by simp [hc])
      have hafter : ∀ c ∈ parts.2, isBlank c = false := fun c hc => h c (hparts ▸ by simp [hc])
      rw [stripSides_of_some hs left right hsplit, trimSides_eq_self hbefore,
        ih _ hshorter hafter true rfl, ← hparts]

theorem splitAll_of_none {cs : List Char} (h : splitFirst separator cs = none) :
    splitAll separator cs = [cs] := by
  rw [splitAll]
  split
  · rfl
  · split
    · rfl
    · next hsome => rw [h] at hsome; cases hsome

theorem splitAll_of_some {cs before after : List Char} (hs : separator ≠ [])
    (h : splitFirst separator cs = some (before, after)) :
    splitAll separator cs = before :: splitAll separator after := by
  rw [splitAll, dif_neg hs]
  split
  · next hnone => rw [h] at hnone; cases hnone
  · next before' after' hsome =>
    rw [h] at hsome
    cases hsome
    rfl

theorem splitAll_ne_nil (separator cs : List Char) : splitAll separator cs ≠ [] := by
  rw [splitAll]
  split
  · simp
  · split <;> simp

/-- Stripping around a separator trims the parts and joins them again. -/
theorem stripSides_outer (hs : separator ≠ []) (cs : List Char) :
    stripSides separator true true cs =
      separator.intercalate ((splitAll separator cs).map trimChars) := by
  induction hn : cs.length using Nat.strongRecOn generalizing cs with
  | ind n ih =>
    subst hn
    rw [splitAll, dif_neg hs]
    split
    · next hsplit =>
      rw [stripSides_of_none true true hsplit]
      simp [List.intercalate, trimSides, trimChars]
    · next before after hsplit =>
      have hshorter : after.length < cs.length := length_after_lt hs hsplit
      rw [stripSides_of_some hs true true hsplit, ih _ hshorter after rfl, List.map_cons]
      have hparts : (splitAll separator after).map trimChars ≠ [] :=
        mt List.map_eq_nil_iff.mp (splitAll_ne_nil separator after)
      rw [List.intercalate_cons_of_ne_nil hparts]
      rfl

/-- Without a separator and with no side to trim nothing changes. -/
theorem stripSides_inner_of_not_occurs {cs : List Char} (h : occurs separator cs = false) :
    stripSides separator false false cs = cs := by
  rw [stripSides_of_none false false (splitFirst_eq_none_iff.mpr h)]
  rfl

/-! ## The parts between the occurrences -/

/-- The parts with the piece between them make up the text. -/
theorem intercalate_splitAll (separator cs : List Char) :
    separator.intercalate (splitAll separator cs) = cs := by
  by_cases hs : separator = []
  · rw [splitAll, dif_pos hs, List.intercalate_singleton]
  · induction hn : cs.length using Nat.strongRecOn generalizing cs with
    | ind n ih =>
      subst hn
      cases hsplit : splitFirst separator cs with
      | none => rw [splitAll_of_none hsplit, List.intercalate_singleton]
      | some parts =>
        rw [splitAll_of_some hs hsplit, List.intercalate_cons_of_ne_nil (splitAll_ne_nil _ _),
          ih _ (length_after_lt hs hsplit) parts.2 rfl, ← eq_append_of_splitFirst hsplit]

/-- No part has the separator in it. -/
theorem occurs_eq_false_of_mem_splitAll (hs : separator ≠ []) {part cs : List Char}
    (h : part ∈ splitAll separator cs) : occurs separator part = false := by
  induction hn : cs.length using Nat.strongRecOn generalizing cs with
  | ind n ih =>
    subst hn
    cases hsplit : splitFirst separator cs with
    | none =>
      rw [splitAll_of_none hsplit, List.mem_singleton] at h
      rw [h]
      exact splitFirst_eq_none_iff.mp hsplit
    | some parts =>
      rw [splitAll_of_some hs hsplit, List.mem_cons] at h
      rcases h with rfl | hrest
      · exact occurs_eq_false_of_splitFirst hs hsplit
      · exact ih _ (length_after_lt hs hsplit) hrest rfl

/-! ## Splitting at a character -/

/-- At a single character a text is split as lists are. -/
theorem splitAll_singleton (c : Char) (cs : List Char) : splitAll [c] cs = cs.splitOn c := by
  induction hn : cs.length using Nat.strongRecOn generalizing cs with
  | ind n ih =>
    subst hn
    by_cases hc : c ∈ cs
    · obtain ⟨front, back, rfl, hfront⟩ := List.eq_append_cons_of_mem hc
      have hne : [c] ≠ [] := List.cons_ne_nil c []
      have hsplit : splitFirst [c] (front ++ c :: back) = some (front, back) :=
        splitFirst_append_piece hfront back
      rw [splitAll_of_some hne hsplit, ih _ (length_after_lt hne hsplit) back rfl,
        List.splitOn_append_cons_self_of_not_mem hfront]
    · have hnone : splitFirst [c] cs = none :=
        splitFirst_eq_none_iff.mpr (occurs_eq_false List.mem_cons_self hc)
      rw [splitAll_of_none hnone, List.splitOn_eq_singleton hc]

theorem not_mem_of_mem_splitOn {c : Char} {part cs : List Char} (h : part ∈ cs.splitOn c) :
    c ∉ part := by
  induction cs generalizing part with
  | nil =>
    rw [List.splitOn_nil, List.mem_singleton] at h
    rw [h]
    exact List.not_mem_nil
  | cons d rest ih =>
    rw [List.splitOn_cons_eq_if_modifyHead] at h
    split at h
    · rcases List.mem_cons.mp h with rfl | hrest
      · exact List.not_mem_nil
      · exact ih hrest
    · next hne =>
      obtain ⟨first, more, hparts⟩ := List.ne_nil_iff_exists_cons.mp (List.splitOn_ne_nil c rest)
      rw [hparts, List.modifyHead_cons, List.mem_cons] at h
      rcases h with rfl | hmore
      · have hcd : c ≠ d := fun heq => hne (beq_iff_eq.mpr heq.symm)
        exact List.not_mem_cons_of_ne_of_not_mem hcd (ih (hparts ▸ List.mem_cons_self))
      · exact ih (hparts ▸ List.mem_cons_of_mem _ hmore)

end Almanac.Text
