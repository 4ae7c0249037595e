import Almanac.Proofs.Text.Splitting

/-!
# Pieces without white space beside them

A piece is unbordered when no part of it is both its beginning and its end. Two occurrences of
such a piece do not overlap (`Unbordered.occurrence_cases`), so that a text is split at each of
them (`Unbordered.stripSides_append`) and trimming the parts leaves white space beside none
(`Unbordered.noBlankBeside_stripSides`).

A piece beside which there is no white space stays so when the parts between the occurrences of
another one are trimmed, if it does not begin or end within that one (`NoBlankBeside.stripSides`).
To a text in which it is so, trimming does nothing (`NoBlankBeside.stripSides_eq_self`).
-/

namespace Almanac.Text

/-! ## Pieces without borders -/

/-- Nothing but all of the piece is both a beginning and an end of it. -/
def Unbordered (piece : List Char) : Prop :=
  ∀ border, border ≠ [] → border <+: piece → border <:+ piece → border = piece

theorem unbordered_iff {piece : List Char} :
    Unbordered piece ↔ ∀ n < piece.length, n ≠ 0 → ¬ piece.take n <:+ piece := by
  constructor
  · intro h n hn hzero hsuffix
    have hlength : (piece.take n).length = n := List.length_take_of_le (Nat.le_of_lt hn)
    have hne : piece.take n ≠ [] := by
      rintro hnil
      rw [hnil] at hlength
      exact hzero hlength.symm
    rw [h _ hne (List.take_prefix _ _) hsuffix] at hlength
    exact Nat.ne_of_gt hn hlength
  · intro h border hne hbegins hsuffix
    have hborder := List.prefix_iff_eq_take.mp hbegins
    by_contra hother
    have hshorter : border.length < piece.length :=
      Nat.lt_of_le_of_ne hbegins.length_le fun heq => hother (hbegins.eq_of_length heq)
    refine h border.length hshorter (fun hzero => hne (List.length_eq_zero_iff.mp hzero)) ?_
    rwa [← hborder]

instance (piece : List Char) : Decidable (Unbordered piece) :=
  decidable_of_iff _ unbordered_iff.symm

variable {piece : List Char}

/-- Of two occurrences of a piece the second is the first or begins behind it: what overlapping
ones share would be a border. -/
theorem Unbordered.next_occurrence (h : Unbordered piece) {between back rest : List Char}
    (heq : piece ++ back = between ++ (piece ++ rest)) :
    between = [] ∧ back = rest ∨
      ∃ gap, between = piece ++ gap ∧ back = gap ++ (piece ++ rest) := by
  rcases List.append_eq_append_iff.mp heq with ⟨gap, hbetween, hback⟩ | ⟨shared, hpiece, hagain⟩
  · exact .inr ⟨gap, hbetween, hback⟩
  · by_cases hbetween : between = []
    · subst hbetween
      exact .inl ⟨rfl, List.append_cancel_left heq⟩
    · by_cases hshared : shared = []
      · subst hshared
        rw [List.append_nil] at hpiece
        exact .inr ⟨[], by rw [hpiece, List.append_nil], hagain.symm⟩
      · have hlength : shared.length ≤ piece.length := by
          rw [hpiece, List.length_append]
          omega
        have hbegins : shared <+: piece :=
          List.prefix_of_prefix_length_le ⟨back, hagain.symm⟩ (List.prefix_append _ _) hlength
        rw [h shared hshared hbegins ⟨between, hpiece.symm⟩] at hpiece
        exact absurd (List.self_eq_append_left.mp hpiece) hbetween

/-- An occurrence beside another one lies before it or behind it. -/
theorem Unbordered.occurrence_cases (h : Unbordered piece) {front back before after : List Char}
    (heq : front ++ (piece ++ back) = before ++ (piece ++ after)) :
    (∃ gap, front = before ++ (piece ++ gap) ∧ after = gap ++ (piece ++ back)) ∨
      before = front ∧ after = back ∨
      ∃ gap, before = front ++ (piece ++ gap) ∧ back = gap ++ (piece ++ after) := by
  rcases List.append_eq_append_iff.mp heq with ⟨between, rfl, hnext⟩ | ⟨between, rfl, hnext⟩
  · rcases h.next_occurrence hnext with ⟨rfl, rfl⟩ | ⟨gap, rfl, hback⟩
    · exact .inr (.inl ⟨List.append_nil _, rfl⟩)
    · exact .inr (.inr ⟨gap, rfl, hback⟩)
  · rcases h.next_occurrence hnext with ⟨rfl, rfl⟩ | ⟨gap, rfl, hafter⟩
    · exact .inr (.inl ⟨(List.append_nil _).symm, rfl⟩)
    · exact .inl ⟨gap, rfl, hafter⟩

/-- The first occurrence of a piece behind a text in which it is not. -/
theorem Unbordered.splitFirst_append (h : Unbordered piece) (hne : piece ≠ [])
    {front : List Char} (hfront : occurs piece front = false) (back : List Char) :
    splitFirst piece (front ++ (piece ++ back)) = some (front, back) := by
  cases hsplit : splitFirst piece (front ++ (piece ++ back)) with
  | none =>
    rw [splitFirst_eq_none_iff, occurs_self_append] at hsplit
    cases hsplit
  | some parts =>
    have hparts := eq_append_of_splitFirst hsplit
    have hbefore := occurs_eq_false_of_splitFirst hne hsplit
    rw [List.append_assoc] at hparts
    rcases h.occurrence_cases hparts with ⟨gap, hgap, -⟩ | ⟨heq, heq'⟩ | ⟨gap, hgap, -⟩
    · rw [hgap, occurs_self_append] at hfront
      cases hfront
    · rw [← heq, ← heq']
    · rw [hgap, occurs_self_append] at hbefore
      cases hbefore

/-- A text is split at each occurrence of an unbordered piece. -/
theorem Unbordered.stripSides_append (h : Unbordered piece) (hne : piece ≠ [])
    (front back : List Char) :
    stripSides piece true true (front ++ (piece ++ back)) =
      stripSides piece true true front ++ (piece ++ stripSides piece true true back) := by
  induction hn : front.length using Nat.strongRecOn generalizing front with
  | ind n ih =>
    subst hn
    cases hfront : splitFirst piece front with
    | none =>
      have hsplit := h.splitFirst_append hne (splitFirst_eq_none_iff.mp hfront) back
      rw [stripSides_of_some hne _ _ hsplit, stripSides_of_none _ _ hfront, List.append_assoc]
    | some parts =>
      have hsplit := splitFirst_append_of_eq_some hfront hne (piece ++ back)
      rw [stripSides_of_some hne _ _ hsplit, stripSides_of_some hne _ _ hfront,
        ih _ (length_after_lt hne hfront) _ rfl]
      simp only [List.append_assoc]

/-! ## Ends without white space -/

/-- The characters neither begin nor end with white space; there may be none. -/
def NoBlankEnds (cs : List Char) : Prop :=
  cs.head?.any isBlank = false ∧ cs.getLast?.any isBlank = false

theorem IsTrimmed.noBlankEnds {cs : List Char} (h : IsTrimmed cs) : NoBlankEnds cs := by
  obtain ⟨⟨c, rest, hfirst, hc⟩, init, d, hlast, hd⟩ := h
  constructor
  · rw [hfirst, List.head?_cons, Option.any_some, hc]
  · rw [hlast, List.getLast?_concat, Option.any_some, hd]

theorem noBlankEnds_trimChars (cs : List Char) : NoBlankEnds (trimChars cs) := by
  by_cases hne : trimChars cs = []
  · rw [hne]
    exact ⟨rfl, rfl⟩
  · exact (isTrimmed_trimChars hne).noBlankEnds

/-- What has no white space at its ends is left when white space around it is cut off. -/
theorem NoBlankEnds.trimChars_surrounded {front cs back : List Char} (h : NoBlankEnds cs)
    (hfront : ∀ c ∈ front, isBlank c = true) (hback : ∀ c ∈ back, isBlank c = true) :
    trimChars (front ++ cs ++ back) = cs := by
  by_cases hne : cs = []
  · subst hne
    rw [trimChars_eq_nil_iff, List.append_nil]
    intro c hc
    exact (List.mem_append.mp hc).elim (hfront c) (hback c)
  · refine (isTrimmed_iff.mpr ?_).trimChars_surrounded hfront hback
    obtain ⟨hhead, hlast⟩ := h
    rw [List.head?_eq_some_head hne] at hhead ⊢
    rw [List.getLast?_eq_some_getLast hne] at hlast ⊢
    rw [Option.any_some] at hhead hlast ⊢
    rw [Option.any_some, hhead, hlast]
    exact ⟨rfl, rfl⟩

theorem NoBlankEnds.trimChars_eq_self {cs : List Char} (h : NoBlankEnds cs) :
    trimChars cs = cs := by
  have hsurrounded := @trimChars_surrounded [] cs [] h nofun nofun
  rwa [List.nil_append, List.append_nil] at hsurrounded

theorem head?_any_append {front back : List Char} (hfront : front.head?.any isBlank = false)
    (hback : back.head?.any isBlank = false) : (front ++ back).head?.any isBlank = false := by
  cases front with
  | nil => exact hback
  | cons c front => exact hfront

theorem getLast?_any_append {front back : List Char} (hfront : front.getLast?.any isBlank = false)
    (hback : back.getLast?.any isBlank = false) :
    (front ++ back).getLast?.any isBlank = false := by
  rw [List.getLast?_append]
  cases hlast : back.getLast? with
  | none => exact hfront
  | some c => rwa [hlast] at hback

theorem NoBlankEnds.append {front back : List Char} (hfront : NoBlankEnds front)
    (hback : NoBlankEnds back) : NoBlankEnds (front ++ back) :=
  ⟨head?_any_append hfront.1 hback.1, getLast?_any_append hfront.2 hback.2⟩

theorem noBlankEnds_stripSides (hne : piece ≠ []) (hends : NoBlankEnds piece) (cs : List Char) :
    NoBlankEnds (stripSides piece true true cs) := by
  induction hn : cs.length using Nat.strongRecOn generalizing cs with
  | ind n ih =>
    subst hn
    cases hsplit : splitFirst piece cs with
    | none =>
      rw [stripSides_of_none _ _ hsplit]
      exact noBlankEnds_trimChars cs
    | some parts =>
      rw [stripSides_of_some hne _ _ hsplit]
      have hbehind := ih _ (length_after_lt hne hsplit) parts.2 rfl
      exact ((noBlankEnds_trimChars parts.1).append hends).append hbehind

/-! ## Pieces without white space beside them -/

/-- There is no white space beside any occurrence of the piece. -/
def NoBlankBeside (piece cs : List Char) : Prop :=
  ∀ front back, cs = front ++ (piece ++ back) →
    front.getLast?.any isBlank = false ∧ back.head?.any isBlank = false

theorem NoBlankBeside.of_not_occurs {cs : List Char} (h : occurs piece cs = false) :
    NoBlankBeside piece cs := by
  rintro front back rfl
  rw [occurs_self_append] at h
  cases h

/-- What is beside the piece in a part of a text is beside it in the text. -/
theorem NoBlankBeside.of_append {front cs back : List Char}
    (h : NoBlankBeside piece (front ++ (cs ++ back))) : NoBlankBeside piece cs := by
  rintro before after rfl
  have hwhole := h (front ++ before) (after ++ back) (by simp only [List.append_assoc])
  constructor
  · cases hlast : before.getLast? with
    | none => rfl
    | some c => rw [← hwhole.1, List.getLast?_append, hlast, Option.some_or]
  · cases after with
    | nil => rfl
    | cons c after => exact hwhole.2

theorem NoBlankBeside.trimChars {cs : List Char} (h : NoBlankBeside piece cs) :
    NoBlankBeside piece (trimChars cs) := by
  obtain ⟨before, after, hcs, -, -⟩ := exists_trimChars cs
  rw [hcs, List.append_assoc] at h
  exact h.of_append

/-- Trimming around such a piece does nothing. -/
theorem NoBlankBeside.stripSides_eq_self (hne : piece ≠ []) {cs : List Char}
    (h : NoBlankBeside piece cs) (hends : NoBlankEnds cs) : stripSides piece true true cs = cs := by
  induction hn : cs.length using Nat.strongRecOn generalizing cs with
  | ind n ih =>
    subst hn
    cases hsplit : splitFirst piece cs with
    | none =>
      rw [stripSides_of_none _ _ hsplit]
      exact hends.trimChars_eq_self
    | some parts =>
      obtain ⟨before, after⟩ := parts
      have hcs := eq_append_of_splitFirst hsplit
      rw [List.append_assoc] at hcs
      obtain ⟨hlast, hnext⟩ := h before after hcs
      have hbefore : NoBlankEnds before := by
        refine ⟨?_, hlast⟩
        cases before with
        | nil => rfl
        | cons c before => rw [hcs] at hends; exact hends.1
      have hafter : NoBlankEnds after := by
        refine ⟨hnext, ?_⟩
        cases hend : after.getLast? with
        | none => rfl
        | some c =>
          have hlast' := hends.2
          rw [hcs, ← List.append_assoc, List.getLast?_append, hend] at hlast'
          exact hlast'
      have hinner : NoBlankBeside piece after := by
        rw [hcs, ← List.append_assoc, ← List.append_nil after] at h
        exact h.of_append
      rw [stripSides_of_some hne _ _ hsplit,
        ih _ (length_after_lt hne hsplit) hinner hafter rfl, hcs, List.append_assoc]
      exact congrArg (· ++ (piece ++ after)) hbefore.trimChars_eq_self

/-- Trimming around an unbordered piece leaves no white space beside it. -/
theorem Unbordered.noBlankBeside_stripSides (h : Unbordered piece) (hne : piece ≠ [])
    (hends : NoBlankEnds piece) (cs : List Char) :
    NoBlankBeside piece (stripSides piece true true cs) := by
  induction hn : cs.length using Nat.strongRecOn generalizing cs with
  | ind n ih =>
    subst hn
    cases hsplit : splitFirst piece cs with
    | none =>
      rw [stripSides_of_none _ _ hsplit]
      exact (NoBlankBeside.of_not_occurs (splitFirst_eq_none_iff.mp hsplit)).trimChars
    | some parts =>
      obtain ⟨before, after⟩ := parts
      have hbehind := ih _ (length_after_lt hne hsplit) after rfl
      have hnone : occurs piece (Text.trimChars before) = false := by
        obtain ⟨front, back, hbefore, -, -⟩ := exists_trimChars before
        refine occurs_eq_false_of_isInfix ?_ (occurs_eq_false_of_splitFirst hne hsplit)
        exact ⟨front, back, hbefore.symm⟩
      rw [stripSides_of_some hne _ _ hsplit, List.append_assoc]
      intro front back heq
      rcases h.occurrence_cases heq with ⟨gap, hgap, -⟩ | ⟨rfl, rfl⟩ | ⟨gap, rfl, hgap⟩
      · have htrim : trimSides true true before = Text.trimChars before := rfl
        rw [← htrim, hgap, occurs_self_append] at hnone
        cases hnone
      · exact ⟨(noBlankEnds_trimChars before).2, (noBlankEnds_stripSides hne hends after).1⟩
      · obtain ⟨hlast, hnext⟩ := hbehind gap back hgap
        refine ⟨?_, hnext⟩
        rw [← List.append_assoc]
        exact getLast?_any_append (getLast?_any_append (noBlankEnds_trimChars before).2 hends.2)
          hlast

/-! ## Trimming around another piece -/

/-- An occurrence of a piece lies before or behind a character with which it can only begin. -/
theorem occurrence_cases_of_not_mem_tail (hne : piece ≠ []) {k : Char} (hk : k ∉ piece.tail)
    {front back before after : List Char}
    (heq : front ++ k :: back = before ++ (piece ++ after)) :
    (∃ gap, front = before ++ (piece ++ gap) ∧ after = gap ++ k :: back) ∨
      ∃ gap, before = front ++ gap ∧ k :: back = gap ++ (piece ++ after) := by
  rcases List.append_eq_append_iff.mp heq with ⟨gap, rfl, hback⟩ | ⟨rest, rfl, hrest⟩
  · exact .inr ⟨gap, rfl, hback⟩
  · rcases List.append_eq_append_iff.mp hrest with ⟨gap, rfl, hafter⟩ | ⟨gap, rfl, hback⟩
    · exact .inl ⟨gap, rfl, hafter⟩
    · cases rest with
      | nil => exact .inr ⟨[], by simp, hback⟩
      | cons c rest =>
        cases gap with
        | nil => exact .inl ⟨[], by simp, hback.symm⟩
        | cons d gap =>
          obtain ⟨rfl, -⟩ := List.cons_eq_cons.mp hback
          exact absurd (List.mem_append_right rest List.mem_cons_self) hk

/-- An occurrence of a piece lies before or behind a character with which it can only end. -/
theorem occurrence_cases_of_not_mem_dropLast {l : Char} (hl : l ∉ piece.dropLast)
    {front back before after : List Char}
    (heq : (front ++ [l]) ++ back = before ++ (piece ++ after)) :
    (∃ gap, front ++ [l] = before ++ (piece ++ gap) ∧ after = gap ++ back) ∨
      ∃ gap, before = front ++ l :: gap ∧ back = gap ++ (piece ++ after) := by
  rcases List.append_eq_append_iff.mp heq with ⟨gap, rfl, hback⟩ | ⟨rest, hfront, hrest⟩
  · exact .inr ⟨gap, by simp, hback⟩
  · rcases List.append_eq_append_iff.mp hrest with ⟨gap, rfl, hafter⟩ | ⟨gap, rfl, hback⟩
    · exact .inl ⟨gap, hfront, hafter⟩
    · cases gap with
      | nil => exact .inl ⟨[], by rw [hfront]; simp, hback.symm⟩
      | cons d gap =>
        rcases List.eq_nil_or_concat rest with rfl | ⟨rest, c, rfl⟩
        · exact .inr ⟨[], by rw [List.append_nil] at hfront; simp [← hfront], hback⟩
        · rw [List.concat_eq_append, ← List.append_assoc] at hfront
          obtain ⟨-, hlast⟩ := List.append_inj' hfront rfl
          obtain rfl := List.singleton_inj.mp hlast
          refine absurd ?_ hl
          rw [List.dropLast_append_of_ne_nil (List.cons_ne_nil d gap), List.concat_eq_append]
          exact List.mem_append_left _ (List.mem_append_right _ List.mem_cons_self)

/-- A text and one that begins with such a character, put together. -/
theorem NoBlankBeside.append_cons (hne : piece ≠ []) {k : Char} (hk : k ∉ piece.tail)
    (hblank : isBlank k = false) {front back : List Char} (hfront : NoBlankBeside piece front)
    (hlast : front.getLast?.any isBlank = false) (hback : NoBlankBeside piece (k :: back)) :
    NoBlankBeside piece (front ++ k :: back) := by
  intro before after heq
  rcases occurrence_cases_of_not_mem_tail hne hk heq with ⟨gap, hgap, rfl⟩ | ⟨gap, rfl, hgap⟩
  · obtain ⟨hbefore, hafter⟩ := hfront before gap hgap
    exact ⟨hbefore, head?_any_append hafter hblank⟩
  · obtain ⟨hbefore, hafter⟩ := hback gap after hgap
    exact ⟨getLast?_any_append hlast hbefore, hafter⟩

/-- A text that ends with such a character and another one, put together. -/
theorem NoBlankBeside.concat_append {l : Char} (hl : l ∉ piece.dropLast)
    (hblank : isBlank l = false) {front back : List Char}
    (hfront : NoBlankBeside piece (front ++ [l])) (hback : NoBlankBeside piece back)
    (hnext : back.head?.any isBlank = false) : NoBlankBeside piece ((front ++ [l]) ++ back) := by
  intro before after heq
  rcases occurrence_cases_of_not_mem_dropLast hl heq with ⟨gap, hgap, rfl⟩ | ⟨gap, rfl, hgap⟩
  · obtain ⟨hbefore, hafter⟩ := hfront before gap hgap
    exact ⟨hbefore, head?_any_append hafter hnext⟩
  · obtain ⟨hbefore, hafter⟩ := hback gap after hgap
    refine ⟨?_, hafter⟩
    rw [← List.singleton_append, ← List.append_assoc]
    refine getLast?_any_append ?_ hbefore
    rw [List.getLast?_concat, Option.any_some, hblank]

/-- **Trimming around another piece brings no white space beside a piece**, and no new occurrence
of it, when it cannot reach over the first or the last character of the other. -/
theorem NoBlankBeside.stripSides (hne : piece ≠ []) {k l : Char} {inner : List Char}
    (hk : k ∉ piece.tail) (hl : l ∉ piece.dropLast) (hkblank : isBlank k = false)
    (hlblank : isBlank l = false) {cs : List Char} (h : NoBlankBeside piece cs) :
    NoBlankBeside piece (stripSides (k :: (inner ++ [l])) true true cs) := by
  have hother : k :: (inner ++ [l]) ≠ [] := List.cons_ne_nil _ _
  have hends : NoBlankEnds (k :: (inner ++ [l])) := by
    refine ⟨hkblank, ?_⟩
    rw [← List.cons_append, List.getLast?_concat, Option.any_some, hlblank]
  induction hn : cs.length using Nat.strongRecOn generalizing cs with
  | ind n ih =>
    subst hn
    cases hsplit : splitFirst (k :: (inner ++ [l])) cs with
    | none =>
      rw [stripSides_of_none _ _ hsplit]
      exact h.trimChars
    | some parts =>
      obtain ⟨before, after⟩ := parts
      have hcs := eq_append_of_splitFirst hsplit
      rw [hcs] at h
      have hbefore : NoBlankBeside piece before := by
        rw [List.append_assoc, ← List.nil_append (before ++ _)] at h
        exact h.of_append
      have hmiddle : NoBlankBeside piece (k :: (inner ++ [l])) := by
        rw [List.append_assoc] at h
        exact h.of_append
      have hafter : NoBlankBeside piece after := by
        rw [← List.append_nil after] at h
        exact h.of_append
      have hrest := ih _ (length_after_lt hother hsplit) hafter rfl
      rw [stripSides_of_some hother _ _ hsplit, List.append_assoc, List.cons_append]
      refine append_cons hne hk hkblank hbefore.trimChars (noBlankEnds_trimChars before).2 ?_
      rw [← List.cons_append, ← List.cons_append]
      exact concat_append hl hlblank hmiddle hrest (noBlankEnds_stripSides hother hends after).1

/-! ## White space left out -/

/-- The characters with some white space left out. -/
inductive DropsBlanks : List Char → List Char → Prop
  | nil : DropsBlanks [] []
  | keep {c : Char} {cs out : List Char} : DropsBlanks cs out → DropsBlanks (c :: cs) (c :: out)
  | drop {c : Char} {cs out : List Char} : isBlank c = true → DropsBlanks cs out →
      DropsBlanks (c :: cs) out

namespace DropsBlanks

theorem refl (cs : List Char) : DropsBlanks cs cs := by
  induction cs with
  | nil => exact nil
  | cons c cs ih => exact ih.keep

theorem append {front back out out' : List Char} (h : DropsBlanks front out)
    (h' : DropsBlanks back out') : DropsBlanks (front ++ back) (out ++ out') := by
  induction h with
  | nil => exact h'
  | keep _ ih => exact ih.keep
  | drop hc _ ih => exact ih.drop hc

theorem of_blanks {blanks : List Char} (h : ∀ c ∈ blanks, isBlank c = true) :
    DropsBlanks blanks [] := by
  induction blanks with
  | nil => exact nil
  | cons c blanks ih =>
    obtain ⟨hc, hblanks⟩ := List.forall_mem_cons.mp h
    exact (ih hblanks).drop hc

theorem trimChars (cs : List Char) : DropsBlanks cs (trimChars cs) := by
  obtain ⟨before, after, hcs, hbefore, hafter⟩ := exists_trimChars cs
  have h := ((of_blanks hbefore).append (refl (Text.trimChars cs))).append (of_blanks hafter)
  rwa [← hcs, List.nil_append, List.append_nil] at h

theorem stripSides (hne : piece ≠ []) (cs : List Char) :
    DropsBlanks cs (stripSides piece true true cs) := by
  induction hn : cs.length using Nat.strongRecOn generalizing cs with
  | ind n ih =>
    subst hn
    cases hsplit : splitFirst piece cs with
    | none =>
      rw [stripSides_of_none _ _ hsplit]
      exact trimChars cs
    | some parts =>
      have h := ((trimChars parts.1).append (refl piece)).append
        (ih _ (length_after_lt hne hsplit) parts.2 rfl)
      rw [← eq_append_of_splitFirst hsplit] at h
      rw [stripSides_of_some hne _ _ hsplit]
      exact h

theorem subset {cs out : List Char} (h : DropsBlanks cs out) : out ⊆ cs := by
  induction h with
  | nil => exact List.Subset.refl _
  | keep _ ih => exact List.cons_subset_cons _ ih
  | drop _ _ ih => exact List.subset_cons_of_subset _ ih

theorem exists_append {front back out : List Char} (h : DropsBlanks (front ++ back) out) :
    ∃ front' back', out = front' ++ back' ∧ DropsBlanks front front' ∧ DropsBlanks back back' := by
  induction front generalizing out with
  | nil => exact ⟨[], out, rfl, nil, h⟩
  | cons c front ih =>
    cases h with
    | keep h =>
      obtain ⟨front', back', rfl, hfront, hback⟩ := ih h
      exact ⟨c :: front', back', rfl, hfront.keep, hback⟩
    | drop hc h =>
      obtain ⟨front', back', rfl, hfront, hback⟩ := ih h
      exact ⟨front', back', rfl, hfront.drop hc, hback⟩

/-- Other characters are kept. -/
theorem eq_self {cs out : List Char} (hcs : cs.any isBlank = false) (h : DropsBlanks cs out) :
    out = cs := by
  induction h with
  | nil => rfl
  | keep _ ih =>
    rw [List.any_cons, Bool.or_eq_false_iff] at hcs
    rw [ih hcs.2]
  | drop hc _ _ =>
    rw [List.any_cons, hc] at hcs
    cases hcs

end DropsBlanks

end Almanac.Text
