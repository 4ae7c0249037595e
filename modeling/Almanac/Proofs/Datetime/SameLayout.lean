import Mathlib.Logic.Relation
import Almanac.Proofs.Datetime.DateRange
import Almanac.Proofs.Locale.WordRuns

/-!
# Values that differ in their white space

Two values have the same layout when the one can be made the other by changing white space
at the ends, beside dots and dashes, and in runs that are not emptied (`SameLayout`). All of
this happens at characters of which no word is made, so that replacing words goes on between
them (`applyFrom_glue`) and leaves the layout as it is (`sameLayout_replaceWords`). Values have
one layout when the same is left of them without such white space (`sameLayout_iff`). Their
compact form is then the same, and normalization looks at nothing else
(`normalize_eq_of_sameLayout`).

This holds for values without the mark between a date and a time. A value with it is split at
delimiters before it is compacted, and a replaced word may bring the mark in
(`normalize_ne_of_mark`).
-/

namespace Almanac

open Text

/-! ## Characters of the layout -/

/-- A dot or a dash: white space beside it does not count. -/
def isJoint (c : Char) : Bool := c == '.' || c == '-' || c == '–'

/-- A character that is part of the layout only. -/
def isLayoutChar (c : Char) : Bool := isBlank c || isJoint c

/-- The code points of the layout. -/
def layoutPoints : List Nat := 0x2d :: 0x2e :: 0x2013 :: blankPoints

theorem toNat_mem_layoutPoints {c : Char} (h : isLayoutChar c = true) :
    c.toNat ∈ layoutPoints := by
  rw [isLayoutChar, Bool.or_eq_true] at h
  rcases h with h | h
  · have hblank := toNat_mem_blankPoints h
    exact List.mem_cons_of_mem _ (List.mem_cons_of_mem _ (List.mem_cons_of_mem _ hblank))
  · simp only [isJoint, Bool.or_eq_true, beq_iff_eq] at h
    rcases h with (rfl | rfl) | rfl <;> decide

/-- What holds of the characters in the table holds of all characters of the layout. -/
theorem forall_isLayoutChar {p : Char → Prop} (h : ∀ n ∈ layoutPoints, p (Char.ofNat n)) (c : Char)
    (hc : isLayoutChar c = true) : p c := by
  have hp := h c.toNat (toNat_mem_layoutPoints hc)
  rwa [Char.ofNat_toNat] at hp

/-- No character of the layout is part of a word. -/
theorem isWordChar_eq_false {c : Char} (h : isLayoutChar c = true) : isWordChar c = false :=
  forall_isLayoutChar (p := fun c => isWordChar c = false) (by decide +kernel) c h

/-! ## Replacing words -/

namespace Replacement

/-- Characters of the layout keep replacements apart. -/
theorem applyFrom_layoutChars {word : List Char} (hword : ∀ c ∈ word, isWordChar c = true)
    (text : List Char) {ks : List Char} (hks : ∀ k ∈ ks, isLayoutChar k = true) (hne : ks ≠ [])
    (front back : List Char) :
    applyFrom word text none (front ++ (ks ++ back)) =
      applyFrom word text none front ++ (ks ++ applyFrom word text none back) := by
  have hnil : applyFrom word text none [] = [] := applyFrom_nil text nofun
  induction ks generalizing front with
  | nil => exact absurd rfl hne
  | cons k ks ih =>
    obtain ⟨hk, hks⟩ := List.forall_mem_cons.mp hks
    rw [List.cons_append, applyFrom_glue hword (isWordChar_eq_false hk)]
    cases ks with
    | nil => rfl
    | cons k' ks =>
      have hrest := ih hks (List.cons_ne_nil _ _) []
      rw [List.nil_append, hnil, List.nil_append] at hrest
      rw [hrest]
      rfl

end Replacement

/-! ## Texts of one layout -/

/-- A change of white space that does not count: at an end, in a run that stays, or beside a
dot or dash. -/
inductive LayoutStep : List Char → List Char → Prop
  | atStart {blanks cs : List Char} : (∀ c ∈ blanks, isBlank c = true) →
      LayoutStep (blanks ++ cs) cs
  | atEnd {cs blanks : List Char} : (∀ c ∈ blanks, isBlank c = true) →
      LayoutStep (cs ++ blanks) cs
  | run {front blanks blanks' back : List Char} : blanks ≠ [] → blanks' ≠ [] →
      (∀ c ∈ blanks, isBlank c = true) → (∀ c ∈ blanks', isBlank c = true) →
      LayoutStep (front ++ (blanks ++ back)) (front ++ (blanks' ++ back))
  | before {front blanks back : List Char} {joint : Char} : isJoint joint = true →
      (∀ c ∈ blanks, isBlank c = true) →
      LayoutStep (front ++ (blanks ++ joint :: back)) (front ++ joint :: back)
  | behind {front blanks back : List Char} {joint : Char} : isJoint joint = true →
      (∀ c ∈ blanks, isBlank c = true) →
      LayoutStep (front ++ joint :: (blanks ++ back)) (front ++ joint :: back)

/-- Texts that differ only by such changes. -/
def SameLayout : List Char → List Char → Prop := Relation.EqvGen LayoutStep

/-- What keeps each change keeps all of them. -/
theorem SameLayout.lift {α : Type} {f : List Char → α} (h : ∀ {a b}, LayoutStep a b → f a = f b)
    {a b : List Char} (hab : SameLayout a b) : f a = f b := by
  induction hab with
  | rel a b hstep => exact h hstep
  | refl a => rfl
  | symm a b _ ih => exact ih.symm
  | trans a b c _ _ hab hbc => exact hab.trans hbc

theorem SameLayout.trans {a b c : List Char} (hab : SameLayout a b) (hbc : SameLayout b c) :
    SameLayout a c := Relation.EqvGen.trans a b c hab hbc

/-- What keeps each change as a change keeps texts the same up to layout. -/
theorem SameLayout.map {f : List Char → List Char}
    (h : ∀ {a b}, LayoutStep a b → LayoutStep (f a) (f b)) {a b : List Char}
    (hab : SameLayout a b) : SameLayout (f a) (f b) := by
  induction hab with
  | rel a b hstep => exact .rel _ _ (h hstep)
  | refl a => exact .refl _
  | symm a b _ ih => exact .symm _ _ ih
  | trans a b c _ _ hab hbc => exact hab.trans hbc

theorem isLayoutChar_of_isBlank {blanks : List Char} (h : ∀ c ∈ blanks, isBlank c = true) :
    ∀ c ∈ blanks, isLayoutChar c = true := fun c hc => by
  rw [isLayoutChar, h c hc, Bool.true_or]

theorem isLayoutChar_of_isJoint {c : Char} (h : isJoint c = true) : isLayoutChar c = true := by
  rw [isLayoutChar, h, Bool.or_true]

/-! ## Replacing words keeps the layout -/

/-- A way to rewrite texts that goes on between characters of the layout. -/
structure KeepsLayout (f : List Char → List Char) : Prop where
  nil : f [] = []
  between {ks : List Char} (hks : ∀ k ∈ ks, isLayoutChar k = true) (hne : ks ≠ [])
    (front back : List Char) : f (front ++ (ks ++ back)) = f front ++ (ks ++ f back)

namespace KeepsLayout

variable {f : List Char → List Char} (hf : KeepsLayout f)
include hf

theorem atStart {blanks : List Char} (hblanks : ∀ c ∈ blanks, isBlank c = true)
    (cs : List Char) : f (blanks ++ cs) = blanks ++ f cs := by
  cases blanks with
  | nil => rfl
  | cons b blanks =>
    have h := hf.between (isLayoutChar_of_isBlank hblanks) (List.cons_ne_nil _ _) [] cs
    rwa [hf.nil] at h

theorem atEnd {blanks : List Char} (hblanks : ∀ c ∈ blanks, isBlank c = true)
    (cs : List Char) : f (cs ++ blanks) = f cs ++ blanks := by
  cases blanks with
  | nil => rw [List.append_nil, List.append_nil]
  | cons b blanks =>
    have h := hf.between (isLayoutChar_of_isBlank hblanks) (List.cons_ne_nil _ _) cs []
    rwa [hf.nil, List.append_nil] at h

/-- White space before a joint stays apart from what is rewritten. -/
theorem before {blanks : List Char} (hblanks : ∀ c ∈ blanks, isBlank c = true) {joint : Char}
    (hjoint : isJoint joint = true) (front back : List Char) :
    f (front ++ (blanks ++ joint :: back)) = f front ++ (blanks ++ joint :: f back) := by
  have hks : ∀ k ∈ blanks ++ [joint], isLayoutChar k = true := by
    simp only [List.forall_mem_append, List.forall_mem_singleton]
    exact ⟨isLayoutChar_of_isBlank hblanks, isLayoutChar_of_isJoint hjoint⟩
  have h := hf.between hks (List.append_ne_nil_of_right_ne_nil _ (List.cons_ne_nil _ _)) front back
  simpa only [List.append_assoc, List.singleton_append] using h

/-- White space behind a joint stays apart from what is rewritten. -/
theorem behind {blanks : List Char} (hblanks : ∀ c ∈ blanks, isBlank c = true) {joint : Char}
    (hjoint : isJoint joint = true) (front back : List Char) :
    f (front ++ joint :: (blanks ++ back)) = f front ++ joint :: (blanks ++ f back) := by
  have hks : ∀ k ∈ joint :: blanks, isLayoutChar k = true :=
    List.forall_mem_cons.mpr ⟨isLayoutChar_of_isJoint hjoint, isLayoutChar_of_isBlank hblanks⟩
  exact hf.between hks (List.cons_ne_nil _ _) front back

theorem step {a b : List Char} (h : LayoutStep a b) : LayoutStep (f a) (f b) := by
  cases h with
  | atStart hblanks =>
    rw [hf.atStart hblanks]
    exact .atStart hblanks
  | atEnd hblanks =>
    rw [hf.atEnd hblanks]
    exact .atEnd hblanks
  | run hne hne' hblanks hblanks' =>
    rw [hf.between (isLayoutChar_of_isBlank hblanks) hne,
      hf.between (isLayoutChar_of_isBlank hblanks') hne']
    exact .run hne hne' hblanks hblanks'
  | @before front _ back _ hjoint hblanks =>
    have hnone : f (front ++ _) = f front ++ _ :=
      hf.before (List.forall_mem_nil _) hjoint front back
    rw [List.nil_append, List.nil_append] at hnone
    rw [hf.before hblanks hjoint, hnone]
    exact .before hjoint hblanks
  | @behind front _ back _ hjoint hblanks =>
    have hnone : f (front ++ _) = f front ++ _ :=
      hf.behind (List.forall_mem_nil _) hjoint front back
    rw [List.nil_append, List.nil_append] at hnone
    rw [hf.behind hblanks hjoint, hnone]
    exact .behind hjoint hblanks

end KeepsLayout

/-- Replacing a word goes on between characters of the layout. -/
theorem Replacement.keepsLayout {r : Replacement} (h : r.IsWord) :
    KeepsLayout (applyFrom r.word.toList r.text.toList none) where
  nil := applyFrom_nil _ nofun
  between hks hne front back := applyFrom_layoutChars h _ hks hne front back

namespace Replacement

theorem keepsLayout_applyAll {replacements : List Replacement} (h : ∀ r ∈ replacements, r.IsWord) :
    KeepsLayout (applyAll replacements) := by
  induction replacements with
  | nil => exact ⟨rfl, fun _ _ _ _ => rfl⟩
  | cons r replacements ih =>
    obtain ⟨hr, hrest⟩ := List.forall_mem_cons.mp h
    refine ⟨?_, fun hks hne front back => ?_⟩
    · rw [applyAll_cons, (keepsLayout hr).nil, (ih hrest).nil]
    · rw [applyAll_cons, (keepsLayout hr).between hks hne, (ih hrest).between hks hne]
      rfl

end Replacement

/-- Texts that are the same up to layout are so after the words of a locale are replaced. -/
theorem sameLayout_replaceWords {locale : Locale} (h : ∀ r ∈ locale.replacements, r.IsWord)
    {a b : String} (hab : SameLayout a.toList b.toList) :
    SameLayout (locale.replaceWords a).toList (locale.replaceWords b).toList := by
  rw [toList_replaceWords, toList_replaceWords]
  exact hab.map (Replacement.keepsLayout_applyAll h).step

/-! ## The mark between a date and a time -/

/-- Occurrences of a piece without such characters lie on one side of them. -/
theorem occurs_layoutChars {piece ks : List Char} (hpiece : ∀ c ∈ piece, isLayoutChar c = false)
    (hpne : piece ≠ []) (hks : ∀ k ∈ ks, isLayoutChar k = true) (hne : ks ≠ [])
    (front back : List Char) :
    occurs piece (front ++ (ks ++ back)) = (occurs piece front || occurs piece back) := by
  have hnil : occurs piece [] = false := List.isEmpty_eq_false_iff.mpr hpne
  induction ks generalizing front with
  | nil => exact absurd rfl hne
  | cons k ks ih =>
    obtain ⟨hk, hks⟩ := List.forall_mem_cons.mp hks
    have hmem : k ∉ piece := fun h => by
      rw [hpiece k h] at hk
      cases hk
    rw [List.cons_append, occurs_glue hmem hpne]
    cases ks with
    | nil => rfl
    | cons k' ks =>
      have hrest := ih hks (List.cons_ne_nil _ _) []
      rw [List.nil_append, hnil, Bool.false_or] at hrest
      rw [hrest]

/-- A piece without characters of the layout occurs before a change where it does after it. -/
theorem occurs_eq_of_step {piece : List Char} (hpiece : ∀ c ∈ piece, isLayoutChar c = false)
    (hpne : piece ≠ []) {a b : List Char} (h : LayoutStep a b) :
    occurs piece a = occurs piece b := by
  have hnil : occurs piece [] = false := List.isEmpty_eq_false_iff.mpr hpne
  have hmany {ks : List Char} (hks : ∀ k ∈ ks, isLayoutChar k = true) (hne : ks ≠ [])
      (front back : List Char) :
      occurs piece (front ++ (ks ++ back)) = (occurs piece front || occurs piece back) :=
    occurs_layoutChars hpiece hpne hks hne front back
  cases h with
  | @atStart blanks _ hblanks =>
    cases blanks with
    | nil => rfl
    | cons k blanks =>
      have h := hmany (isLayoutChar_of_isBlank hblanks) (List.cons_ne_nil _ _) [] b
      rwa [hnil, Bool.false_or] at h
  | @atEnd _ blanks hblanks =>
    cases blanks with
    | nil => rw [List.append_nil]
    | cons k blanks =>
      have h := hmany (isLayoutChar_of_isBlank hblanks) (List.cons_ne_nil _ _) b []
      rwa [hnil, Bool.or_false, List.append_nil] at h
  | run hne hne' hblanks hblanks' =>
    rw [hmany (isLayoutChar_of_isBlank hblanks) hne, hmany (isLayoutChar_of_isBlank hblanks') hne']
  | @before front blanks back joint hjoint hblanks =>
    have hjoint := isLayoutChar_of_isJoint hjoint
    have hks : ∀ k ∈ blanks ++ [joint], isLayoutChar k = true := by
      simp only [List.forall_mem_append, List.forall_mem_singleton]
      exact ⟨isLayoutChar_of_isBlank hblanks, hjoint⟩
    have h := hmany hks (List.append_ne_nil_of_right_ne_nil _ (List.cons_ne_nil _ _)) front back
    rw [List.append_assoc, List.singleton_append] at h
    exact h.trans (hmany (List.forall_mem_singleton.mpr hjoint) (List.cons_ne_nil _ _) _ _).symm
  | @behind front blanks back joint hjoint hblanks =>
    have hjoint := isLayoutChar_of_isJoint hjoint
    have hks : ∀ k ∈ joint :: blanks, isLayoutChar k = true :=
      List.forall_mem_cons.mpr ⟨hjoint, isLayoutChar_of_isBlank hblanks⟩
    exact (hmany hks (List.cons_ne_nil _ _) front back).trans
      (hmany (List.forall_mem_singleton.mpr hjoint) (List.cons_ne_nil _ _) _ _).symm

/-- Rewriting characters other than those of the piece. -/
theorem occurs_map {piece : List Char} {f : Char → Char}
    (hf : ∀ c, ∀ k ∈ piece, (f c = k ↔ c = k)) (cs : List Char) :
    occurs piece (cs.map f) = occurs piece cs := by
  have hprefix {piece : List Char} (hf : ∀ c, ∀ k ∈ piece, (f c = k ↔ c = k)) (cs : List Char) :
      piece.isPrefixOf (cs.map f) = piece.isPrefixOf cs := by
    induction piece generalizing cs with
    | nil => rfl
    | cons k piece ih =>
      cases cs with
      | nil => rfl
      | cons c cs =>
        have hbeq : (k == f c) = (k == c) := by
          rw [Bool.eq_iff_iff, beq_iff_eq, beq_iff_eq, eq_comm, hf c k List.mem_cons_self, eq_comm]
        have hrest := ih (fun c' k' hk' => hf c' k' (List.mem_cons_of_mem _ hk')) cs
        rw [List.map_cons, List.isPrefixOf, List.isPrefixOf, hbeq, hrest]
  induction cs with
  | nil => rfl
  | cons c cs ih => rw [List.map_cons, occurs, occurs, ih, ← List.map_cons, hprefix hf]

/-! ## The compact form -/

namespace Datetime

/-- A text without the white space that does not count. -/
def jointLayout (cs : List Char) : List Char := layoutFrom isJoint true false cs

theorem isBlank_of_isJoint {c : Char} (h : isJoint c = true) : isBlank c = false := by
  simp only [isJoint, Bool.or_eq_true, beq_iff_eq] at h
  rcases h with (rfl | rfl) | rfl <;> decide

/-- What is laid out behind a text depends on the text by its end only. -/
theorem exists_layoutFrom_append {tight : Char → Bool} (glued gap : Bool) (front : List Char) :
    ∃ out glued' gap', ∀ rest, layoutFrom tight glued gap (front ++ rest) =
      out ++ layoutFrom tight glued' gap' rest := by
  induction front generalizing glued gap with
  | nil => exact ⟨[], glued, gap, fun _ => rfl⟩
  | cons c front ih =>
    cases hc : isBlank c with
    | true =>
      obtain ⟨out, glued', gap', hrest⟩ := ih glued true
      refine ⟨out, glued', gap', fun rest => ?_⟩
      rw [List.cons_append, layoutFrom_blank hc, hrest]
    | false =>
      obtain ⟨out, glued', gap', hrest⟩ := ih (tight c) false
      refine ⟨(if gap && !glued && !tight c then [' '] else []) ++ c :: out, glued', gap',
        fun rest => ?_⟩
      rw [List.cons_append, layoutFrom_char hc, hrest, List.append_assoc, List.cons_append]

/-- A change does not show in the layout. -/
theorem jointLayout_eq_of_step {a b : List Char} (h : LayoutStep a b) :
    jointLayout a = jointLayout b := by
  cases h with
  | atStart hblanks =>
    rw [jointLayout, layoutFrom_blanks hblanks, layoutFrom_glued]
    rfl
  | atEnd hblanks =>
    obtain ⟨out, glued, gap, hrest⟩ := @exists_layoutFrom_append isJoint true false b
    have hnone := hrest []
    rw [List.append_nil] at hnone
    rw [jointLayout, jointLayout, hrest, hnone, layoutFrom_eq_nil hblanks]
    rfl
  | @run front blanks blanks' back hne hne' hblanks hblanks' =>
    obtain ⟨out, glued, gap, hrest⟩ := @exists_layoutFrom_append isJoint true false front
    simp only [jointLayout, hrest, layoutFrom_blanks hblanks, layoutFrom_blanks hblanks',
      List.isEmpty_eq_false_iff.mpr hne, List.isEmpty_eq_false_iff.mpr hne']
  | @before front blanks back joint hjoint hblanks =>
    obtain ⟨out, glued, gap, hrest⟩ := @exists_layoutFrom_append isJoint true false front
    simp only [jointLayout, hrest, layoutFrom_blanks hblanks,
      layoutFrom_tight (isBlank_of_isJoint hjoint) hjoint]
  | @behind front blanks back joint hjoint hblanks =>
    obtain ⟨out, glued, gap, hrest⟩ := @exists_layoutFrom_append isJoint true false front
    simp only [jointLayout, hrest, layoutFrom_tight (isBlank_of_isJoint hjoint) hjoint,
      layoutFrom_blanks hblanks, layoutFrom_glued]

/-- White space stands as in the layout before a character, at the start or behind a joint
(`glued`) or elsewhere. -/
theorem sameLayout_gap {glued : Bool} {front : List Char}
    (hglued : glued = front.getLast?.all isJoint) {blanks : List Char}
    (hblanks : ∀ c ∈ blanks, isBlank c = true) (c : Char) (cs : List Char) :
    SameLayout (front ++ (blanks ++ c :: cs))
      (front ++ ((if !blanks.isEmpty && !glued && !isJoint c then [' '] else []) ++ c :: cs)) := by
  cases hempty : blanks.isEmpty with
  | true =>
    rw [List.isEmpty_iff.mp hempty]
    exact .refl _
  | false =>
    cases hc : isJoint c with
    | true =>
      rw [Bool.not_true, Bool.and_false]
      exact .rel _ _ (.before hc hblanks)
    | false =>
      cases glued with
      | false =>
        have hspace : ∀ c ∈ [' '], isBlank c = true := by decide
        exact .rel _ _ (.run (List.isEmpty_eq_false_iff.mp hempty) (List.cons_ne_nil _ _) hblanks
          hspace)
      | true =>
        rcases List.eq_nil_or_concat front with rfl | ⟨front, joint, rfl⟩
        · exact .rel _ _ (.atStart hblanks)
        · rw [List.concat_eq_append, List.getLast?_concat] at hglued
          simp only [List.concat_eq_append, List.append_assoc, List.singleton_append]
          exact .rel _ _ (.behind hglued.symm hblanks)

/-- A text has the layout of what is left of it. -/
theorem sameLayout_jointLayout (cs : List Char) : SameLayout cs (jointLayout cs) := by
  suffices h : ∀ {glued : Bool} {front blanks : List Char},
      glued = front.getLast?.all isJoint → (∀ c ∈ blanks, isBlank c = true) →
        SameLayout (front ++ (blanks ++ cs))
          (front ++ layoutFrom isJoint glued (!blanks.isEmpty) cs) from
    @h true [] [] rfl (List.forall_mem_nil _)
  induction cs with
  | nil =>
    intro glued front blanks _ hblanks
    rw [List.append_nil, layoutFrom, List.append_nil]
    exact .rel _ _ (.atEnd hblanks)
  | cons c cs ih =>
    intro glued front blanks hglued hblanks
    cases hc : isBlank c with
    | true =>
      have hmore : ∀ d ∈ blanks ++ [c], isBlank d = true :=
        List.forall_mem_append.mpr ⟨hblanks, List.forall_mem_singleton.mpr hc⟩
      have hne : (blanks ++ [c]).isEmpty = false :=
        List.isEmpty_eq_false_iff.mpr (List.append_ne_nil_of_right_ne_nil _ (List.cons_ne_nil _ _))
      have h := ih hglued hmore
      rw [hne, List.append_assoc] at h
      rwa [layoutFrom_blank hc]
    | false =>
      rw [layoutFrom_char hc]
      refine (sameLayout_gap hglued hblanks c cs).trans ?_
      have hlast : isJoint c = ((front ++
          (if !blanks.isEmpty && !glued && !isJoint c then [' '] else [])) ++ [c]).getLast?.all
            isJoint := by
        rw [List.getLast?_concat]
        rfl
      have h := ih hlast (List.forall_mem_nil _)
      simpa only [List.append_assoc, List.singleton_append, List.nil_append, List.isEmpty_nil,
        Bool.not_true] using h

/-- **Texts have the same layout when the same is left of them.** -/
theorem sameLayout_iff {a b : List Char} : SameLayout a b ↔ jointLayout a = jointLayout b := by
  refine ⟨fun h => h.lift jointLayout_eq_of_step, fun h => ?_⟩
  have ha := sameLayout_jointLayout a
  rw [h] at ha
  exact ha.trans ((sameLayout_jointLayout b).symm _ _)

instance (a b : List Char) : Decidable (SameLayout a b) := decidable_of_iff _ sameLayout_iff.symm

/-- A dash for an en dash, and any other character itself. -/
def plainDash (c : Char) : Char := if c = '–' then '-' else c

theorem plainDashes_cons (c : Char) (cs : List Char) :
    plainDashes (c :: cs) = plainDash c :: plainDashes cs := rfl

theorem isBlank_plainDash (c : Char) : isBlank (plainDash c) = isBlank c := by
  unfold plainDash
  split
  · next h =>
    rw [h]
    decide
  · rfl

theorem isTight_plainDash (c : Char) : isTight (plainDash c) = isJoint c := by
  unfold plainDash
  split
  · next h =>
    rw [h]
    decide
  · next h => simp [isTight, isJoint, h]

theorem plainDash_eq_iff {c d : Char} (h : isJoint d = false) : plainDash c = d ↔ c = d := by
  unfold plainDash
  split
  · next hc =>
    have hdash : '-' ≠ d ∧ '–' ≠ d := by
      constructor <;> rintro rfl <;> cases h
    simp only [hc, hdash.1, hdash.2]
  · rfl

/-- A dash is a joint whichever way it is written. -/
theorem layout_plainDashes (cs : List Char) :
    layout (plainDashes cs) = plainDashes (jointLayout cs) := by
  suffices h : ∀ glued gap, layoutFrom isTight glued gap (plainDashes cs) =
      plainDashes (layoutFrom isJoint glued gap cs) from h true false
  induction cs with
  | nil => exact fun _ _ => rfl
  | cons c cs ih =>
    intro glued gap
    rw [plainDashes_cons]
    cases hc : isBlank c with
    | true => rw [layoutFrom_blank ((isBlank_plainDash c).trans hc), layoutFrom_blank hc, ih]
    | false =>
      rw [layoutFrom_char ((isBlank_plainDash c).trans hc), layoutFrom_char hc, isTight_plainDash,
        ih]
      cases gap && !glued && !isJoint c <;> rfl

/-- Compaction depends on the layout alone. -/
theorem compactChars_eq_of_layout {a b : List Char} (h : layout a = layout b) :
    compactChars a = compactChars b := by
  rw [compactChars, compactChars, layout_eq, layout_eq, h]

theorem occurs_plainDashes {piece : List Char} (h : ∀ c ∈ piece, isJoint c = false)
    (cs : List Char) : occurs piece (plainDashes cs) = occurs piece cs :=
  occurs_map (fun _ k hk => plainDash_eq_iff (h k hk)) cs

theorem percent_mem_plainDashes {cs : List Char} : '%' ∈ plainDashes cs ↔ '%' ∈ cs := by
  rw [plainDashes, List.mem_map]
  constructor
  · rintro ⟨c, hc, heq⟩
    rwa [← (plainDash_eq_iff (by decide)).mp heq]
  · exact fun h => ⟨'%', h, rfl⟩

/-- Without a percent sign compaction is the layout. -/
theorem compactChars_plainDashes {cs : List Char} (h : '%' ∉ cs) :
    compactChars (plainDashes cs) = layout (plainDashes cs) := by
  refine compactChars_of_not_percent fun hmem => ?_
  rcases mem_of_mem_layoutFrom hmem with hmem | heq
  · exact h (percent_mem_plainDashes.mp hmem)
  · exact absurd heq (by decide)

/-- A value that is no date and time apart is prepared by compaction. -/
theorem prepare_of_not_occurs {n : Normalizer} {raw : String}
    (h : occurs dateTimeSeparator (n.locale.replaceWords raw).toList = false) :
    n.prepare raw = compactChars (plainDashes (n.locale.replaceWords raw).toList) := by
  rw [Normalizer.prepare, occurs_plainDashes (by decide), h]
  rfl

end Datetime

/-! ## Normalization -/

/-- **Values of one layout are normalized to the same**, as long as no date and time are marked
off in them. -/
theorem normalize_eq_of_sameLayout (template : Template) {locale : Locale}
    (hwords : ∀ r ∈ locale.replacements, r.IsWord) {a b : String}
    (hab : SameLayout a.toList b.toList)
    (hmark : occurs Datetime.dateTimeSeparator (locale.replaceWords a).toList = false) :
    (template.normalizer locale).normalize a = (template.normalizer locale).normalize b := by
  have hwritten := sameLayout_replaceWords hwords hab
  have hmark' : occurs Datetime.dateTimeSeparator (locale.replaceWords b).toList = false := by
    rw [← hmark]
    refine (hwritten.lift fun hstep => ?_).symm
    exact occurs_eq_of_step (by decide) (List.cons_ne_nil _ _) hstep
  have hlayout : Datetime.layout (Datetime.plainDashes (locale.replaceWords a).toList) =
      Datetime.layout (Datetime.plainDashes (locale.replaceWords b).toList) := by
    rw [Datetime.layout_plainDashes, Datetime.layout_plainDashes,
      Datetime.sameLayout_iff.mp hwritten]
  have hlocale : (template.normalizer locale).locale = locale := rfl
  generalize template.normalizer locale = n at hlocale ⊢
  subst hlocale
  have hprepare : n.prepare a = n.prepare b := by
    rw [Datetime.prepare_of_not_occurs hmark, Datetime.prepare_of_not_occurs hmark']
    exact Datetime.compactChars_eq_of_layout hlayout
  rw [Datetime.Normalizer.normalize, Datetime.Normalizer.normalize, hprepare]

/-- The words that are replaced for Czech and English dates. -/
theorem Locale.replacements_isWord :
    ∀ locale ∈ [Locale.czech, Locale.english], ∀ r ∈ locale.replacements, r.IsWord := by
  decide +kernel

/-- White space at the end and beside dots and dashes, with the name of a month that is
replaced. -/
theorem normalize_eq_of_sameLayout_dates :
    let template := datedTemplate "%d. %B %Y%range\x7b-\x7d%d.%m.%Y" []
    let a := "1. leden  2023 – 3. 2. 2023 "
    let b := "1.leden 2023–3.2.2023"
    (∀ r ∈ Locale.czech.replacements, r.IsWord) ∧ SameLayout a.toList b.toList ∧
      occurs Datetime.dateTimeSeparator (Locale.czech.replaceWords a).toList = false ∧
      (template.normalizer .czech).normalize a = (template.normalizer .czech).normalize b ∧
      ((template.normalizer .czech).normalize b).isSome = true := by
  intro template a b
  have hwords : ∀ r ∈ Locale.czech.replacements, r.IsWord :=
    Locale.replacements_isWord _ List.mem_cons_self
  have hab : SameLayout a.toList b.toList := by decide +kernel
  have hmark : occurs Datetime.dateTimeSeparator (Locale.czech.replaceWords a).toList = false := by
    decide +kernel
  exact ⟨hwords, hab, hmark, normalize_eq_of_sameLayout template hwords hab hmark,
    by decide +kernel⟩

/-- A replaced word brings the mark in. The value is then split at the delimiter of the template,
and only where the white space in it is as in the template. -/
theorem normalize_ne_of_mark :
    let template := datedTemplate "%d.%m.%Y" ["%H:%M%range\x7ba b\x7d%H:%M"]
    let locale : Locale := { Locale.english with replacements := [⟨"x", "%;"⟩] }
    let a := "1.2.2023x 18:00 a b 20:00"
    let b := "1.2.2023x 18:00 a  b 20:00"
    (∀ r ∈ locale.replacements, r.IsWord ∧ ∀ c ∈ r.text.toList, isLayoutChar c = false) ∧
      occurs Datetime.dateTimeSeparator a.toList = false ∧
      occurs Datetime.dateTimeSeparator b.toList = false ∧ SameLayout a.toList b.toList ∧
      (template.normalizer locale).normalize a ≠ (template.normalizer locale).normalize b := by
  decide +kernel

end Almanac
