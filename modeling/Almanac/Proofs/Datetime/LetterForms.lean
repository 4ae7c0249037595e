import Almanac.Proofs.Datetime.SameLayout

/-!
# Replacing words in any case

Replacing words compares letters by their folding and asks which of them are word characters,
while reading a date compares letters by their lower case. A small letter and the characters of
which it is the lower case (`letterForms`) are the same to both when they fold to one character
(`FoldsAsLower`), which is looked up in the tables. Texts of such letters are rewritten to texts
of such letters (`forall₂_applyAll`), so that what is rewritten in one case is rewritten in
every case. Digits are no letter in any case and no word begins with one (`applyAll_eq_self`).
-/

namespace Almanac

open Text

namespace Text

/-! ## Forms of a letter -/

/-- Characters that are one to replacing words and to reading dates. -/
structure SameInWords (a b : Char) : Prop where
  lower : lower a = lower b
  fold : fold a = fold b
  isWordChar : isWordChar a = isWordChar b

theorem SameInWords.refl (c : Char) : SameInWords c c := ⟨rfl, rfl, rfl⟩

/-- A small letter and the characters that the table makes it. -/
def letterForms (n : Char) : List Char :=
  n :: (Shift.sources Table.lowercase n.toNat).map Char.ofNat

/-- Whether all the forms of a small letter fold as it does. -/
def FoldsAsLower (n : Char) : Prop :=
  (n.toNat ≠ 0 ∧ lower n = [n]) ∧
    ∀ c ∈ letterForms n, fold c = fold n ∧ isWordChar c = isWordChar n

instance (n : Char) : Decidable (FoldsAsLower n) := inferInstanceAs (Decidable (_ ∧ _))

theorem Shift.mem_sources {shifts : List Shift} {s : Shift} (hs : s ∈ shifts) {m n : Nat}
    (hcovers : s.covers m = true) (h : (m : Int) + s.distance = n) :
    m ∈ Shift.sources shifts n := by
  have hback : ((n : Int) - s.distance).toNat = m := by omega
  refine List.mem_filterMap.mpr ⟨s, hs, ?_⟩
  simp only [hback, hcovers, h, beq_self_eq_true, Bool.and_self, if_true]

/-- The forms of a letter are in its list. -/
theorem mem_letterForms {c n : Char} (hn : n.toNat ≠ 0 ∧ lower n = [n])
    (h : lower c = lower n) : c ∈ letterForms n := by
  rw [hn.2, lower] at h
  split at h
  · rcases asciiLower_cases c with hself | ⟨k, hk, hc, hlower⟩
    · rw [hself, List.singleton_inj] at h
      exact h ▸ List.mem_cons_self
    · have hlatin : ∀ k < 26, Char.ofNat (65 + k) ∈ letterForms (Char.ofNat (97 + k)) := by
        decide +kernel
      rw [hlower, List.singleton_inj] at h
      rw [← h, hc]
      exact hlatin k hk
  · split at h
    · cases h
    · have hnat := toNat_of_ofNat_eq (List.singleton_inj.mp h) hn.1
      rcases Shift.apply_cases Table.lowercase c.toNat with hself | ⟨s, hs, hcovers, happly⟩
      · rw [hself] at hnat
        exact Char.toNat_inj.mp hnat ▸ List.mem_cons_self
      · refine List.mem_cons_of_mem _ (List.mem_map.mpr ⟨c.toNat, ?_, Char.ofNat_toNat c⟩)
        refine Shift.mem_sources hs hcovers ?_
        have := hn.1
        omega

theorem FoldsAsLower.sameInWords {c n : Char} (hn : FoldsAsLower n) (h : lower c = lower n) :
    SameInWords c n := by
  obtain ⟨hfold, hword⟩ := hn.2 c (mem_letterForms hn.1 h)
  exact ⟨h, hfold, hword⟩

/-- A text in another case than small letters. -/
theorem forall₂_sameInWords {cs name : List Char} (hname : ∀ n ∈ name, FoldsAsLower n)
    (h : cs.map lower = name.map lower) : List.Forall₂ SameInWords cs name := by
  induction name generalizing cs with
  | nil => rw [List.map_eq_nil_iff.mp h]; exact .nil
  | cons n name ih =>
    obtain ⟨hn, hname⟩ := List.forall_mem_cons.mp hname
    cases cs with
    | nil => cases h
    | cons c cs =>
      rw [List.map_cons, List.map_cons, List.cons_eq_cons] at h
      exact .cons (hn.sameInWords h.1) (ih hname h.2)

theorem map_lower_eq_of_forall₂ {cs cs' : List Char} (h : List.Forall₂ SameInWords cs cs') :
    cs.map lower = cs'.map lower := by
  induction h with
  | nil => rfl
  | cons hc _ ih => rw [List.map_cons, List.map_cons, hc.lower, ih]

end Text

namespace Replacement

/-! ## Replacing in any case -/

theorem isBorder_eq {a a' b b' : Option Char} (ha : a.map isWordChar = a'.map isWordChar)
    (hb : b.map isWordChar = b'.map isWordChar) : isBorder a b = isBorder a' b' := by
  have hany (o : Option Char) : o.any isWordChar = (o.map isWordChar).any id := by
    cases o <;> rfl
  rw [isBorder, isBorder, hany a, hany b, ha, hb, ← hany, ← hany]

section Case

variable {cs cs' : List Char} (h : List.Forall₂ SameInWords cs cs')
include h

theorem map_isWordChar_eq : cs.map isWordChar = cs'.map isWordChar := by
  rw [← List.forall₂_eq_eq_eq, List.forall₂_map_left_iff, List.forall₂_map_right_iff]
  exact h.imp fun _ _ hc => hc.isWordChar

theorem beginsWord_eq (word : List Char) : beginsWord word cs = beginsWord word cs' := by
  induction word generalizing cs cs' with
  | nil => rfl
  | cons w word ih =>
    cases h with
    | nil => rfl
    | cons hc hrest => rw [beginsWord, beginsWord, sameFold, sameFold, hc.fold, ih hrest]

theorem map_getLast?_take_eq (n : Nat) :
    (cs.take n).getLast?.map isWordChar = (cs'.take n).getLast?.map isWordChar := by
  rw [← List.getLast?_map, ← List.getLast?_map, List.map_take, List.map_take, map_isWordChar_eq h]

/-- A word ends at the same places. -/
theorem occursAt_eq (word : List Char) {before before' : Option Char}
    (hbefore : before.map isWordChar = before'.map isWordChar) :
    occursAt word before cs = occursAt word before' cs' := by
  have hlast : ((cs.take word.length).getLast?.or before).map isWordChar =
      ((cs'.take word.length).getLast?.or before').map isWordChar := by
    rw [Option.map_or, Option.map_or, map_getLast?_take_eq h, hbefore]
  have hnext : (cs.drop word.length).head?.map isWordChar =
      (cs'.drop word.length).head?.map isWordChar := by
    rw [← List.head?_map, ← List.head?_map, List.map_drop, List.map_drop, map_isWordChar_eq h]
  rw [occursAt, occursAt, beginsWord_eq h, isBorder_eq hlast hnext]

omit h in
/-- Texts that differ in case only are rewritten to such texts. -/
theorem forall₂_applyFrom (word text : List Char) {before before' : Option Char}
    (hbefore : before.map isWordChar = before'.map isWordChar)
    (h : List.Forall₂ SameInWords cs cs') :
    List.Forall₂ SameInWords (applyFrom word text before cs) (applyFrom word text before' cs') := by
  have htext : List.Forall₂ SameInWords text text := List.forall₂_same.mpr fun c _ => .refl c
  -- Where the word occurs, the text goes on behind all of it: the induction is on the length.
  induction hn : cs.length using Nat.strongRecOn generalizing before before' cs cs' with
  | ind n ih =>
    subst hn
    have hoccurs := occursAt_eq h word hbefore
    cases h with
    | nil =>
      rw [applyFrom, applyFrom, hoccurs]
      split
      · exact htext
      · exact .nil
    | @cons c c' rest rest' hc hrest =>
      have hnext : List.Forall₂ SameInWords (applyFrom word text (some c) rest)
          (applyFrom word text (some c') rest') :=
        ih _ (Nat.lt_succ_self _) (congrArg some hc.isWordChar) hrest rfl
      rw [applyFrom, applyFrom, hoccurs]
      split
      · split
        · exact List.rel_append htext (.cons hc hnext)
        · have hshorter : (rest.drop (word.length - 1)).length < (c :: rest).length := by
            rw [List.length_drop, List.length_cons]
            omega
          exact List.rel_append htext (ih _ hshorter (map_getLast?_take_eq (.cons hc hrest) _)
            (List.forall₂_drop _ hrest) rfl)
      · exact .cons hc hnext

omit h in
/-- Texts that differ in the case of letters do so after words are replaced. -/
theorem forall₂_applyAll (replacements : List Replacement) (h : List.Forall₂ SameInWords cs cs') :
    List.Forall₂ SameInWords (applyAll replacements cs) (applyAll replacements cs') := by
  induction replacements generalizing cs cs' with
  | nil => exact h
  | cons r replacements ih =>
    rw [applyAll_cons, applyAll_cons]
    exact ih (forall₂_applyFrom _ _ rfl h)

end Case

/-! ## Texts that no word occurs in -/

theorem applyFrom_eq_self {w : Char} {word : List Char} (text : List Char) {before : Option Char}
    {cs : List Char} (h : ∀ c ∈ cs, sameFold w c = false) :
    applyFrom (w :: word) text before cs = cs := by
  induction cs generalizing before with
  | nil =>
    rw [applyFrom]
    rfl
  | cons c cs ih =>
    obtain ⟨hc, hcs⟩ := List.forall_mem_cons.mp h
    have hnone : occursAt (w :: word) before (c :: cs) = false := by
      rw [occursAt, beginsWord, hc]
      rfl
    rw [applyFrom, hnone, ih hcs]
    rfl

/-- A text stays as it is when it holds no character with which a word begins. -/
theorem applyAll_eq_self {replacements : List Replacement} {cs : List Char}
    (h : ∀ r ∈ replacements, ∃ w ∈ r.word.toList.head?, ∀ c ∈ cs, sameFold w c = false) :
    applyAll replacements cs = cs := by
  induction replacements with
  | nil => rfl
  | cons r replacements ih =>
    obtain ⟨⟨w, hw, hr⟩, hrest⟩ := List.forall_mem_cons.mp h
    obtain ⟨word, hword⟩ := List.head?_eq_some_iff.mp hw
    rw [applyAll_cons, hword, applyFrom_eq_self _ hr, ih hrest]

end Replacement

end Almanac
