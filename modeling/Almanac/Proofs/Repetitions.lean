import Mathlib.Data.List.Induction
import Mathlib.Data.List.Nodup

/-!
# Lists without their repetitions

`eraseDups` keeps of every member of a list its first place: what is left is without
repetition, it is a part of the list, and its members are in the order of their first places
(`pairwise_idxOf_eraseDups`). Lists of which the same is left (`SameFirsts`) stay so when they are
filtered, mapped or put together. Repeating members at the end of a list (`WithRepeats`) leaves
the same of it, also of what each member is replaced by.
-/

namespace Almanac

variable {α β : Type} [BEq α] [BEq β]

theorem nodup_eraseDups [LawfulBEq α] : ∀ l : List α, l.eraseDups.Nodup
  | [] => List.nodup_nil
  | a :: l => by
    rw [List.eraseDups_cons, List.nodup_cons]
    refine ⟨?_, nodup_eraseDups (l.filter fun b => !b == a)⟩
    intro h
    have hmem := List.mem_filter.mp (List.mem_eraseDups.mp h)
    simp at hmem
termination_by l => l.length
decreasing_by exact Nat.lt_succ_of_le (List.length_filter_le _ l)

theorem eraseDups_sublist : ∀ l : List α, l.eraseDups.Sublist l
  | [] => List.Sublist.slnil
  | a :: l => by
    rw [List.eraseDups_cons]
    have hrest := eraseDups_sublist (l.filter fun b => !b == a)
    exact (hrest.trans List.filter_sublist).cons_cons a
termination_by l => l.length
decreasing_by exact Nat.lt_succ_of_le (List.length_filter_le _ l)

/-- A list without repetitions stays as it is. -/
theorem eraseDups_eq_self [LawfulBEq α] {l : List α} (h : l.Nodup) : l.eraseDups = l := by
  induction l with
  | nil => rfl
  | cons a l ih =>
    obtain ⟨ha, hl⟩ := List.nodup_cons.mp h
    have hothers : (l.filter fun b => !b == a) = l := by
      refine List.filter_eq_self.mpr fun b hb => ?_
      have hne : b ≠ a := fun heq => ha (heq ▸ hb)
      simp [hne]
    rw [List.eraseDups_cons, hothers, ih hl]

/-- Members that a list already has add nothing to it. -/
theorem eraseDups_append_of_subset [LawfulBEq α] {front back : List α} (h : back ⊆ front) :
    (front ++ back).eraseDups = front.eraseDups := by
  have hnone : back.removeAll front = [] := by
    rw [List.removeAll, List.filter_eq_nil_iff]
    intro a ha
    simp [h ha]
  rw [List.eraseDups_append, hnone, List.eraseDups_nil, List.append_nil]

/-- Renaming different things differently keeps which of them are repetitions. -/
theorem eraseDups_map [LawfulBEq α] [LawfulBEq β] {f : α → β} (hf : Function.Injective f) :
    ∀ l : List α, (l.map f).eraseDups = l.eraseDups.map f
  | [] => rfl
  | a :: l => by
    have hother : ((fun b => !b == f a) ∘ f) = fun b => !b == a := by
      funext b
      by_cases heq : b = a
      · simp [heq]
      · have hne : f b ≠ f a := fun h => heq (hf h)
        simp [heq, hne]
    rw [List.map_cons, List.eraseDups_cons, List.eraseDups_cons, List.filter_map, hother,
      eraseDups_map hf (l.filter fun b => !b == a), List.map_cons]
termination_by l => l.length
decreasing_by exact Nat.lt_succ_of_le (List.length_filter_le _ l)

variable [LawfulBEq α]

/-- Leaving others out keeps the order of the first places of two members. -/
theorem idxOf_lt_of_filter {p : α → Bool} {a b : α} (ha : p a = true) (hb : p b = true) {l : List α}
    (h : (l.filter p).idxOf a < (l.filter p).idxOf b) : l.idxOf a < l.idxOf b := by
  induction l with
  | nil => cases h
  | cons c l ih =>
    by_cases hp : p c = true
    · rw [List.filter_cons_of_pos hp] at h
      by_cases hcb : c = b
      · subst hcb
        rw [List.idxOf_cons_self] at h
        cases h
      · by_cases hca : c = a
        · subst hca
          rw [List.idxOf_cons_self, List.idxOf_cons_ne l hcb]
          exact Nat.succ_pos _
        · rw [List.idxOf_cons_ne _ hca, List.idxOf_cons_ne _ hcb] at h ⊢
          exact Nat.succ_lt_succ (ih (Nat.lt_of_succ_lt_succ h))
    · have hca : c ≠ a := fun heq => hp (heq ▸ ha)
      have hcb : c ≠ b := fun heq => hp (heq ▸ hb)
      rw [List.filter_cons_of_neg hp] at h
      rw [List.idxOf_cons_ne l hca, List.idxOf_cons_ne l hcb]
      exact Nat.succ_lt_succ (ih h)

/-- **The members that are kept are in the order of their first places.** -/
theorem pairwise_idxOf_eraseDups :
    ∀ l : List α, l.eraseDups.Pairwise fun a b => l.idxOf a < l.idxOf b
  | [] => List.Pairwise.nil
  | a :: l => by
    have hother : ∀ b ∈ (l.filter fun b => !b == a).eraseDups, b ∈ l ∧ a ≠ b := by
      intro b hb
      obtain ⟨hmem, hne⟩ := List.mem_filter.mp (List.mem_eraseDups.mp hb)
      rw [Bool.not_eq_true', beq_eq_false_iff_ne] at hne
      exact ⟨hmem, hne.symm⟩
    rw [List.eraseDups_cons, List.pairwise_cons]
    refine ⟨fun b hb => ?_, ?_⟩
    · rw [List.idxOf_cons_self, List.idxOf_cons_ne l (hother b hb).2]
      exact Nat.succ_pos _
    · refine (pairwise_idxOf_eraseDups (l.filter fun b => !b == a)).imp_of_mem ?_
      intro b c hb hc hlt
      have hb' := (hother b hb).2
      have hc' := (hother c hc).2
      rw [List.idxOf_cons_ne l hb', List.idxOf_cons_ne l hc']
      exact Nat.succ_lt_succ (idxOf_lt_of_filter (by simp [hb'.symm]) (by simp [hc'.symm]) hlt)
termination_by l => l.length
decreasing_by exact Nat.lt_succ_of_le (List.length_filter_le _ l)

/-! ## Lists with the same first places -/

/-- What is left of the lists without their repetitions is the same. -/
def SameFirsts (l l' : List α) : Prop := l.eraseDups = l'.eraseDups

theorem eraseDups_filter (p : α → Bool) :
    ∀ l : List α, (l.filter p).eraseDups = l.eraseDups.filter p
  | [] => rfl
  | a :: l => by
    have ih := eraseDups_filter p (l.filter fun b => !b == a)
    rw [List.eraseDups_cons]
    by_cases hp : p a = true
    · rw [List.filter_cons_of_pos hp, List.filter_cons_of_pos hp, List.eraseDups_cons, ← ih,
        List.filter_filter, List.filter_filter]
      simp only [Bool.and_comm]
    · -- where the first member is dropped, so are its repetitions
      have hrest : (l.filter fun b => !b == a).filter p = l.filter p := by
        rw [List.filter_filter]
        refine List.filter_congr fun b _ => ?_
        by_cases heq : b = a <;> simp [heq, hp]
      rw [List.filter_cons_of_neg hp, List.filter_cons_of_neg hp, ← ih, hrest]
termination_by l => l.length
decreasing_by exact Nat.lt_succ_of_le (List.length_filter_le _ l)

/-- Of two lists one behind the other the second adds what is new. -/
theorem eraseDups_append_eq (front back : List α) :
    (front ++ back).eraseDups =
      front.eraseDups ++ back.eraseDups.filter fun a => !front.eraseDups.contains a := by
  rw [List.eraseDups_append, List.removeAll, eraseDups_filter]
  congr 1
  refine List.filter_congr fun a _ => ?_
  by_cases ha : a ∈ front <;> simp [ha]

namespace SameFirsts

variable {l l' more more' : List α}

/-- Lists with the same first places keep them when others are put behind them. -/
theorem append (h : SameFirsts l l') (hmore : SameFirsts more more') :
    SameFirsts (l ++ more) (l' ++ more') := by
  unfold SameFirsts at *
  rw [eraseDups_append_eq, eraseDups_append_eq, h, hmore]

/-- Taking repetitions out of what is behind does not matter. -/
theorem append_eraseDups (front back : List α) :
    SameFirsts (front ++ back.eraseDups) (front ++ back) :=
  append rfl (eraseDups_eq_self (nodup_eraseDups back))

theorem filter (p : α → Bool) (h : SameFirsts l l') : SameFirsts (l.filter p) (l'.filter p) := by
  unfold SameFirsts at *
  rw [eraseDups_filter, eraseDups_filter, h]

theorem map_eraseDups [LawfulBEq β] (f : α → β) (l : List α) :
    SameFirsts (l.eraseDups.map f) (l.map f) := by
  induction l using List.reverseRecOn with
  | nil => rfl
  | append_singleton l a ih =>
    by_cases ha : a ∈ l
    · have hsame : (l ++ [a]).eraseDups = l.eraseDups :=
        eraseDups_append_of_subset (by simpa using ha)
      have hmap : SameFirsts (l.map f ++ [f a]) (l.map f) :=
        eraseDups_append_of_subset (by simpa using ⟨a, ha, rfl⟩)
      rw [hsame, List.map_append, List.map_singleton]
      exact ih.trans hmap.symm
    · have hsame : (l ++ [a]).eraseDups = l.eraseDups ++ [a] := by
        rw [eraseDups_append_eq]
        simp [ha, List.eraseDups_cons]
      rw [hsame, List.map_append, List.map_append]
      exact ih.append rfl

theorem map [LawfulBEq β] (f : α → β) (h : SameFirsts l l') : SameFirsts (l.map f) (l'.map f) := by
  have hmap := map_eraseDups f l
  rw [h] at hmap
  exact hmap.symm.trans (map_eraseDups f l')

/-- Lists that are made of parts with the same first places have the same first places. -/
theorem flatMap [LawfulBEq β] {γ : Type} {f g : γ → List β} {items : List γ}
    (h : ∀ c ∈ items, SameFirsts (f c) (g c)) : SameFirsts (items.flatMap f) (items.flatMap g) := by
  induction items with
  | nil => rfl
  | cons c items ih =>
    rw [List.flatMap_cons, List.flatMap_cons]
    exact (h c List.mem_cons_self).append (ih fun d hd => h d (List.mem_cons_of_mem c hd))

end SameFirsts

/-! ## Repeating members at the end -/

/-- The second list is the first with some of its members again behind it. -/
def WithRepeats {γ : Type} (l l' : List γ) : Prop := ∃ again, again ⊆ l ∧ l' = l ++ again

namespace WithRepeats

variable {γ δ : Type} {items items' : List γ}

theorem singleton {c : γ} (h : c ∈ items) : WithRepeats items (items ++ [c]) :=
  ⟨[c], by simpa using h, rfl⟩

theorem isEmpty_eq (h : WithRepeats items items') : items'.isEmpty = items.isEmpty := by
  obtain ⟨again, hagain, rfl⟩ := h
  cases items with
  | nil => rw [List.subset_nil.mp hagain, List.append_nil]
  | cons c items => rfl

theorem filterMap (f : γ → Option δ) (h : WithRepeats items items') :
    WithRepeats (items.filterMap f) (items'.filterMap f) := by
  obtain ⟨again, hagain, rfl⟩ := h
  exact ⟨again.filterMap f, List.filterMap_subset f hagain, List.filterMap_append⟩

theorem flatMap (f : γ → List δ) (h : WithRepeats items items') :
    WithRepeats (items.flatMap f) (items'.flatMap f) := by
  obtain ⟨again, hagain, rfl⟩ := h
  refine ⟨again.flatMap f, ?_, List.flatMap_append⟩
  intro d hd
  obtain ⟨c, hc, hd⟩ := List.mem_flatMap.mp hd
  exact List.mem_flatMap.mpr ⟨c, hagain hc, hd⟩

/-- Repeats do not change what is first. -/
theorem take_one (h : WithRepeats items items') : items'.take 1 = items.take 1 := by
  obtain ⟨again, hagain, rfl⟩ := h
  cases items with
  | nil => rw [List.subset_nil.mp hagain, List.append_nil]
  | cons c items => rfl

/-- Repeats do not change the first places. -/
theorem sameFirsts {l l' : List α} (h : WithRepeats l l') : SameFirsts l' l := by
  obtain ⟨again, hagain, rfl⟩ := h
  exact eraseDups_append_of_subset hagain

end WithRepeats

end Almanac
