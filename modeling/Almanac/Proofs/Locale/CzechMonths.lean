import Almanac.Proofs.Locale.WholeWords

/-!
# Replacements that stay apart

Replacements stay apart (`AreApart`) when all their words and texts are made of word characters
and none of them ends as another one does. Of a run of word characters at most one word is then
the end; it is replaced, and what is put there ends in no word (`applyAll_run`). The order of such
replacements does not matter (`applyAll_eq_of_mem_iff`), doing them again changes nothing
(`applyAll_applyAll`), no word is left at the end of a word (`not_occursAs_applyAll`) and
everything else is kept (`rewritten_applyAll`).

The names of the Czech months stay apart (`Locale.czech_areApart`), so that all this is true of
them in every text (`replaceWords_czech`).
-/

namespace Almanac

open Text

namespace Replacement

/-- The letters of the word, whatever their case. -/
def foldedWord (r : Replacement) : List Char := r.word.toList.map fold

/-- The letters of the text, whatever their case. -/
def foldedText (r : Replacement) : List Char := r.text.toList.map fold

/-- No word or text of the replacements ends as a word of another one does. -/
structure AreApart (rs : List Replacement) : Prop where
  ne_nil : ∀ r ∈ rs, r.word.toList ≠ []
  isWord : ∀ r ∈ rs, r.IsWord
  text_isWordChar : ∀ r ∈ rs, ∀ c ∈ r.text.toList, isWordChar c = true
  eq_of_suffix : ∀ r ∈ rs, ∀ r' ∈ rs, r.foldedWord <:+ r'.foldedWord → r = r'
  word_not_suffix : ∀ r ∈ rs, ∀ r' ∈ rs, ¬ r.foldedWord <:+ r'.foldedText
  text_not_suffix : ∀ r ∈ rs, ∀ r' ∈ rs, ¬ r.foldedText <:+ r'.foldedWord

namespace AreApart

theorem mono {rs rs' : List Replacement} (h : AreApart rs) (hsubset : rs' ⊆ rs) : AreApart rs' where
  ne_nil r hr := h.ne_nil r (hsubset hr)
  isWord r hr := h.isWord r (hsubset hr)
  text_isWordChar r hr := h.text_isWordChar r (hsubset hr)
  eq_of_suffix r hr r' hr' := h.eq_of_suffix r (hsubset hr) r' (hsubset hr')
  word_not_suffix r hr r' hr' := h.word_not_suffix r (hsubset hr) r' (hsubset hr')
  text_not_suffix r hr r' hr' := h.text_not_suffix r (hsubset hr) r' (hsubset hr')

theorem tail {r : Replacement} {rs : List Replacement} (h : AreApart (r :: rs)) : AreApart rs :=
  h.mono (List.subset_cons_self r rs)

end AreApart

/-! ## The end of a run -/

/-- A run of word characters ends in no word. -/
def EndsInNone (rs : List Replacement) (run : List Char) : Prop :=
  ∀ r ∈ rs, ¬ r.foldedWord <:+ run.map fold

/-- A run ends in no word, or in the letters of one in some case. -/
theorem endsInNone_or (rs : List Replacement) (run : List Char) :
    EndsInNone rs run ∨
      ∃ r ∈ rs, ∃ front occ, run = front ++ occ ∧ occ.map fold = r.foldedWord := by
  by_cases h : ∃ r ∈ rs, r.foldedWord <:+ run.map fold
  · obtain ⟨r, hr, front, hsuffix⟩ := h
    obtain ⟨front, occ, rfl, -, hocc⟩ := List.append_eq_map_iff.mp hsuffix
    exact .inr ⟨r, hr, front, occ, rfl, hocc⟩
  · exact .inl fun r hr hsuffix => h ⟨r, hr, hsuffix⟩

variable {rs rs' : List Replacement} {run front occ : List Char} {r : Replacement}

theorem applyAll_run_of_endsInNone (h : AreApart rs) (hrun : ∀ c ∈ run, isWordChar c = true)
    (hnone : EndsInNone rs run) : applyAll rs run = run := by
  induction rs with
  | nil => rfl
  | cons r rs ih =>
    obtain ⟨hr, hrest⟩ := List.forall_mem_cons.mp hnone
    rw [applyAll_cons, applyFrom_run_of_not_suffix (h.ne_nil r List.mem_cons_self) hrun _ _ hr]
    exact ih h.tail hrest

/-- What is put in the place of a word ends in none. -/
theorem endsInNone_append_text (h : AreApart rs) (hr : r ∈ rs) (front : List Char) :
    EndsInNone rs (front ++ r.text.toList) := by
  intro r' hr' hsuffix
  rw [List.map_append] at hsuffix
  rcases List.suffix_or_suffix_of_suffix hsuffix (List.suffix_append _ r.foldedText) with h' | h'
  · exact h.word_not_suffix r' hr' r hr h'
  · exact h.text_not_suffix r hr r' hr' h'

/-- Only one word is the end of a run. -/
theorem eq_of_foldedWord_suffix (h : AreApart rs) (hr : r ∈ rs) {r' : Replacement} (hr' : r' ∈ rs)
    (hsuffix : r.foldedWord <:+ run.map fold) (hsuffix' : r'.foldedWord <:+ run.map fold) :
    r = r' := by
  rcases List.suffix_or_suffix_of_suffix hsuffix hsuffix' with hword | hword
  · exact h.eq_of_suffix r hr r' hr' hword
  · exact (h.eq_of_suffix r' hr' r hr hword).symm

theorem foldedWord_suffix (front : List Char) (hocc : occ.map fold = r.foldedWord) :
    r.foldedWord <:+ (front ++ occ).map fold := by
  rw [List.map_append, hocc]
  exact List.suffix_append _ _

theorem append_text_isWordChar (h : AreApart rs) (hr : r ∈ rs)
    (hrun : ∀ c ∈ front ++ occ, isWordChar c = true) :
    ∀ c ∈ front ++ r.text.toList, isWordChar c = true :=
  List.forall_mem_append.mpr ⟨(List.forall_mem_append.mp hrun).1, h.text_isWordChar r hr⟩

/-- The word at the end of a run is replaced. -/
theorem applyAll_run (h : AreApart rs) (hr : r ∈ rs) (hocc : occ.map fold = r.foldedWord)
    (hrun : ∀ c ∈ front ++ occ, isWordChar c = true) :
    applyAll rs (front ++ occ) = front ++ r.text.toList := by
  induction rs with
  | nil => cases hr
  | cons r' rs ih =>
    have hne' := h.ne_nil r' List.mem_cons_self
    by_cases hends : r'.foldedWord <:+ (front ++ occ).map fold
    · have heq :=
        eq_of_foldedWord_suffix h List.mem_cons_self hr hends (foldedWord_suffix front hocc)
      subst heq
      rw [applyAll_cons, applyFrom_run hne' _ _ hocc hrun]
      refine applyAll_run_of_endsInNone h.tail (append_text_isWordChar h hr hrun) ?_
      exact (List.forall_mem_cons.mp (endsInNone_append_text h hr front)).2
    · rw [applyAll_cons, applyFrom_run_of_not_suffix hne' hrun _ _ hends]
      refine ih h.tail ((List.mem_cons.mp hr).resolve_left fun heq => ?_)
      subst heq
      exact hends (foldedWord_suffix front hocc)

/-- A run becomes a run of word characters that ends in no word. -/
theorem applyAll_run_endsInNone (h : AreApart rs) (hrun : ∀ c ∈ run, isWordChar c = true) :
    (∀ c ∈ applyAll rs run, isWordChar c = true) ∧ EndsInNone rs (applyAll rs run) := by
  rcases endsInNone_or rs run with hnone | ⟨r, hr, front, occ, rfl, hocc⟩
  · rw [applyAll_run_of_endsInNone h hrun hnone]
    exact ⟨hrun, hnone⟩
  · rw [applyAll_run h hr hocc hrun]
    exact ⟨append_text_isWordChar h hr hrun, endsInNone_append_text h hr front⟩

/-! ## Texts -/

/-- **The order of the replacements does not matter.** -/
theorem applyAll_eq_of_mem_iff (h : AreApart rs) (hmem : ∀ r, r ∈ rs' ↔ r ∈ rs) (cs : List Char) :
    applyAll rs' cs = applyAll rs cs := by
  have h' : AreApart rs' := h.mono fun r hr => (hmem r).mp hr
  induction cs using wordRuns_induction with
  | run run hrun =>
    rcases endsInNone_or rs run with hnone | ⟨r, hr, front, occ, rfl, hocc⟩
    · rw [applyAll_run_of_endsInNone h hrun hnone]
      exact applyAll_run_of_endsInNone h' hrun fun r hr => hnone r ((hmem r).mp hr)
    · rw [applyAll_run h hr hocc hrun, applyAll_run h' ((hmem r).mpr hr) hocc hrun]
  | glue front k back hk hfront hback =>
    rw [applyAll_glue h.isWord hk, applyAll_glue h'.isWord hk, hfront, hback]

/-- **Rewriting again changes nothing.** -/
theorem applyAll_applyAll (h : AreApart rs) (cs : List Char) :
    applyAll rs (applyAll rs cs) = applyAll rs cs := by
  induction cs using wordRuns_induction with
  | run run hrun =>
    obtain ⟨hchars, hnone⟩ := applyAll_run_endsInNone h hrun
    exact applyAll_run_of_endsInNone h hchars hnone
  | glue front k back hk hfront hback =>
    rw [applyAll_glue h.isWord hk, applyAll_glue h.isWord hk, hfront, hback]

/-- A word that is in neither of two texts is not in them with another character in between. -/
theorem not_occursAt_glue {word : List Char} (hword : ∀ c ∈ word, isWordChar c = true) {k : Char}
    (hk : isWordChar k = false) {front back : List Char}
    (hfront : ∀ tail, tail <:+ front → occursAt word none tail = false)
    (hback : ∀ tail, tail <:+ back → occursAt word none tail = false) :
    ∀ tail, tail <:+ front ++ k :: back → occursAt word none tail = false := by
  intro tail htail
  induction front with
  | nil =>
    rw [List.nil_append, List.suffix_cons_iff] at htail
    rcases htail with rfl | htail
    · rw [← List.nil_append (k :: back), occursAt_glue hword hk]
      exact hfront [] List.nil_suffix
    · exact hback tail htail
  | cons c front ih =>
    rw [List.cons_append, List.suffix_cons_iff] at htail
    rcases htail with rfl | htail
    · rw [← List.cons_append, occursAt_glue hword hk]
      exact hfront _ (List.suffix_refl _)
    · exact ih (fun tail h => hfront tail (h.trans (List.suffix_cons _ _))) htail

/-- **No word is left at the end of a word.** -/
theorem not_occursAs_applyAll (h : AreApart rs) (hr : r ∈ rs) (cs : List Char) :
    ¬ OccursAs EndsAsWord r.word.toList (applyAll rs cs) := by
  have hne := h.ne_nil r hr
  suffices hnone : ∀ tail, tail <:+ applyAll rs cs → occursAt r.word.toList none tail = false by
    rintro ⟨front, occ, back, hcs, hocc, hborder⟩
    have hat : occursAt r.word.toList none (occ ++ back) = true :=
      (occursAt_iff hne).mpr ⟨occ, back, rfl, hocc, hborder⟩
    rw [hnone _ (hcs ▸ List.suffix_append _ _)] at hat
    cases hat
  induction cs using wordRuns_induction with
  | run run hrun =>
    intro tail htail
    obtain ⟨hchars, hnone⟩ := applyAll_run_endsInNone h hrun
    rw [Bool.eq_false_iff, ne_eq, occursAt_run hne fun c hc => hchars c (htail.subset hc)]
    intro heq
    have hsuffix : tail.map fold <:+ (applyAll rs run).map fold := htail.map fold
    rw [heq] at hsuffix
    exact hnone r hr hsuffix
  | glue front k back hk hfront hback =>
    rw [applyAll_glue h.isWord hk]
    exact not_occursAt_glue (h.isWord r hr) hk hfront hback

/-! ## What is kept -/

/-- Two rewritten texts with another character between them. -/
theorem Rewritten.glue (hne : ∀ r ∈ rs, r.word.toList ≠ []) (hword : ∀ r ∈ rs, r.IsWord)
    {k : Char} (hk : isWordChar k = false) {before : Option Char} {front back out out' : List Char}
    (hfront : Rewritten rs EndsAsWord before front out)
    (hback : Rewritten rs EndsAsWord (some k) back out') :
    Rewritten rs EndsAsWord before (front ++ k :: back) (out ++ k :: out') := by
  induction hfront with
  | @nil before =>
    refine .keep (fun r hr => (occursAt_eq_false_iff (hne r hr)).mp ?_) hback
    rw [← List.nil_append (k :: back), occursAt_glue (hword r hr) hk,
      occursAt_eq_false_iff (hne r hr)]
    intro occ more hnil hocc
    exact absurd (List.append_eq_nil_iff.mp hnil.symm).1 (ne_nil_of_map_fold (hne r hr) hocc)
  | @keep before c cs out hnone _ ih =>
    rw [List.cons_append, List.cons_append]
    refine .keep (fun r hr => (occursAt_eq_false_iff (hne r hr)).mp ?_) ih
    rw [← List.cons_append, occursAt_glue (hword r hr) hk, occursAt_eq_false_iff (hne r hr)]
    exact hnone r hr
  | @replace before occ cs out r hr hocc hborder _ ih =>
    rw [List.append_assoc, List.append_assoc]
    refine .replace hr hocc ?_ ih
    cases cs with
    | nil => exact (isBorder_of_not_isWordChar hk _).1.trans hborder
    | cons c cs => exact hborder

/-- The front of a run is kept where no word at the end of the run reaches into it. -/
theorem Rewritten.append (hne : ∀ r ∈ rs, r.word.toList ≠ []) {before : Option Char}
    {out : List Char} (hrun : ∀ c ∈ front ++ occ, isWordChar c = true)
    (hnone : ∀ r ∈ rs, r.foldedWord <:+ (front ++ occ).map fold → r.word.toList.length ≤ occ.length)
    (hocc : ∀ before, Rewritten rs EndsAsWord before occ out) :
    Rewritten rs EndsAsWord before (front ++ occ) (front ++ out) := by
  induction front generalizing before with
  | nil => exact hocc before
  | cons c front ih =>
    rw [List.cons_append, List.cons_append]
    refine .keep (fun r hr => (occursAt_eq_false_iff (hne r hr)).mp ?_)
      (ih (List.forall_mem_cons.mp hrun).2 fun r hr hsuffix =>
        hnone r hr (hsuffix.trans (List.suffix_cons _ _)))
    rw [Bool.eq_false_iff, ne_eq, ← List.cons_append, occursAt_run (hne r hr) hrun]
    intro heq
    have hlength := length_eq_of_map_fold heq
    have hshort := hnone r hr (heq ▸ List.suffix_refl _)
    simp only [List.length_append, List.length_cons] at hlength
    omega

/-- **Only words are rewritten**, where they end as words, and everything else is kept. -/
theorem rewritten_applyAll (h : AreApart rs) (before : Option Char) (cs : List Char) :
    Rewritten rs EndsAsWord before cs (applyAll rs cs) := by
  induction cs using wordRuns_induction generalizing before with
  | run run hrun =>
    rcases endsInNone_or rs run with hnone | ⟨r, hr, front, occ, rfl, hocc⟩
    · rw [applyAll_run_of_endsInNone h hrun hnone]
      rw [← List.append_nil run] at hrun hnone ⊢
      exact .append h.ne_nil hrun (fun r hr hsuffix => absurd hsuffix (hnone r hr)) fun _ => .nil
    · rw [applyAll_run h hr hocc hrun]
      refine .append h.ne_nil hrun (fun r' hr' hsuffix => ?_) fun before => ?_
      · rw [eq_of_foldedWord_suffix h hr' hr hsuffix (foldedWord_suffix front hocc)]
        exact Nat.le_of_eq (length_eq_of_map_fold hocc).symm
      · have hborder : EndsAsWord before occ [] := by
          have hoccChars := (List.forall_mem_append.mp hrun).2
          exact (isBorder_getLast?_iff (ne_nil_of_map_fold (h.ne_nil r hr) hocc) hoccChars).mpr rfl
        have hat : Rewritten rs EndsAsWord before (occ ++ []) (r.text.toList ++ []) :=
          .replace hr hocc hborder .nil
        rwa [List.append_nil, List.append_nil] at hat
  | glue front k back hk hfront hback =>
    rw [applyAll_glue h.isWord hk]
    exact .glue h.ne_nil h.isWord hk (hfront before) (hback (some k))

end Replacement

open Replacement

/-! ## Czech months -/

theorem Locale.czech_areApart : AreApart Locale.czech.replacements where
  ne_nil := by decide +kernel
  isWord := by decide +kernel
  text_isWordChar := by decide +kernel
  eq_of_suffix := by decide +kernel
  word_not_suffix := by decide +kernel
  text_not_suffix := by decide +kernel

/-- **Czech months are rewritten completely and in any order.** No nominative is left, in any
case, at the end of a word; rewriting again changes nothing; the order of the replacements does
not matter; and everything but the nominatives at the end of a word is kept as it is. -/
theorem replaceWords_czech (s : String) :
    (∀ r ∈ Locale.czech.replacements,
      ¬ OccursAs EndsAsWord r.word.toList (Locale.czech.replaceWords s).toList) ∧
    Locale.czech.replaceWords (Locale.czech.replaceWords s) = Locale.czech.replaceWords s ∧
    (∀ rs : List Replacement, rs.Perm Locale.czech.replacements →
      { Locale.czech with replacements := rs }.replaceWords s = Locale.czech.replaceWords s) ∧
    Rewritten Locale.czech.replacements EndsAsWord none s.toList
      (Locale.czech.replaceWords s).toList := by
  have h := Locale.czech_areApart
  refine ⟨fun r hr => ?_, String.toList_inj.mp ?_, fun rs hperm => String.toList_inj.mp ?_, ?_⟩
  · rw [toList_replaceWords]
    exact not_occursAs_applyAll h hr _
  · rw [toList_replaceWords, toList_replaceWords]
    exact applyAll_applyAll h _
  · rw [toList_replaceWords, toList_replaceWords]
    exact applyAll_eq_of_mem_iff h (fun r => hperm.mem_iff) _
  · rw [toList_replaceWords]
    exact rewritten_applyAll h none _

/-- Two months of which the one begins the other, with the last replacement made first. -/
theorem replaceWords_czech_reversed :
    let s := "ČERVEN, červenec"
    let forms := Locale.czech.replacements
    (⟨"červen", "června"⟩ : Replacement) ∈ forms ∧
      ¬ OccursAs EndsAsWord "červen".toList (Locale.czech.replaceWords s).toList ∧
      forms.reverse.Perm forms ∧
      { Locale.czech with replacements := forms.reverse }.replaceWords s = "června, července" ∧
      Rewritten forms EndsAsWord none s.toList "června, července".toList := by
  intro s forms
  have hmem : (⟨"červen", "června"⟩ : Replacement) ∈ forms := by decide
  have hout : Locale.czech.replaceWords s = "června, července" := by decide +kernel
  obtain ⟨hnone, -, horder, hrewritten⟩ := replaceWords_czech s
  refine ⟨hmem, hnone _ hmem, forms.reverse_perm, ?_, ?_⟩
  · rw [horder _ forms.reverse_perm, hout]
  · rwa [hout] at hrewritten

end Almanac
