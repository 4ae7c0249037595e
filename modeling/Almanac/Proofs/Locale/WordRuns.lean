import Almanac.Locale.Basic
import Almanac.Proofs.Text.Characters

/-!
# Replacing words between other characters

A character of which no word is made keeps the replacements on its two sides apart
(`applyFrom_glue`, `applyAll_glue`). What replacing words does to a text is therefore what it does
to the runs of word characters in it (`wordRuns_induction`). In such a run a word ends as a word
at the end of the run only (`occursAt_run`), and so at most the end of a run is rewritten
(`applyFrom_run`, `applyFrom_run_of_not_suffix`).
-/

namespace Almanac

open Text

/-- The words of a replacement are made of word characters. -/
def Replacement.IsWord (r : Replacement) : Prop := ∀ c ∈ r.word.toList, isWordChar c = true

instance (r : Replacement) : Decidable r.IsWord :=
  inferInstanceAs (Decidable (∀ c ∈ r.word.toList, isWordChar c = true))

namespace Replacement

/-! ## Where a word occurs -/

theorem sameFold_eq_false {w k : Char} (hw : isWordChar w = true) (hk : isWordChar k = false) :
    sameFold w k = false := by
  rw [sameFold, beq_eq_false_iff_ne]
  intro h
  rw [isWordChar_eq_of_fold_eq h, hk] at hw
  cases hw

/-- Letters in another case are word characters where the letters of the word are. -/
theorem isWordChar_of_map_fold {word occ : List Char} (hword : ∀ c ∈ word, isWordChar c = true)
    (h : occ.map fold = word.map fold) : ∀ c ∈ occ, isWordChar c = true := by
  intro c hc
  have hmem : fold c ∈ word.map fold := h ▸ List.mem_map_of_mem hc
  obtain ⟨w, hw, hfold⟩ := List.mem_map.mp hmem
  rw [← isWordChar_eq_of_fold_eq hfold]
  exact hword w hw

theorem ne_nil_of_map_fold {word occ : List Char} (hne : word ≠ [])
    (h : occ.map fold = word.map fold) : occ ≠ [] := by
  rintro rfl
  exact hne (List.map_eq_nil_iff.mp h.symm)

theorem length_eq_of_map_fold {word occ : List Char} (h : occ.map fold = word.map fold) :
    occ.length = word.length := by
  rw [← List.length_map (f := fold), h, List.length_map]

/-- Word characters end at a border when no word character follows. -/
theorem isBorder_getLast?_iff {occ : List Char} (hne : occ ≠ [])
    (hocc : ∀ c ∈ occ, isWordChar c = true) {next : Option Char} :
    isBorder occ.getLast? next = true ↔ next.any isWordChar = false := by
  have hlast : isWordChar (occ.getLast hne) = true := hocc _ (List.getLast_mem hne)
  rw [isBorder, List.getLast?_eq_some_getLast hne, Option.any_some, hlast]
  cases next.any isWordChar <;> decide

theorem beginsWord_iff {word cs : List Char} :
    beginsWord word cs = true ↔
      ∃ occ back, cs = occ ++ back ∧ occ.map fold = word.map fold := by
  induction word generalizing cs with
  | nil => simp [beginsWord]
  | cons w word ih =>
    cases cs with
    | nil => simp [beginsWord]
    | cons c cs =>
      rw [beginsWord, Bool.and_eq_true, sameFold, beq_iff_eq, ih]
      constructor
      · rintro ⟨hfold, occ, back, rfl, hocc⟩
        exact ⟨c :: occ, back, rfl, by rw [List.map_cons, List.map_cons, hfold, hocc]⟩
      · rintro ⟨occ, back, hcs, hocc⟩
        cases occ with
        | nil => cases hocc
        | cons c' occ =>
          obtain ⟨rfl, rfl⟩ := List.cons_eq_cons.mp hcs
          rw [List.map_cons, List.map_cons, List.cons_eq_cons] at hocc
          exact ⟨hocc.1.symm, occ, back, rfl, hocc.2⟩

/-- A word occurs where its letters stand, in any case, and end at a border. -/
theorem occursAt_iff {word : List Char} (hne : word ≠ []) {before : Option Char}
    {cs : List Char} :
    occursAt word before cs = true ↔ ∃ occ back, cs = occ ++ back ∧
      occ.map fold = word.map fold ∧ isBorder occ.getLast? back.head? = true := by
  have hcut {occ back : List Char} (hocc : occ.map fold = word.map fold) :
      isBorder (((occ ++ back).take word.length).getLast?.or before)
        ((occ ++ back).drop word.length).head? = isBorder occ.getLast? back.head? := by
    rw [← length_eq_of_map_fold hocc, List.take_left, List.drop_left,
      List.getLast?_eq_some_getLast (ne_nil_of_map_fold hne hocc), Option.some_or]
  rw [occursAt, Bool.and_eq_true, beginsWord_iff]
  constructor
  · rintro ⟨⟨occ, back, rfl, hocc⟩, hborder⟩
    exact ⟨occ, back, rfl, hocc, hcut hocc ▸ hborder⟩
  · rintro ⟨occ, back, rfl, hocc, hborder⟩
    exact ⟨⟨occ, back, rfl, hocc⟩, (hcut hocc).symm ▸ hborder⟩

/-- An occurrence is replaced, and the text goes on behind it. -/
theorem applyFrom_append {word : List Char} (hne : word ≠ []) (text : List Char)
    (before : Option Char) {occ back : List Char} (hocc : occ.map fold = word.map fold)
    (hborder : isBorder occ.getLast? back.head? = true) :
    applyFrom word text before (occ ++ back) = text ++ applyFrom word text occ.getLast? back := by
  have hat : occursAt word before (occ ++ back) = true :=
    (occursAt_iff hne).mpr ⟨occ, back, rfl, hocc, hborder⟩
  have hlength := length_eq_of_map_fold hocc
  cases occ with
  | nil => exact absurd rfl (ne_nil_of_map_fold hne hocc)
  | cons c occ =>
    rw [List.cons_append] at hat ⊢
    rw [applyFrom, hat, if_pos rfl, List.isEmpty_eq_false_iff.mpr hne, if_neg Bool.false_ne_true,
      ← hlength, List.length_cons, Nat.add_sub_cancel, List.drop_left, ← List.length_cons (a := c),
      ← List.cons_append, List.take_left]

/-- A character at which the word does not occur is kept. -/
theorem applyFrom_cons {word : List Char} (text : List Char) {before : Option Char} {c : Char}
    {cs : List Char} (h : occursAt word before (c :: cs) = false) :
    applyFrom word text before (c :: cs) = c :: applyFrom word text (some c) cs := by
  rw [applyFrom, h]
  rfl

/-- Only the empty word is found at the end of a text, and only at a border. -/
theorem applyFrom_nil {word : List Char} (text : List Char) {before : Option Char}
    (h : isBorder before none = true → word ≠ []) : applyFrom word text before [] = [] := by
  rw [applyFrom]
  cases word with
  | nil =>
    have hnone : isBorder before none = false := Bool.eq_false_iff.mpr fun hb => h hb rfl
    simp [occursAt, hnone]
  | cons w word => rfl

/-! ## Between other characters -/

theorem isBorder_of_not_isWordChar {k : Char} (hk : isWordChar k = false) (c : Option Char) :
    isBorder c (some k) = isBorder c none ∧ isBorder (some k) c = isBorder none c := by
  simp [isBorder, hk]

section Glue

variable {word : List Char} (hword : ∀ c ∈ word, isWordChar c = true) {k : Char}
  (hk : isWordChar k = false)
include hk

theorem occursAt_behind (word : List Char) (cs : List Char) :
    occursAt word (some k) cs = occursAt word none cs := by
  rw [occursAt, occursAt]
  cases (cs.take word.length).getLast? with
  | some c => rfl
  | none => rw [Option.none_or, Option.none_or, (isBorder_of_not_isWordChar hk _).2]

theorem applyFrom_behind (word text : List Char) (cs : List Char) :
    applyFrom word text (some k) cs = applyFrom word text none cs := by
  rw [applyFrom.eq_def, applyFrom.eq_def word text none]
  cases cs with
  | nil => simp only [occursAt_behind hk]
  | cons c cs => simp only [occursAt_behind hk]

include hword

theorem beginsWord_glue (front back : List Char) :
    beginsWord word (front ++ k :: back) = beginsWord word front := by
  induction word generalizing front with
  | nil => rfl
  | cons w word ih =>
    obtain ⟨hw, hword⟩ := List.forall_mem_cons.mp hword
    cases front with
    | nil => rw [List.nil_append, beginsWord, beginsWord, sameFold_eq_false hw hk, Bool.false_and]
    | cons c front => rw [List.cons_append, beginsWord, beginsWord, ih hword]

omit hk in
theorem length_le_of_beginsWord {cs : List Char} (h : beginsWord word cs = true) :
    word.length ≤ cs.length := by
  induction word generalizing cs with
  | nil => exact Nat.zero_le _
  | cons w word ih =>
    cases cs with
    | nil => cases h
    | cons c cs =>
      rw [beginsWord, Bool.and_eq_true] at h
      exact Nat.succ_le_succ (ih (List.forall_mem_cons.mp hword).2 h.2)

theorem occursAt_glue (before : Option Char) (front back : List Char) :
    occursAt word before (front ++ k :: back) = occursAt word before front := by
  rw [occursAt, occursAt, beginsWord_glue hword hk]
  cases hbegins : beginsWord word front with
  | false => rfl
  | true =>
    have hlength := length_le_of_beginsWord hword hbegins
    have hborder : isBorder ((front.take word.length).getLast?.or before)
        (front.drop word.length ++ k :: back).head? =
          isBorder ((front.take word.length).getLast?.or before)
            (front.drop word.length).head? := by
      cases front.drop word.length with
      | nil => exact (isBorder_of_not_isWordChar hk _).1
      | cons c rest => rfl
    rw [List.take_append_of_le_length hlength, List.drop_append_of_le_length hlength, hborder]

/-- A character of which no word is made keeps replacements apart. -/
theorem applyFrom_glue (text : List Char) (before : Option Char) (front back : List Char) :
    applyFrom word text before (front ++ k :: back) =
      applyFrom word text before front ++ k :: applyFrom word text none back := by
  -- Where the word occurs, the text goes on behind all of it: the induction is on the length.
  induction hn : front.length using Nat.strongRecOn generalizing before front with
  | ind n ih =>
    subst hn
    cases front with
    | nil =>
      have hoccurs := occursAt_glue hword hk before [] back
      rw [List.nil_append] at hoccurs ⊢
      rw [applyFrom, applyFrom, hoccurs, applyFrom_behind hk]
      cases word with
      | nil => cases occursAt [] before [] <;> simp
      | cons w word => simp [occursAt, beginsWord]
    | cons c front =>
      have hoccurs := occursAt_glue hword hk before (c :: front) back
      have hrest : ∀ before, applyFrom word text before (front ++ k :: back) =
          applyFrom word text before front ++ k :: applyFrom word text none back :=
        fun before => ih front.length (Nat.lt_succ_self _) before front rfl
      rw [List.cons_append] at hoccurs ⊢
      rw [applyFrom, applyFrom, hoccurs]
      cases hat : occursAt word before (c :: front) with
      | false => simp [hrest]
      | true =>
        rw [if_pos rfl, if_pos rfl]
        cases word with
        | nil => simp [hrest]
        | cons w word =>
          have hbegins : beginsWord (w :: word) (c :: front) = true := by
            rw [occursAt, Bool.and_eq_true] at hat
            exact hat.1
          have hlength : word.length ≤ front.length :=
            Nat.le_of_succ_le_succ (length_le_of_beginsWord hword hbegins)
          have htake : (c :: (front ++ k :: back)).take (word.length + 1) =
              (c :: front).take (word.length + 1) := by
            rw [← List.cons_append, List.take_append_of_le_length (Nat.succ_le_succ hlength)]
          have hshorter : (front.drop word.length).length < (c :: front).length := by
            simp only [List.length_drop, List.length_cons]
            omega
          simp only [List.isEmpty_cons, Bool.false_eq_true, if_false, List.length_cons, htake,
            Nat.add_sub_cancel, List.drop_append_of_le_length hlength]
          rw [ih _ hshorter _ _ rfl, List.append_assoc]

end Glue

/-! ## Several replacements -/

/-- The characters with the words of several replacements replaced, one after the other. -/
def applyAll (replacements : List Replacement) (cs : List Char) : List Char :=
  replacements.foldl (fun cs r => applyFrom r.word.toList r.text.toList none cs) cs

theorem applyAll_cons (r : Replacement) (replacements : List Replacement) (cs : List Char) :
    applyAll (r :: replacements) cs =
      applyAll replacements (applyFrom r.word.toList r.text.toList none cs) := rfl

theorem applyAll_append (front back : List Replacement) (cs : List Char) :
    applyAll (front ++ back) cs = applyAll back (applyAll front cs) := List.foldl_append

theorem applyAll_glue {replacements : List Replacement} (h : ∀ r ∈ replacements, r.IsWord)
    {k : Char} (hk : isWordChar k = false) (front back : List Char) :
    applyAll replacements (front ++ k :: back) =
      applyAll replacements front ++ k :: applyAll replacements back := by
  induction replacements generalizing front back with
  | nil => rfl
  | cons r replacements ih =>
    obtain ⟨hr, hrest⟩ := List.forall_mem_cons.mp h
    rw [applyAll_cons, applyFrom_glue hr hk, ih hrest]
    rfl

end Replacement

theorem toList_replaceWords (locale : Locale) (s : String) :
    (locale.replaceWords s).toList = Replacement.applyAll locale.replacements s.toList := by
  rw [Locale.replaceWords]
  generalize locale.replacements = replacements
  induction replacements generalizing s with
  | nil => rfl
  | cons r replacements ih =>
    rw [List.foldl_cons, ih, Replacement.apply, String.toList_ofList, Replacement.applyAll_cons]

namespace Replacement

/-! ## Runs of word characters -/

/-- What is true of runs of word characters, and of two texts with another character between
them where it is true of the two, is true of every text. -/
theorem wordRuns_induction {motive : List Char → Prop}
    (run : ∀ run, (∀ c ∈ run, isWordChar c = true) → motive run)
    (glue : ∀ front k back, isWordChar k = false → motive front → motive back →
      motive (front ++ k :: back)) (cs : List Char) : motive cs := by
  suffices h : ∀ front, (∀ c ∈ front, isWordChar c = true) → motive (front ++ cs) from
    h [] (List.forall_mem_nil _)
  induction cs with
  | nil =>
    intro front hfront
    rw [List.append_nil]
    exact run front hfront
  | cons c cs ih =>
    intro front hfront
    cases hc : isWordChar c with
    | false => exact glue front c cs hc (run front hfront) (ih [] (List.forall_mem_nil _))
    | true =>
      have hmore : ∀ d ∈ front ++ [c], isWordChar d = true :=
        List.forall_mem_append.mpr ⟨hfront, List.forall_mem_singleton.mpr hc⟩
      have hmotive := ih (front ++ [c]) hmore
      rwa [List.append_assoc, List.singleton_append] at hmotive

section Run

variable {word run : List Char} (hne : word ≠ []) (hrun : ∀ c ∈ run, isWordChar c = true)
include hne hrun

/-- In a run of word characters a word ends as a word at the end of the run only. -/
theorem occursAt_run (before : Option Char) :
    occursAt word before run = true ↔ run.map fold = word.map fold := by
  rw [occursAt_iff hne]
  constructor
  · rintro ⟨occ, back, rfl, hocc, hborder⟩
    obtain ⟨hoccChars, hbackChars⟩ := List.forall_mem_append.mp hrun
    rw [isBorder_getLast?_iff (ne_nil_of_map_fold hne hocc) hoccChars] at hborder
    cases back with
    | nil => rwa [List.append_nil]
    | cons c back =>
      have hnext : isWordChar c = true := hbackChars c List.mem_cons_self
      rw [List.head?_cons, Option.any_some, hnext] at hborder
      cases hborder
  · intro h
    refine ⟨run, [], (List.append_nil run).symm, h, ?_⟩
    exact (isBorder_getLast?_iff (ne_nil_of_map_fold hne h) hrun).mpr rfl

theorem applyFrom_run_of_not_suffix (text : List Char) (before : Option Char)
    (h : ¬ word.map fold <:+ run.map fold) : applyFrom word text before run = run := by
  induction run generalizing before with
  | nil => exact applyFrom_nil text fun _ => hne
  | cons c run ih =>
    have hnone : occursAt word before (c :: run) = false := by
      rw [Bool.eq_false_iff, ne_eq, occursAt_run hne hrun]
      exact fun heq => h (heq ▸ List.suffix_refl _)
    have hrest : ¬ word.map fold <:+ run.map fold := fun hsuffix =>
      h (hsuffix.trans (List.suffix_cons _ _))
    rw [applyFrom_cons text hnone, ih (List.forall_mem_cons.mp hrun).2 _ hrest]

end Run

/-- The end of a run is rewritten, and what stands before it is kept. -/
theorem applyFrom_run {word : List Char} (hne : word ≠ []) (text : List Char)
    (before : Option Char) {front occ : List Char} (hocc : occ.map fold = word.map fold)
    (hrun : ∀ c ∈ front ++ occ, isWordChar c = true) :
    applyFrom word text before (front ++ occ) = front ++ text := by
  induction front generalizing before with
  | nil =>
    have hoccNe := ne_nil_of_map_fold hne hocc
    have hborder : isBorder occ.getLast? none = true := (isBorder_getLast?_iff hoccNe hrun).mpr rfl
    have hcut : applyFrom word text before (occ ++ []) =
        text ++ applyFrom word text occ.getLast? [] := applyFrom_append hne text before hocc hborder
    rwa [List.append_nil, applyFrom_nil text fun _ => hne, List.append_nil] at hcut
  | cons c front ih =>
    have hnone : occursAt word before (c :: front ++ occ) = false := by
      rw [Bool.eq_false_iff, ne_eq, occursAt_run hne hrun]
      intro heq
      have hlong := length_eq_of_map_fold (heq.trans hocc.symm)
      simp only [List.length_append, List.length_cons] at hlong
      omega
    rw [List.cons_append] at hnone ⊢
    rw [applyFrom_cons text hnone, ih _ (List.forall_mem_cons.mp hrun).2]
    rfl

end Replacement

end Almanac
