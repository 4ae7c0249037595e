import Almanac.Proofs.Locale.WordRuns

/-!
# Whole words

What a replacement may rewrite is told by the place of a word in the text: the letters there, in
any case, and the characters beside them. A text is `Rewritten` to another one at a kind of place
when every word at such a place is replaced, from the left, and every other character is kept.

Replacing a word rewrites the places where it ends as a word (`rewritten_applyFrom`). These are
the places where it is a whole word, unless it is the end of a longer word (`replaceWords_whole`);
there the longer word is rewritten too (`replaceWords_end_of_longer_word`).
-/

namespace Almanac

open Text

namespace Replacement

/-! ## Places -/

/-- A kind of place in a text, by the character in front, the letters there and what follows. -/
abbrev Place : Type := Option Char → List Char → List Char → Prop

/-- The letters end at a border. -/
def EndsAsWord : Place := fun _ occ back => isBorder occ.getLast? back.head? = true

/-- No word character stands beside the letters. -/
def IsWhole : Place := fun before _ back =>
  before.any isWordChar = false ∧ back.head?.any isWordChar = false

/-- A word character stands in front of the letters and none behind them. -/
def EndsLongerWord : Place := fun before _ back =>
  before.any isWordChar = true ∧ back.head?.any isWordChar = false

instance (before : Option Char) (occ back : List Char) :
    Decidable (EndsAsWord before occ back) := inferInstanceAs (Decidable (_ = _))

instance (before : Option Char) (occ back : List Char) : Decidable (IsWhole before occ back) :=
  inferInstanceAs (Decidable (_ ∧ _))

instance (before : Option Char) (occ back : List Char) :
    Decidable (EndsLongerWord before occ back) := inferInstanceAs (Decidable (_ ∧ _))

/-- A word stands in the characters, in any case, at a place of a kind. -/
def OccursAs (place : Place) (word cs : List Char) : Prop :=
  ∃ front occ back, cs = front ++ (occ ++ back) ∧ occ.map fold = word.map fold ∧
    place front.getLast? occ back

/-- Occurrences of a word are found by going through the text. -/
theorem occursAs_iff_exists_cut {place : Place} {word cs : List Char} :
    OccursAs place word cs ↔ ∃ i < cs.length + 1,
      ((cs.drop i).take word.length).map fold = word.map fold ∧
        place (cs.take i).getLast? ((cs.drop i).take word.length)
          ((cs.drop i).drop word.length) := by
  constructor
  · rintro ⟨front, occ, back, rfl, hocc, hplace⟩
    refine ⟨front.length, by simp only [List.length_append]; omega, ?_⟩
    rw [List.drop_left, List.take_left, ← length_eq_of_map_fold hocc, List.take_left,
      List.drop_left]
    exact ⟨hocc, hplace⟩
  · rintro ⟨i, _, hocc, hplace⟩
    refine ⟨cs.take i, _, _, ?_, hocc, hplace⟩
    rw [List.take_append_drop, List.take_append_drop]

instance (place : Place) [∀ before occ back, Decidable (place before occ back)]
    (word cs : List Char) : Decidable (OccursAs place word cs) :=
  decidable_of_iff _ occursAs_iff_exists_cut.symm

/-- A word does not occur where its letters do not end as a word. -/
theorem occursAt_eq_false_iff {word : List Char} (hne : word ≠ []) {before : Option Char}
    {cs : List Char} :
    occursAt word before cs = false ↔ ∀ occ back, cs = occ ++ back →
      occ.map fold = word.map fold → ¬ EndsAsWord before occ back := by
  rw [Bool.eq_false_iff, ne_eq, occursAt_iff hne]
  constructor
  · exact fun h occ back hcs hocc hborder => h ⟨occ, back, hcs, hocc, hborder⟩
  · rintro h ⟨occ, back, hcs, hocc, hborder⟩
    exact h occ back hcs hocc hborder

/-! ## Rewritten texts -/

/-- A text with `before` in front of it, and the same with each word replaced that stands at a
place of a kind. Words are taken from the left and do not overlap. -/
inductive Rewritten (rs : List Replacement) (place : Place) :
    Option Char → List Char → List Char → Prop
  | nil {before : Option Char} : Rewritten rs place before [] []
  | keep {before : Option Char} {c : Char} {cs out : List Char}
      (hnone : ∀ r ∈ rs, ∀ occ back, c :: cs = occ ++ back →
        occ.map fold = r.word.toList.map fold → ¬ place before occ back)
      (hrest : Rewritten rs place (some c) cs out) : Rewritten rs place before (c :: cs) (c :: out)
  | replace {before : Option Char} {occ cs out : List Char} {r : Replacement} (hr : r ∈ rs)
      (hocc : occ.map fold = r.word.toList.map fold) (hplace : place before occ cs)
      (hrest : Rewritten rs place (occ.getLast?.or before) cs out) :
      Rewritten rs place before (occ ++ cs) (r.text.toList ++ out)

namespace Rewritten

variable {rs : List Replacement} {place place' : Place} {before : Option Char}
  {cs out : List Char}

theorem getLast?_append_or (front occ : List Char) (before : Option Char) :
    (occ ++ front).getLast?.or before = front.getLast?.or (occ.getLast?.or before) := by
  rw [List.getLast?_append, Option.or_assoc]

/-- Only the places of the words in the text matter. -/
theorem of_place (h : Rewritten rs place before cs out)
    (hplace : ∀ r ∈ rs, ∀ front occ back, cs = front ++ (occ ++ back) →
      occ.map fold = r.word.toList.map fold →
        (place (front.getLast?.or before) occ back ↔ place' (front.getLast?.or before) occ back)) :
    Rewritten rs place' before cs out := by
  induction h with
  | nil => exact .nil
  | @keep before c cs out hnone hrest ih =>
    refine .keep (fun r hr occ back hcs hocc => ?_) (ih fun r hr front occ back hcs hocc => ?_)
    · exact fun hat => hnone r hr occ back hcs hocc ((hplace r hr [] occ back hcs hocc).mpr hat)
    · have h := hplace r hr (c :: front) occ back (congrArg (c :: ·) hcs) hocc
      rwa [← List.singleton_append, getLast?_append_or] at h
  | @replace before occ cs out r hr hocc hat hrest ih =>
    refine .replace hr hocc ((hplace r hr [] occ cs rfl hocc).mp hat)
      (ih fun r' hr' front occ' back hcs hocc' => ?_)
    have h := hplace r' hr' (occ ++ front) occ' back (by rw [hcs, List.append_assoc]) hocc'
    rwa [getLast?_append_or] at h

/-- A text without a word at such a place stays as it is. -/
theorem eq_self (h : Rewritten rs place before cs out)
    (hnone : ∀ r ∈ rs, ∀ front occ back, cs = front ++ (occ ++ back) →
      occ.map fold = r.word.toList.map fold → ¬ place (front.getLast?.or before) occ back) :
    out = cs := by
  induction h with
  | nil => rfl
  | @keep before c cs out _ hrest ih =>
    rw [ih fun r hr front occ back hcs hocc => ?_]
    have h := hnone r hr (c :: front) occ back (congrArg (c :: ·) hcs) hocc
    rwa [← List.singleton_append, getLast?_append_or] at h
  | @replace before occ cs out r hr hocc hat => exact absurd hat (hnone r hr [] occ cs rfl hocc)

end Rewritten

/-- **Replacing a word rewrites it where it ends as a word**, and nothing else. -/
theorem rewritten_applyFrom {r : Replacement} (hne : r.word.toList ≠ []) (before : Option Char)
    (cs : List Char) :
    Rewritten [r] EndsAsWord before cs (applyFrom r.word.toList r.text.toList before cs) := by
  -- Where the word occurs, the text goes on behind all of it: the induction is on the length.
  induction hn : cs.length using Nat.strongRecOn generalizing before cs with
  | ind n ih =>
    subst hn
    cases cs with
    | nil =>
      rw [applyFrom_nil _ fun _ => hne]
      exact .nil
    | cons c rest =>
      cases hat : occursAt r.word.toList before (c :: rest) with
      | false =>
        rw [applyFrom_cons _ hat]
        refine .keep (fun r' hr' => ?_) (ih _ (Nat.lt_succ_self _) (some c) rest rfl)
        obtain rfl := List.mem_singleton.mp hr'
        exact (occursAt_eq_false_iff hne).mp hat
      | true =>
        obtain ⟨occ, back, hcs, hocc, hborder⟩ := (occursAt_iff hne).mp hat
        have hoccNe := ne_nil_of_map_fold hne hocc
        have hshorter : back.length < (c :: rest).length := by
          rw [hcs, List.length_append]
          exact Nat.lt_add_of_pos_left (List.length_pos_iff.mpr hoccNe)
        have hlast : occ.getLast?.or before = occ.getLast? := by
          rw [List.getLast?_eq_some_getLast hoccNe, Option.some_or]
        rw [hcs, applyFrom_append hne _ before hocc hborder, ← hlast]
        exact .replace List.mem_cons_self hocc hborder (ih _ hshorter _ back rfl)

/-- Where the word is not the end of a longer one, it ends as a word just when it is whole. -/
theorem endsAsWord_iff_isWhole {word : List Char} (hne : word ≠ [])
    (hword : ∀ c ∈ word, isWordChar c = true) {cs : List Char}
    (hlonger : ¬ OccursAs EndsLongerWord word cs) {front occ back : List Char}
    (hcs : cs = front ++ (occ ++ back)) (hocc : occ.map fold = word.map fold) :
    EndsAsWord front.getLast? occ back ↔ IsWhole front.getLast? occ back := by
  have hends : EndsAsWord front.getLast? occ back ↔ back.head?.any isWordChar = false :=
    isBorder_getLast?_iff (ne_nil_of_map_fold hne hocc) (isWordChar_of_map_fold hword hocc)
  rw [hends, IsWhole]
  constructor
  · intro hback
    refine ⟨Bool.eq_false_iff.mpr fun hfront => ?_, hback⟩
    exact hlonger ⟨front, occ, back, hcs, hocc, hfront, hback⟩
  · exact And.right

end Replacement

open Replacement

theorem toList_replaceWords_withReplacements (locale : Locale) (r : Replacement) (s : String) :
    ((locale.withReplacements [r]).replaceWords s).toList =
      applyFrom r.word.toList r.text.toList none (locale.replaceWords s).toList := by
  rw [toList_replaceWords, toList_replaceWords, Locale.withReplacements, applyAll_append]
  rfl

/-- **A word is rewritten where it is a whole word**, as long as it is not the end of a longer
word anywhere, and where it stands only within longer words the text stays as it is. -/
theorem replaceWords_whole (locale : Locale) {r : Replacement} (hne : r.word.toList ≠ [])
    (hword : r.IsWord) {s : String}
    (hlonger : ¬ OccursAs EndsLongerWord r.word.toList (locale.replaceWords s).toList) :
    Rewritten [r] IsWhole none (locale.replaceWords s).toList
        ((locale.withReplacements [r]).replaceWords s).toList ∧
      (¬ OccursAs IsWhole r.word.toList (locale.replaceWords s).toList →
        (locale.withReplacements [r]).replaceWords s = locale.replaceWords s) := by
  have hwhole : Rewritten [r] IsWhole none (locale.replaceWords s).toList
      ((locale.withReplacements [r]).replaceWords s).toList := by
    rw [toList_replaceWords_withReplacements]
    refine (rewritten_applyFrom hne none _).of_place fun r' hr' front occ back hcs hocc => ?_
    obtain rfl := List.mem_singleton.mp hr'
    rw [Option.or_none]
    exact endsAsWord_iff_isWhole hne hword hlonger hcs hocc
  refine ⟨hwhole, fun hnone => String.toList_inj.mp (hwhole.eq_self ?_)⟩
  intro r' hr' front occ back hcs hocc hat
  obtain rfl := List.mem_singleton.mp hr'
  rw [Option.or_none] at hat
  exact hnone ⟨front, occ, back, hcs, hocc, hat⟩

/-- A word as a whole, in two cases, and as the beginning of a longer one. -/
theorem replaceWords_whole_month :
    let r : Replacement := ⟨"červen", "června"⟩
    let s := "červen, červenec, ČERVEN"
    r.word.toList ≠ [] ∧ r.IsWord ∧
      ¬ OccursAs EndsLongerWord r.word.toList (Locale.english.replaceWords s).toList ∧
      Rewritten [r] IsWhole none (Locale.english.replaceWords s).toList
        ((Locale.english.withReplacements [r]).replaceWords s).toList ∧
      (Locale.english.withReplacements [r]).replaceWords s = "června, červenec, června" := by
  intro r s
  have hne : r.word.toList ≠ [] := by decide
  have hword : r.IsWord := by decide +kernel
  have hlonger : ¬ OccursAs EndsLongerWord r.word.toList
      (Locale.english.replaceWords s).toList := by decide +kernel
  exact ⟨hne, hword, hlonger, (replaceWords_whole Locale.english hne hword hlonger).1,
    by decide +kernel⟩

/-- A word that is only the end of a longer one is rewritten with it. -/
theorem replaceWords_end_of_longer_word :
    let r : Replacement := ⟨"červen", "června"⟩
    r.IsWord ∧ ¬ OccursAs IsWhole r.word.toList "předčerven 2023".toList ∧
      (Locale.english.withReplacements [r]).replaceWords "předčerven 2023" = "předčervna 2023" := by
  decide +kernel

end Almanac
