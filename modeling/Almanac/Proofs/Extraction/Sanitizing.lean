import Almanac.Proofs.Event.CleanValues
import Almanac.Proofs.Text.TightPieces

/-!
# Sanitizing and cutting

Cleaning a text makes its spaces plain and takes the white space at its ends away
(`isCleaned_iff`), which a second time changes nothing. What a list of texts is sanitized to is
told by its members and their order alone (`isSanitized_iff`). Sanitizing goes through the list
once and keeps of each text what is new (`foldl_keepNew`): so it does not matter whether a part
of the list was sanitized before (`sanitize_sanitize_append`, `sanitize_append_sanitize`).

Cutting a text at a separator gives pieces without it that make the text when they are joined by it
(`isCut_splitText`), at least one for each text, so that there are no fewer than before.
-/

namespace Almanac.Extraction

open Text

/-! ## Cleaning -/

/-- A space that does not break as a plain one. -/
def plainSpace (c : Char) : Char := if c = '\u00a0' then ' ' else c

/-- The text is the value with plain spaces and without the white space at its ends. -/
def IsCleaned (value text : String) : Prop :=
  ∃ before after, value.toList.map plainSpace = before ++ text.toList ++ after ∧
    (∀ c ∈ before, isBlank c = true) ∧ (∀ c ∈ after, isBlank c = true) ∧ NoBlankEnds text.toList

theorem toList_clean (value : String) :
    (clean value).toList = trimChars (value.toList.map plainSpace) :=
  String.toList_ofList

/-- A text is a value cleaned just when cleaning gives it. -/
theorem isCleaned_iff {value text : String} : IsCleaned value text ↔ clean value = text := by
  constructor
  · rintro ⟨before, after, hvalue, hbefore, hafter, hends⟩
    rw [← String.toList_inj, toList_clean, hvalue]
    exact hends.trimChars_surrounded hbefore hafter
  · rintro rfl
    obtain ⟨before, after, hvalue, hbefore, hafter⟩ := exists_trimChars (value.toList.map plainSpace)
    refine ⟨before, after, ?_, hbefore, hafter, ?_⟩
    · rwa [toList_clean]
    · rw [toList_clean]
      exact noBlankEnds_trimChars _

theorem isBlank_plainSpace (c : Char) : isBlank (plainSpace c) = isBlank c := by
  unfold plainSpace
  split
  · next h => rw [h]; rfl
  · rfl

/-- Nothing is left of a value of white space only. -/
theorem clean_ne_empty_iff {value : String} :
    clean value ≠ "" ↔ ∃ c ∈ value.toList, isBlank c = false := by
  rw [Ne, ← String.toList_inj, toList_clean, String.toList_empty, trimChars_eq_nil_iff]
  simp [isBlank_plainSpace]

/-- A text with plain spaces and none at its ends is clean. -/
theorem clean_eq_self {text : String} (hplain : '\u00a0' ∉ text.toList)
    (hends : NoBlankEnds text.toList) : clean text = text := by
  have hsame : text.toList.map plainSpace = text.toList := by
    refine (List.map_congr_left fun c hc => ?_).trans (List.map_id _)
    exact if_neg fun h : c = '\u00a0' => hplain (h ▸ hc)
  refine isCleaned_iff.mp ⟨[], [], ?_, nofun, nofun, hends⟩
  rw [hsame, List.nil_append, List.append_nil]

theorem clean_clean (value : String) : clean (clean value) = clean value := by
  refine clean_eq_self (hard_space_not_mem_clean value) ?_
  rw [toList_clean]
  exact noBlankEnds_trimChars _

/-! ## Sanitizing -/

/-- Whether a cleaned value is neither empty nor to be ignored. -/
def isKept (ignored : List String) (text : String) : Bool :=
  !text.isEmpty && !ignored.contains text

/-- The cleaned values that are kept, with their repetitions. -/
def cleanTexts (ignored values : List String) : List String :=
  (values.map clean).filter (isKept ignored)

variable {ignored values texts : List String}

theorem isKept_iff {text : String} : isKept ignored text = true ↔ text ≠ "" ∧ text ∉ ignored := by
  simp [isKept]

theorem sanitize_eq (ignored values : List String) :
    sanitize ignored values = (cleanTexts ignored values).eraseDups := rfl

theorem cleanTexts_append (ignored front back : List String) :
    cleanTexts ignored (front ++ back) = cleanTexts ignored front ++ cleanTexts ignored back := by
  rw [cleanTexts, List.map_append, List.filter_append]
  rfl

/-- Cleaning and choosing again leaves sanitized texts as they are. -/
theorem cleanTexts_sanitize (ignored values : List String) :
    cleanTexts ignored (sanitize ignored values) = sanitize ignored values := by
  have hclean : (sanitize ignored values).map clean = sanitize ignored values := by
    refine (List.map_congr_left fun text htext => ?_).trans (List.map_id _)
    obtain ⟨⟨value, -, rfl⟩, -⟩ := mem_sanitize htext
    exact clean_clean value
  rw [cleanTexts, hclean, List.filter_eq_self]
  exact fun text htext => isKept_iff.mpr (mem_sanitize htext).2

theorem sanitize_sanitize (ignored values : List String) :
    sanitize ignored (sanitize ignored values) = sanitize ignored values := by
  rw [sanitize_eq, cleanTexts_sanitize]
  exact eraseDups_eq_self (nodup_eraseDups _)

/-! ### What the texts are -/

/-- The texts that values are to be sanitized to: those that a value is when it is cleaned which is
not all white space, but for those to be ignored, in the order in which they come first. -/
structure IsSanitized (ignored values texts : List String) : Prop where
  mem_iff : ∀ text, text ∈ texts ↔ text ∉ ignored ∧
    ∃ value ∈ values, IsCleaned value text ∧ ∃ c ∈ value.toList, isBlank c = false
  /-- Each is there once, as no place is before itself. -/
  ordered : texts.Pairwise fun text text' =>
    (values.map clean).idxOf text < (values.map clean).idxOf text'

/-- Sanitizing meets the specification. -/
theorem isSanitized_sanitize (ignored values : List String) :
    IsSanitized ignored values (sanitize ignored values) where
  mem_iff text := by
    rw [sanitize_eq, List.mem_eraseDups, cleanTexts, List.mem_filter, isKept_iff, List.mem_map]
    constructor
    · rintro ⟨⟨value, hvalue, rfl⟩, hne, hignored⟩
      exact ⟨hignored, value, hvalue, isCleaned_iff.mpr rfl, clean_ne_empty_iff.mp hne⟩
    · rintro ⟨hignored, value, hvalue, hclean, hsolid⟩
      obtain rfl := isCleaned_iff.mp hclean
      exact ⟨⟨value, hvalue, rfl⟩, clean_ne_empty_iff.mpr hsolid, hignored⟩
  ordered := by
    refine (pairwise_idxOf_eraseDups (cleanTexts ignored values)).imp_of_mem ?_
    intro text text' htext htext' hlt
    have hkept := (List.mem_filter.mp (List.mem_eraseDups.mp htext)).2
    have hkept' := (List.mem_filter.mp (List.mem_eraseDups.mp htext')).2
    exact @idxOf_lt_of_filter String _ _ (isKept ignored) text text' hkept hkept' _ hlt

theorem IsSanitized.nodup (h : IsSanitized ignored values texts) : texts.Nodup :=
  h.ordered.imp fun {text text'} hlt (heq : text = text') => by
    rw [heq] at hlt
    exact Nat.lt_irrefl _ hlt

/-- The specification leaves one list. -/
theorem IsSanitized.unique {texts' : List String} (h : IsSanitized ignored values texts)
    (h' : IsSanitized ignored values texts') : texts = texts' := by
  have hmem : ∀ text, text ∈ texts ↔ text ∈ texts' :=
    fun text => (h.mem_iff text).trans (h'.mem_iff text).symm
  have hperm : texts.Perm texts' := (List.perm_ext_iff_of_nodup h.nodup h'.nodup).mpr hmem
  exact hperm.eq_of_pairwise (fun _ _ _ _ hlt hgt => absurd hgt (Nat.lt_asymm hlt))
    h.ordered h'.ordered

theorem isSanitized_iff : IsSanitized ignored values texts ↔ sanitize ignored values = texts := by
  constructor
  · exact (isSanitized_sanitize ignored values).unique
  · rintro rfl
    exact isSanitized_sanitize ignored values

/-! ### Going through the values -/

/-- The texts that are kept when one more value is looked at. -/
def keepNew (ignored kept : List String) (value : String) : List String :=
  let text := clean value
  if text.isEmpty || ignored.contains text then kept
  else if kept.contains text then kept
  else kept ++ [text]

/-- A value adds what it is cleaned to, if that is kept and new. -/
theorem keepNew_eq (ignored kept : List String) (value : String) :
    keepNew ignored kept value =
      kept ++ (cleanTexts ignored [value]).filter fun text => !kept.contains text := by
  unfold keepNew cleanTexts isKept
  by_cases hempty : clean value = ""
  · simp [hempty]
  · by_cases hignored : clean value ∈ ignored
    · simp [hignored]
    · by_cases hseen : clean value ∈ kept <;> simp [hempty, hignored, hseen]

/-- One more value is looked at in the light of what is kept of those before it. -/
theorem keepNew_sanitize (ignored values : List String) (value : String) :
    keepNew ignored (sanitize ignored values) value = sanitize ignored (values ++ [value]) := by
  have hone : (cleanTexts ignored [value]).eraseDups = cleanTexts ignored [value] := by
    refine eraseDups_eq_self (List.Sublist.nodup List.filter_sublist ?_)
    exact List.nodup_singleton (clean value)
  rw [keepNew_eq, sanitize_eq _ (values ++ [value]), cleanTexts_append, eraseDups_append_eq, hone,
    sanitize_eq]

/-- Looking at more values one after the other gives what all of them are sanitized to. -/
theorem foldl_keepNew (ignored values more : List String) :
    more.foldl (keepNew ignored) (sanitize ignored values) = sanitize ignored (values ++ more) := by
  induction more generalizing values with
  | nil => rw [List.foldl_nil, List.append_nil]
  | cons value more ih =>
    rw [List.foldl_cons, keepNew_sanitize, ih, List.append_assoc, List.singleton_append]

/-- Sanitizing the front beforehand changes nothing. -/
theorem sanitize_sanitize_append (ignored front back : List String) :
    sanitize ignored (sanitize ignored front ++ back) = sanitize ignored (front ++ back) := by
  rw [← foldl_keepNew, sanitize_sanitize, foldl_keepNew]

/-- Sanitizing the back beforehand changes nothing. -/
theorem sanitize_append_sanitize (ignored front back : List String) :
    sanitize ignored (front ++ sanitize ignored back) = sanitize ignored (front ++ back) := by
  rw [sanitize_eq, sanitize_eq _ (front ++ back), cleanTexts_append, cleanTexts_append,
    cleanTexts_sanitize]
  exact SameFirsts.append_eraseDups _ _

/-! ## Cutting -/

/-- The pieces make the value when they are joined by the separator, and none of them has it. -/
structure IsCut (separator value : String) (pieces : List String) : Prop where
  ne_nil : pieces ≠ []
  join_eq : join separator pieces = value
  separator_free : ∀ piece ∈ pieces, containsText piece separator = false

theorem isCut_splitText {separator : String} (hs : separator ≠ "") (value : String) :
    IsCut separator value (splitText separator value) where
  ne_nil h := splitAll_ne_nil _ _ (List.map_eq_nil_iff.mp h)
  join_eq := by
    have hback : ((splitAll separator.toList value.toList).map String.ofList).map String.toList =
        splitAll separator.toList value.toList := by
      rw [List.map_map]
      exact (List.map_congr_left fun part _ => String.toList_ofList).trans (List.map_id _)
    rw [join, splitText, hback, intercalate_splitAll, String.ofList_toList]
  separator_free piece hpiece := by
    obtain ⟨part, hpart, rfl⟩ := List.mem_map.mp hpiece
    rw [containsText, String.toList_ofList]
    exact occurs_eq_false_of_mem_splitAll (mt String.toList_eq_nil_iff.mp hs) hpart

theorem length_le_length_flatMap {α β : Type} {f : α → List β} (h : ∀ a, f a ≠ []) (l : List α) :
    l.length ≤ (l.flatMap f).length := by
  induction l with
  | nil => exact Nat.zero_le _
  | cons a l ih =>
    have ha : 0 < (f a).length := List.length_pos_iff.mpr (h a)
    rw [List.flatMap_cons, List.length_append, List.length_cons]
    omega

/-- Values that are only cut are cut one by one. -/
theorem shape_cut {rule : SelectorRule} {separator : String} (hkeep : rule.keep = .all)
    (hjoiner : rule.joiner = none) (hsplitter : rule.splitter = some separator)
    (hs : separator ≠ "") (values : List String) :
    shape rule values = values.flatMap (splitText separator) := by
  cases values with
  | nil => rfl
  | cons value values =>
    simp [shape, hkeep, hjoiner, hsplitter, hs, Keep.apply]

/-- **Sanitizing is canonical**: it gives the cleaned texts that are kept, each once and in the
order in which they come first, and doing it before, to the front or the back of the values, changes
nothing. Cut values come in at least as many pieces, which make them up again. -/
theorem sanitize_canonical :
    (∀ value text : String, clean value = text ↔ IsCleaned value text) ∧
    (∀ ignored values texts : List String,
      sanitize ignored values = texts ↔ IsSanitized ignored values texts) ∧
    (∀ ignored values : List String,
      sanitize ignored (sanitize ignored values) = sanitize ignored values) ∧
    (∀ ignored front back : List String,
      sanitize ignored (sanitize ignored front ++ back) = sanitize ignored (front ++ back) ∧
      sanitize ignored (front ++ sanitize ignored back) = sanitize ignored (front ++ back)) ∧
    ∀ (rule : SelectorRule) (separator : String) (values : List String),
      rule.keep = .all → rule.joiner = none → rule.splitter = some separator → separator ≠ "" →
        values.length ≤ (shape rule values).length ∧
        shape rule values = values.flatMap (splitText separator) ∧
        ∀ value ∈ values, IsCut separator value (splitText separator value) := by
  refine ⟨fun _ _ => isCleaned_iff.symm, fun _ _ _ => isSanitized_iff.symm, sanitize_sanitize,
    fun ignored front back => ⟨sanitize_sanitize_append ignored front back,
      sanitize_append_sanitize ignored front back⟩, ?_⟩
  intro rule separator values hkeep hjoiner hsplitter hs
  rw [shape_cut hkeep hjoiner hsplitter hs]
  exact ⟨length_le_length_flatMap (fun value => (isCut_splitText hs value).ne_nil) values, rfl,
    fun value _ => isCut_splitText hs value⟩

/-- A rule that cuts values at two dashes. -/
def cutAtDashes : SelectorRule := { selectors := ["p"], splitter := some "--" }

theorem sanitize_canonical_dashes :
    (cutAtDashes.keep = .all ∧ cutAtDashes.joiner = none ∧ cutAtDashes.splitter = some "--" ∧
        "--" ≠ "") ∧
      shape cutAtDashes ["a---b", "--"] = ["a", "-b", "", ""] ∧
      2 ≤ (shape cutAtDashes ["a---b", "--"]).length ∧
      IsCut "--" "a---b" ["a", "-b"] ∧ IsCut "--" "--" ["", ""] ∧
      IsSanitized ["TBD"] ["b\u00a0", "TBD ", " a\u00a0a", "\u00a0", "a a", "b"] ["b", "a a"] := by
  obtain ⟨-, hsanitize, -, -, hcut⟩ := sanitize_canonical
  obtain ⟨hlength, hshape, hpieces⟩ :=
    hcut cutAtDashes "--" ["a---b", "--"] rfl rfl rfl (by decide)
  have hfirst : splitText "--" "a---b" = ["a", "-b"] := by cbv
  have hsecond : splitText "--" "--" = ["", ""] := by cbv
  refine ⟨⟨rfl, rfl, rfl, by decide⟩, ?_, hlength, ?_, ?_, (hsanitize _ _ _).mp (by cbv)⟩
  · rw [hshape, List.flatMap_cons, List.flatMap_singleton, hfirst, hsecond]
    rfl
  · exact hfirst ▸ hpieces "a---b" (by decide)
  · exact hsecond ▸ hpieces "--" (by decide)

end Almanac.Extraction
