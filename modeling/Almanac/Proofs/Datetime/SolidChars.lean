import Almanac.Proofs.Datetime.FirstCut
import Almanac.Proofs.Datetime.PieceLayout

/-!
# What compaction leaves alone

Compaction drops, shrinks and adds white space and keeps all other characters in order
(`solidChars_compactChars`), whatever range macro it finds. So a format has, whichever way it is
compacted, the pieces that its other characters spell, with spaces in between
(`listOf?_solidChars`), and a text that is read in it is cut into segments for these pieces when
the white space of both is left out (`exists_cut_of_read?`). In a locale in whose formats there is
no white space this tells what any candidate reads that begins with given directives.
-/

namespace Almanac

open Text

namespace Datetime

/-! ## Texts -/

/-- The characters that are not white space. -/
def solidChars (cs : List Char) : List Char := cs.filter fun c => !isBlank c

theorem solidChars_append (front back : List Char) :
    solidChars (front ++ back) = solidChars front ++ solidChars back := List.filter_append ..

theorem solidChars_blank {c : Char} (hc : isBlank c = true) (cs : List Char) :
    solidChars (c :: cs) = solidChars cs := by
  rw [solidChars, List.filter_cons, hc]
  rfl

theorem solidChars_char {c : Char} (hc : isBlank c = false) (cs : List Char) :
    solidChars (c :: cs) = c :: solidChars cs := by
  rw [solidChars, List.filter_cons, hc]
  rfl

theorem solidChars_eq_nil_iff {cs : List Char} :
    solidChars cs = [] ↔ ∀ c ∈ cs, isBlank c = true := by
  simp [solidChars, List.filter_eq_nil_iff]

theorem solidChars_eq_self {cs : List Char} (h : ∀ c ∈ cs, isBlank c = false) :
    solidChars cs = cs :=
  List.filter_eq_self.mpr fun c hc => by rw [h c hc]; rfl

theorem solidChars_dropBlank (cs : List Char) : solidChars (dropBlank cs) = solidChars cs := by
  have hfront : solidChars (cs.takeWhile isBlank) = [] :=
    solidChars_eq_nil_iff.mpr fun _ => List.mem_takeWhile_imp
  have hsplit : cs.takeWhile isBlank ++ dropBlank cs = cs := List.takeWhile_append_dropWhile
  conv_rhs => rw [← hsplit, solidChars_append, hfront, List.nil_append]

theorem solidChars_dropBlankEnd (cs : List Char) :
    solidChars (dropBlankEnd cs) = solidChars cs := by
  have hreverse : ∀ cs, solidChars cs.reverse = (solidChars cs).reverse :=
    fun cs => List.filter_reverse
  rw [dropBlankEnd, hreverse, solidChars_dropBlank, hreverse, List.reverse_reverse]

theorem solidChars_trimSides (left right : Bool) (cs : List Char) :
    solidChars (trimSides left right cs) = solidChars cs := by
  cases left <;> cases right <;>
    simp [trimSides, solidChars_dropBlank, solidChars_dropBlankEnd]

theorem solidChars_stripSides {separator : List Char} (hs : separator ≠ []) (left right : Bool)
    (cs : List Char) : solidChars (stripSides separator left right cs) = solidChars cs := by
  induction hn : cs.length using Nat.strongRecOn generalizing cs left with
  | ind n ih =>
    subst hn
    cases hsplit : splitFirst separator cs with
    | none => rw [stripSides_of_none left right hsplit, solidChars_trimSides]
    | some parts =>
      have hparts := eq_append_of_splitFirst hsplit
      rw [stripSides_of_some hs left right hsplit, solidChars_append, solidChars_append,
        solidChars_trimSides, ih _ (length_after_lt hs hsplit) true parts.2 rfl,
        ← solidChars_append, ← solidChars_append, ← hparts]

theorem solidChars_stripAround (separator cs : List Char) :
    solidChars (stripAround separator cs) = solidChars cs := by
  cases hoccurs : separator.isEmpty || !occurs separator cs with
  | true => rw [stripAround, hoccurs, if_pos rfl]
  | false =>
    rw [Bool.or_eq_false_iff, List.isEmpty_eq_false_iff, Bool.not_eq_false'] at hoccurs
    rw [stripAround_of_occurs hoccurs.1 hoccurs.2, solidChars_stripSides hoccurs.1]

/-- The layout keeps what is not white space. -/
theorem solidChars_layoutFrom (tight : Char → Bool) (glued gap : Bool) (cs : List Char) :
    solidChars (layoutFrom tight glued gap cs) = solidChars cs := by
  induction cs generalizing glued gap with
  | nil => rfl
  | cons c cs ih =>
    cases hc : isBlank c with
    | true => rw [layoutFrom_blank hc, ih, solidChars_blank hc]
    | false =>
      rw [layoutFrom_char hc, solidChars_append, solidChars_char hc, ih, solidChars_char hc,
        solidChars_eq_nil_iff.mpr (isBlank_of_mem_gap _)]
      rfl

/-- **Compaction changes white space only.** -/
theorem solidChars_compactChars (cs : List Char) :
    solidChars (compactChars cs) = solidChars cs := by
  have hlayout : solidChars (layout cs) = solidChars cs := solidChars_layoutFrom ..
  rw [compactChars, layout_eq]
  split
  · exact hlayout
  · rw [solidChars_stripAround, solidChars_stripAround, hlayout]

/-- Making dashes plain keeps white space apart. -/
theorem solidChars_plainDashes (cs : List Char) :
    solidChars (plainDashes cs) = plainDashes (solidChars cs) := by
  induction cs with
  | nil => rfl
  | cons c cs ih =>
    cases hc : isBlank c with
    | true =>
      rw [plainDashes_cons, solidChars_blank ((isBlank_plainDash c).trans hc), ih,
        solidChars_blank hc]
    | false =>
      rw [plainDashes_cons, solidChars_char ((isBlank_plainDash c).trans hc), ih,
        solidChars_char hc, plainDashes_cons]

/-- What is left of a format in the layout of formats. -/
theorem solidChars_format (front tail : List Char) :
    solidChars (compactChars (plainDashes (front ++ tail))) =
      plainDashes (solidChars front) ++ plainDashes (solidChars tail) := by
  rw [solidChars_compactChars, solidChars_plainDashes, solidChars_append, plainDashes_append]

/-! ## Formats -/

namespace Piece

/-- The pieces other than spaces. -/
def solid (pieces : List Piece) : List Piece := pieces.filter (· ≠ space)

theorem solid_append (front back : List Piece) :
    solid (front ++ back) = solid front ++ solid back :=
  List.filter_append ..

theorem solid_cons {piece : Piece} (h : piece ≠ space) (pieces : List Piece) :
    solid (piece :: pieces) = piece :: solid pieces :=
  List.filter_cons_of_pos (decide_eq_true h)

theorem solid_mergeSpaces (pieces : List Piece) : solid (mergeSpaces pieces) = solid pieces := by
  induction pieces with
  | nil => rfl
  | cons piece pieces ih =>
    by_cases h : piece = space
    · have hdrop : solid (space :: pieces) = solid pieces := rfl
      rw [h, mergeSpaces_space, hdrop, ← ih]
      split <;> rfl
    · rw [mergeSpaces_cons h, solid_cons h, solid_cons h, ih]

variable {expansion : Char → Option (List Piece)}

/-- What a percent sign and a letter stand for. -/
def ofLetter? (expansion : Char → Option (List Piece)) (letter : Char) : Option (List Piece) :=
  if letter = '%' then some [literal '%']
  else
    match Directive.ofLetter? letter with
    | some d => some [directive d]
    | none => expansion letter

theorem listOf?_percent (letter : Char) (rest : List Char) :
    listOf? expansion ('%' :: letter :: rest) =
      (ofLetter? expansion letter).bind fun front =>
        (listOf? expansion rest).map (front ++ ·) := by
  rw [listOf?]
  rfl

/-- A format in two parts that are read is read part by part. -/
theorem listOf?_append {front : List Char} {pieces : List Piece}
    (h : listOf? expansion front = some pieces) (back : List Char) :
    listOf? expansion (front ++ back) = (listOf? expansion back).map (pieces ++ ·) := by
  fun_induction listOf? expansion front generalizing pieces with
  | case1 =>
    cases h
    simp
  | case2 => cases h
  | case3 letter rest front =>
    rename_i ih
    obtain ⟨found, hfound, hmap⟩ := Option.bind_eq_some_iff.mp h
    obtain ⟨more, hmore, rfl⟩ := Option.map_eq_some_iff.mp hmap
    have hletter : ofLetter? expansion letter = some found := hfound
    rw [List.cons_append, List.cons_append, listOf?_percent, hletter, ih hmore]
    simp [Function.comp_def]
  | case4 c rest hend hletter ih =>
    obtain ⟨more, hmore, rfl⟩ := Option.map_eq_some_iff.mp h
    rw [List.cons_append, listOf?_char (ne_percent hend hletter), ih hmore]
    simp [Function.comp_def]

/-- A format without its white space spells the pieces other than spaces. -/
theorem listOf?_solidChars (hletters : ∀ letter front, ofLetter? expansion letter = some front →
      isBlank letter = false ∧ solid front = front)
    {format : List Char} {pieces : List Piece} (h : listOf? expansion format = some pieces) :
    listOf? expansion (solidChars format) = some (solid pieces) := by
  fun_induction listOf? expansion format generalizing pieces with
  | case1 =>
    cases h
    rfl
  | case2 => cases h
  | case3 letter rest front =>
    rename_i ih
    obtain ⟨found, hfound, hmap⟩ := Option.bind_eq_some_iff.mp h
    obtain ⟨more, hmore, rfl⟩ := Option.map_eq_some_iff.mp hmap
    have hletter : ofLetter? expansion letter = some found := hfound
    obtain ⟨hblank, hsolid⟩ := hletters letter found hletter
    have hpercent : isBlank '%' = false := by decide
    rw [solidChars_char hpercent, solidChars_char hblank, listOf?_percent, hletter, ih hmore,
      solid_append, hsolid]
    rfl
  | case4 c rest hend hletter ih =>
    obtain ⟨more, hmore, rfl⟩ := Option.map_eq_some_iff.mp h
    cases hc : isBlank c with
    | true =>
      rw [solidChars_blank hc, ih hmore]
      rfl
    | false =>
      rw [solidChars_char hc, listOf?_char (ne_percent hend hletter), hc, ih hmore]
      rfl

theorem eq_nil_of_listOf? (hletters : ∀ letter, ofLetter? expansion letter ≠ some [])
    {format : List Char} (h : listOf? expansion format = some []) : format = [] := by
  cases format with
  | nil => rfl
  | cons c rest =>
    by_cases hc : c = '%'
    · subst hc
      cases rest with
      | nil => cases h
      | cons letter rest =>
        rw [listOf?_percent] at h
        obtain ⟨front, hfront, hmap⟩ := Option.bind_eq_some_iff.mp h
        obtain ⟨more, -, hnil⟩ := Option.map_eq_some_iff.mp hmap
        rw [(List.append_eq_nil_iff.mp hnil).1] at hfront
        exact absurd hfront (hletters letter)
    · rw [listOf?_char hc] at h
      obtain ⟨more, -, hnil⟩ := Option.map_eq_some_iff.mp h
      cases hnil

theorem Spells.ne_nil {format : List Char} {pieces : List Piece} (h : Spells format pieces)
    (hne : format ≠ []) : pieces ≠ [] := by
  cases h with
  | nil => exact absurd rfl hne
  | _ => exact List.cons_ne_nil _ _

/-- A format without white space has no space pieces. -/
theorem Spells.solid_eq_self {format : List Char} {pieces : List Piece} (h : Spells format pieces)
    (hsolid : ∀ c ∈ format, isBlank c = false) : solid pieces = pieces := by
  induction h with
  | nil => rfl
  | percent _ ih =>
    rw [solid_cons (by simp), ih fun c hc => hsolid c (by simp [hc])]
  | directive _ _ ih =>
    rw [solid_cons (by simp), ih fun c hc => hsolid c (by simp [hc])]
  | @blank c _ _ hc _ _ =>
    rw [hsolid c List.mem_cons_self] at hc
    cases hc
  | literal _ _ _ ih =>
    rw [solid_cons (by simp), ih fun c hc => hsolid c (by simp [hc])]

end Piece

end Datetime

/-- The usual formats of a language hold some characters and no white space. -/
def Locale.HasSolidFormats (locale : Locale) : Prop :=
  ∀ format ∈ [locale.dateFormat, locale.timeFormat],
    format.toList ≠ [] ∧ ∀ c ∈ format.toList, isBlank c = false

instance (locale : Locale) : Decidable locale.HasSolidFormats := List.decidableBAll _ _

namespace Datetime

section Reading

variable {locale : Locale} (hlocale : locale.HasSolidFormats)
include hlocale

/-- A usual format has pieces and no spaces among them. -/
theorem Piece.ofLetter?_usualFormat? {letter : Char} {front : List Piece}
    (h : ofLetter? (usualFormat? locale) letter = some front) :
    isBlank letter = false ∧ solid front = front ∧ front ≠ [] := by
  have hformat {format : String} (hmem : format ∈ [locale.dateFormat, locale.timeFormat])
      (hlist : listOf? (fun _ => none) format.toList = some front) :
      solid front = front ∧ front ≠ [] := by
    obtain ⟨hne, hsolid⟩ := hlocale format hmem
    have hspells := spells_of_listOf? hlist
    exact ⟨hspells.solid_eq_self hsolid, hspells.ne_nil hne⟩
  rw [ofLetter?] at h
  split at h
  · next hletter =>
    cases h
    rw [hletter]
    decide
  · split at h
    · next d hd =>
      cases h
      exact ⟨(isLayoutChar_eq_false_iff.mp (isLayoutChar_letter hd)).1, rfl, List.cons_ne_nil _ _⟩
    · rw [usualFormat?] at h
      split at h
      · next hx =>
        exact ⟨hx ▸ by decide, hformat List.mem_cons_self h⟩
      · split at h
        · next hX =>
          exact ⟨hX ▸ by decide, hformat (by simp) h⟩
        · cases h

end Reading

section Cuts

variable {locale : Locale} {pieces : List Piece} {cut : List Segment}

/-- A text that is cut into segments is cut into those other than spaces without its white
space. -/
theorem exists_solid_cut (h : List.Forall₂ (Piece.Takes locale) pieces cut) :
    ∃ cut', List.Forall₂ (Piece.Takes locale) (Piece.solid pieces) cut' ∧
      solidChars (cut.flatMap Segment.text) = solidChars (cut'.flatMap Segment.text) := by
  induction h with
  | nil => exact ⟨[], .nil, rfl⟩
  | @cons piece s pieces cut hs _ ih =>
    obtain ⟨cut', hcut', hsolid⟩ := ih
    by_cases hpiece : piece = .space
    · subst hpiece
      refine ⟨cut', hcut', ?_⟩
      cases hs with
      | space _ hblank =>
        rw [List.flatMap_cons, solidChars_append, solidChars_eq_nil_iff.mpr hblank, hsolid,
          List.nil_append]
    · refine ⟨s :: cut', ?_, ?_⟩
      · rw [Piece.solid_cons hpiece]
        exact .cons hs hcut'
      · rw [List.flatMap_cons, List.flatMap_cons, solidChars_append, solidChars_append, hsolid]

/-- Something is left of every segment but those of spaces. -/
theorem eq_nil_of_solidChars_eq_nil (hnames : locale.IsUnspaced)
    (hpieces : ∀ piece ∈ pieces, piece ≠ .space ∧ ∀ l, piece = .literal l → isBlank l = false)
    (h : List.Forall₂ (Piece.Takes locale) pieces cut)
    (hnil : solidChars (cut.flatMap Segment.text) = []) : pieces = [] := by
  cases h with
  | nil => rfl
  | @cons piece s pieces cut hs _ =>
    obtain ⟨hspace, hliteral⟩ := hpieces piece List.mem_cons_self
    obtain ⟨c, cs, htext, hbegins⟩ := hs.begins
    rw [List.flatMap_cons, htext, List.cons_append,
      solidChars_char (hbegins.not_isBlank hnames hspace hliteral)] at hnil
    cases hnil

end Cuts

/-- What is read in a format that begins with given pieces, white space left out, begins with
segments for them; where the format goes on, the text does too. -/
theorem exists_cut_of_read? {locale : Locale} (hlocale : locale.HasSolidFormats)
    (hnames : locale.IsUnspaced) {format value front back : List Char} {pieces : List Piece}
    (hformat : solidChars format = front ++ back)
    (hfront : Piece.listOf? (Piece.usualFormat? locale) front = some pieces)
    {m : Date × TimeOfDay}
    (hread : read? locale (String.ofList format) (String.ofList value) = some m) :
    ∃ cut rest, List.Forall₂ (Piece.Takes locale) pieces cut ∧
      solidChars value = solidChars (cut.flatMap Segment.text) ++ rest ∧
      (rest = [] → back = []) := by
  obtain ⟨compiled, hcompile, hread⟩ := Option.bind_eq_some_iff.mp hread
  obtain ⟨fields, hmatch, -⟩ := Option.bind_eq_some_iff.mp hread
  obtain ⟨spelled, hspelled, rfl⟩ := Option.map_eq_some_iff.mp hcompile
  rw [String.toList_ofList] at hspelled hmatch
  have hsolid := Piece.listOf?_solidChars (fun _ _ h =>
    ⟨(Piece.ofLetter?_usualFormat? hlocale h).1, (Piece.ofLetter?_usualFormat? hlocale h).2.1⟩)
    hspelled
  rw [hformat, Piece.listOf?_append hfront, Option.map_eq_some_iff] at hsolid
  obtain ⟨more, hmore, hpieces⟩ := hsolid
  obtain ⟨whole, ⟨⟨⟨htakes, hvalue⟩, -⟩, -⟩, -⟩ := matchPieces?_eq_some_iff.mp hmatch
  obtain ⟨cut, hcut, hchars⟩ := exists_solid_cut htakes
  rw [Piece.solid_mergeSpaces, ← hpieces] at hcut
  have hfrontCut := List.forall₂_take pieces.length hcut
  have hbackCut := List.forall₂_drop pieces.length hcut
  rw [List.take_left] at hfrontCut
  rw [List.drop_left] at hbackCut
  refine ⟨cut.take pieces.length, solidChars ((cut.drop pieces.length).flatMap Segment.text),
    hfrontCut, ?_, fun hrest => ?_⟩
  · rw [← hvalue, hchars, ← solidChars_append, ← List.flatMap_append, List.take_append_drop]
  · have hspells := Piece.spells_expand hspelled
    have hmoreSolid : ∀ piece ∈ more,
        piece ≠ .space ∧ ∀ l, piece = .literal l → isBlank l = false := by
      intro piece hmem
      have hmem : piece ∈ Piece.solid spelled := hpieces ▸ List.mem_append_right _ hmem
      rw [Piece.solid, List.mem_filter, decide_eq_true_eq] at hmem
      exact ⟨hmem.2, fun l hl => hspells.not_isBlank_of_literal (hl ▸ hmem.1)⟩
    rw [eq_nil_of_solidChars_eq_nil hnames hmoreSolid hbackCut hrest] at hmore
    exact Piece.eq_nil_of_listOf? (fun letter h => (Piece.ofLetter?_usualFormat? hlocale h).2.2 rfl)
      hmore

/-! ## Candidates -/

/-- A range macro does not begin in a text in which no percent sign goes before its letter. -/
theorem exists_append_of_macroSign {front back start rest : List Char}
    (hfront : occurs ['%', 'r'] (front ++ ['r']) = false)
    (h : start ++ '%' :: 'r' :: rest = front ++ back) : ∃ more, start = front ++ more := by
  rcases List.append_eq_append_iff.mp h with ⟨between, rfl, hbetween⟩ | ⟨between, rfl, -⟩
  · cases between with
    | nil => exact ⟨[], by simp⟩
    | cons c between =>
      obtain ⟨rfl, hletter⟩ := List.cons_eq_cons.mp hbetween
      have hoccurs : ∃ more, start ++ '%' :: between ++ ['r'] = start ++ (['%', 'r'] ++ more) := by
        cases between with
        | nil => exact ⟨[], by simp⟩
        | cons d between =>
          obtain ⟨rfl, -⟩ := List.cons_eq_cons.mp hletter
          exact ⟨between ++ ['r'], by simp⟩
      obtain ⟨more, hmore⟩ := hoccurs
      rw [hmore, occurs_self_append] at hfront
      cases hfront
  · exact ⟨between, rfl⟩

/-- From the first delimiter on, a text that does not end with white space has other characters. -/
theorem solidChars_behind_ne_nil {delimiter value before after : List Char}
    (hsplit : splitFirst delimiter value = some (before, after))
    (hend : ∃ c ∈ value.getLast?, isBlank c = false) : solidChars (delimiter ++ after) ≠ [] := by
  intro hnil
  obtain ⟨c, hlast, hc⟩ := hend
  have hvalue := eq_append_of_splitFirst hsplit
  rw [List.append_assoc] at hvalue
  cases hbehind : delimiter ++ after with
  | nil =>
    -- An empty delimiter is found in front of the whole text.
    obtain ⟨rfl, rfl⟩ := List.append_eq_nil_iff.mp hbehind
    cases value with
    | nil => cases hlast
    | cons d value => cases hsplit
  | cons d behind =>
    rw [hvalue, List.getLast?_append_of_ne_nil _ (hbehind ▸ List.cons_ne_nil d behind)] at hlast
    rw [solidChars_eq_nil_iff.mp hnil c (List.mem_of_getLast? hlast)] at hc
    cases hc

section Candidate

variable {locale : Locale} (hlocale : locale.HasSolidFormats) (hnames : locale.IsUnspaced)
  {format front back value : List Char} {pieces : List Piece}
  (hformat : solidChars format = front ++ back)
  (hfront : Piece.listOf? (Piece.usualFormat? locale) front = some pieces)
include hlocale hnames hformat hfront

/-- A text that does not end with white space and that a candidate with given pieces in front
reads, a single format or a range, begins with segments for them; where the format goes on, the
text does too. -/
theorem exists_cut_of_candidate (hsign : occurs ['%', 'r'] (front ++ ['r']) = false)
    (hend : ∃ c ∈ value.getLast?, isBlank c = false) {found : Occurrence}
    (hread : (Candidate.ofFormat format).read? locale value = some found) :
    ∃ cut rest, List.Forall₂ (Piece.Takes locale) pieces cut ∧
      solidChars value = solidChars (cut.flatMap Segment.text) ++ rest ∧
      (rest = [] → back = []) := by
  rw [Candidate.ofFormat] at hread
  cases hsplit : splitMacro? format with
  | none =>
    rw [hsplit] at hread
    obtain ⟨stated, hstated, -⟩ := Option.bind_eq_some_iff.mp hread
    obtain ⟨m, hm, -⟩ := Option.map_eq_some_iff.mp hstated
    exact exists_cut_of_read? hlocale hnames hformat hfront hm
  | some parts =>
    rw [hsplit] at hread
    obtain ⟨⟨before, after⟩, hparts, hread⟩ := Option.bind_eq_some_iff.mp hread
    obtain ⟨stated, hstated, -⟩ := Option.bind_eq_some_iff.mp hread
    obtain ⟨m, hm, -⟩ := Option.map_eq_some_iff.mp hstated
    have hstart : ∃ more, solidChars (compactChars parts.start) = front ++ more := by
      rw [solidChars_compactChars]
      rw [eq_append_of_splitMacro? hsplit, solidChars_append] at hformat
      exact exists_append_of_macroSign hsign hformat
    obtain ⟨more, hstart⟩ := hstart
    obtain ⟨cut, rest, hcut, hbefore, -⟩ := exists_cut_of_read? hlocale hnames hstart hfront hm
    have hvalue := eq_append_of_splitFirst hparts
    rw [List.append_assoc] at hvalue
    rw [solidChars_compactChars] at hbefore
    refine ⟨cut, rest ++ solidChars (compactChars parts.delimiter ++ after), hcut, ?_, ?_⟩
    · rw [hvalue, solidChars_append, hbefore, List.append_assoc]
    · intro hnil
      exact absurd (List.append_eq_nil_iff.mp hnil).2 (solidChars_behind_ne_nil hparts hend)

end Candidate

end Datetime

end Almanac
