import Almanac.Proofs.Datetime.ReadBack
import Almanac.Proofs.Datetime.SameLayout

/-!
# The layout of formats and of what they write

Formats and values are brought into one layout apart from each other. On the pieces of a format
the layout is `layoutPieces`: the format in the layout spells these pieces (`Spells.layout`), and
what the format writes is in the layout what these pieces write (`layoutFrom_write`). So a date
that is written in a format is still written in it when both are compact.

This needs names without white space, dots and dashes, for a literal of a format is brought into
the layout and a name of the locale is not.
-/

namespace Almanac

open Text

/-- The names by which dates are written in a language hold no white space, dot or dash, and no
colon or percent sign. -/
structure Locale.HasPlainNames (locale : Locale) : Prop where
  names : ∀ names ∈ [locale.months, locale.shortMonths, locale.weekdays, locale.shortWeekdays],
    ∀ name ∈ names, ∀ c ∈ name.toList, isLayoutChar c = false ∧ c ∉ [':', '%']

instance (locale : Locale) : Decidable locale.HasPlainNames :=
  decidable_of_iff _ ⟨Locale.HasPlainNames.mk, Locale.HasPlainNames.names⟩

namespace Datetime

/-! ## Layout of pieces -/

theorem plainDashes_append (front back : List Char) :
    plainDashes (front ++ back) = plainDashes front ++ plainDashes back := List.map_append

namespace Piece

/-- The space that the layout keeps. -/
def gapPieces (kept : Bool) : List Piece := if kept then [space] else []

/-- The pieces of a format that is brought into the layout of formats: as with its characters,
`glued` says that no space goes before the next piece, `gap` that there was some before it. -/
def layoutPieces (glued gap : Bool) : List Piece → List Piece
  | [] => []
  | space :: rest => layoutPieces glued true rest
  | literal c :: rest =>
    gapPieces (gap && !glued && !isJoint c) ++
      literal (plainDash c) :: layoutPieces (isJoint c) false rest
  | directive d :: rest => gapPieces (gap && !glued) ++ directive d :: layoutPieces false false rest

variable {locale : Locale} {date : Date} {time : TimeOfDay}

/-- A space in front of a text is a space in front of its pieces. -/
theorem Spells.gap {cs : List Char} {pieces : List Piece} (h : Spells cs pieces) (kept : Bool) :
    Spells ((if kept then [' '] else []) ++ cs) (gapPieces kept ++ pieces) := by
  cases kept with
  | false => exact h
  | true => exact .blank (by decide) h

theorem isLayoutChar_eq_false_iff {c : Char} :
    isLayoutChar c = false ↔ isBlank c = false ∧ isJoint c = false := Bool.or_eq_false_iff

theorem plainDash_eq_self {c : Char} (h : isJoint c = false) : plainDash c = c :=
  (plainDash_eq_iff h).mpr rfl

theorem isTight_eq_false {c : Char} (h : isJoint c = false) : isTight c = false := by
  rw [← plainDash_eq_self h, isTight_plainDash, h]

theorem mem_letters {letter : Char} {d : Directive} (h : Directive.ofLetter? letter = some d) :
    (letter, d) ∈ Directive.letters := by
  rw [Directive.ofLetter?, List.lookup_eq_some_iff] at h
  obtain ⟨front, back, hletters, -⟩ := h
  exact hletters ▸ List.mem_append_right _ List.mem_cons_self

/-- A letter of a directive is not part of the layout. -/
theorem isLayoutChar_letter {letter : Char} {d : Directive}
    (h : Directive.ofLetter? letter = some d) : isLayoutChar letter = false := by
  have hletters : ∀ p ∈ Directive.letters, isLayoutChar p.1 = false := by decide +kernel
  exact hletters (letter, d) (mem_letters h)

/-- A format in the layout spells the pieces in the layout. -/
theorem Spells.layout {cs : List Char} {pieces : List Piece} (h : Spells cs pieces)
    (glued gap : Bool) :
    Spells (layoutFrom isTight glued gap (plainDashes cs)) (layoutPieces glued gap pieces) := by
  have hpercent : isBlank '%' = false := by decide
  induction h generalizing glued gap with
  | nil => exact .nil
  | @percent rest pieces _ ih =>
    have hcs : plainDashes ('%' :: '%' :: rest) = '%' :: '%' :: plainDashes rest := rfl
    rw [hcs, layoutFrom_char hpercent, layoutFrom_char hpercent]
    exact .gap (.percent (ih false false)) _
  | @directive letter d rest pieces hd _ ih =>
    obtain ⟨hblank, hjoint⟩ := isLayoutChar_eq_false_iff.mp (isLayoutChar_letter hd)
    have hcs : plainDashes ('%' :: letter :: rest) = '%' :: letter :: plainDashes rest := by
      rw [plainDashes_cons, plainDashes_cons, plainDash_eq_self hjoint]
      rfl
    have hword : ∀ c ∈ ['%', letter], isBlank c = false ∧ isTight c = false := by
      rw [List.forall_mem_cons, List.forall_mem_singleton]
      exact ⟨⟨hpercent, rfl⟩, hblank, isTight_eq_false hjoint⟩
    rw [hcs, show '%' :: letter :: plainDashes rest = ['%', letter] ++ plainDashes rest from rfl,
      layoutFrom_word (List.cons_ne_nil _ _) hword, List.append_assoc, layoutPieces]
    exact .gap (.directive hd (ih false false)) _
  | @blank c rest pieces hc _ ih =>
    rw [plainDashes_cons, layoutFrom_blank ((isBlank_plainDash c).trans hc)]
    exact ih glued true
  | @literal c rest pieces hpercent hc _ ih =>
    have hne : plainDash c ≠ '%' := mt (plainDash_eq_iff (by decide)).mp hpercent
    have hblank := (isBlank_plainDash c).trans hc
    rw [plainDashes_cons, layoutFrom_char hblank, isTight_plainDash]
    exact .gap (.literal hne hblank (ih _ _)) _

/-! ## Merged spaces -/

/-- Neighbouring spaces make no difference to the layout. -/
theorem layoutPieces_mergeSpaces (glued gap : Bool) (pieces more : List Piece) :
    layoutPieces glued gap (mergeSpaces pieces ++ more) =
      layoutPieces glued gap (pieces ++ more) := by
  induction pieces generalizing glued gap with
  | nil => rfl
  | cons piece pieces ih =>
    cases piece with
    | literal c =>
      rw [mergeSpaces_cons (by simp), List.cons_append, List.cons_append, layoutPieces,
        layoutPieces, ih]
    | directive d =>
      rw [mergeSpaces_cons (by simp), List.cons_append, List.cons_append, layoutPieces,
        layoutPieces, ih]
    | space =>
      rw [List.cons_append, layoutPieces, ← ih, mergeSpaces_space]
      split
      · next hhead =>
        obtain ⟨rest, hrest⟩ := List.head?_eq_some_iff.mp hhead
        rw [hrest, List.cons_append, layoutPieces, layoutPieces]
      · rw [List.cons_append, layoutPieces]

/-- A space in front of another piece is not beside a second one. -/
theorem isChain_gap {kept : Bool} {piece : Piece} {pieces : List Piece} (hpiece : piece ≠ space)
    (h : pieces.IsChain fun a b => ¬ (a = space ∧ b = space)) :
    (gapPieces kept ++ piece :: pieces).IsChain fun a b => ¬ (a = space ∧ b = space) := by
  have hchain : (piece :: pieces).IsChain fun a b => ¬ (a = space ∧ b = space) :=
    List.isChain_cons.mpr ⟨fun _ _ hspace => hpiece hspace.1, h⟩
  cases kept with
  | false => exact hchain
  | true =>
    refine List.isChain_cons.mpr ⟨fun b hb hspace => hpiece ?_, hchain⟩
    rw [← hspace.2]
    exact (Option.some.inj hb)

/-- The layout leaves no neighbouring spaces. -/
theorem isChain_layoutPieces (glued gap : Bool) (pieces : List Piece) :
    (layoutPieces glued gap pieces).IsChain fun a b => ¬ (a = space ∧ b = space) := by
  induction pieces generalizing glued gap with
  | nil => exact .nil
  | cons piece pieces ih =>
    cases piece with
    | space => exact ih glued true
    | literal c => exact isChain_gap (by simp) (ih _ _)
    | directive d => exact isChain_gap (by simp) (ih _ _)

theorem mergeSpaces_eq_self {pieces : List Piece}
    (h : pieces.IsChain fun a b => ¬ (a = space ∧ b = space)) : mergeSpaces pieces = pieces := by
  induction pieces with
  | nil => rfl
  | cons piece pieces ih =>
    obtain ⟨hnext, hrest⟩ := List.isChain_cons.mp h
    by_cases hpiece : piece = space
    · rw [hpiece, mergeSpaces_space, ih hrest, if_neg]
      exact fun hhead => hnext _ hhead ⟨hpiece, rfl⟩
    · rw [mergeSpaces_cons hpiece, ih hrest]

/-! ## Reading formats -/

/-- A format is taken apart into the pieces that it spells. -/
theorem Spells.listOf? {cs : List Char} {pieces : List Piece} (h : Spells cs pieces)
    (expansion : Char → Option (List Piece)) : Piece.listOf? expansion cs = some pieces := by
  induction h with
  | nil => rfl
  | percent _ ih => rw [Piece.listOf?, ih, if_pos rfl, Option.bind_some, Option.map_some]; rfl
  | @directive letter d _ _ hd _ ih =>
    have hletter : letter ≠ '%' := by
      rintro rfl
      cases hd
    rw [Piece.listOf?, ih, if_neg hletter, hd]
    rfl
  | blank hc _ ih => rw [listOf?_char (ne_percent_of_isBlank hc), ih, hc]; rfl
  | literal hpercent hc _ ih => rw [listOf?_char hpercent, ih, hc]; rfl

/-- The layout of a format compiles to the layout of its pieces. -/
theorem Spells.compile?_layout {cs : List Char} {pieces : List Piece} (h : Spells cs pieces)
    (locale : Locale) :
    compile? locale (String.ofList (Datetime.layout (plainDashes cs))) =
      some (layoutPieces true false pieces) := by
  have hpieces := (h.layout true false).listOf? (usualFormat? locale)
  rw [compile?, String.toList_ofList, Datetime.layout, hpieces, Option.map_some,
    mergeSpaces_eq_self (isChain_layoutPieces _ _ _)]

/-! ## Writing in the layout -/

variable {locale : Locale} {date : Date} {time : TimeOfDay}

/-- Whether no space goes behind a text, from whether none goes before it. -/
def gluedBehind (glued : Bool) (cs : List Char) : Bool := (cs.getLast?.map isTight).getD glued

/-- Behind two texts a space goes as behind the second after the first. -/
theorem gluedBehind_append (glued : Bool) (front back : List Char) :
    gluedBehind glued (front ++ back) = gluedBehind (gluedBehind glued front) back := by
  rw [gluedBehind, List.getLast?_append]
  cases hback : back.getLast? <;> simp [gluedBehind, hback]

theorem gluedBehind_word (glued : Bool) {word : List Char} (hne : word ≠ [])
    (h : ∀ c ∈ word, isLayoutChar c = false) : gluedBehind glued word = false := by
  rw [gluedBehind, List.getLast?_eq_some_getLast hne, Option.map_some, Option.getD_some]
  exact isTight_eq_false (isLayoutChar_eq_false_iff.mp (h _ (List.getLast_mem hne))).2

theorem flatMap_write_gap (kept : Bool) (pieces : List Piece) :
    (gapPieces kept ++ pieces).flatMap (write locale date time) =
      (if kept then [' '] else []) ++ pieces.flatMap (write locale date time) := by
  cases kept <;> rfl

/-- What a format writes is in the layout what its pieces in the layout write. What comes behind
it, in the format and in the text, is laid out from one state. -/
theorem layoutFrom_write {pieces : List Piece}
    (hdirective : ∀ d, .directive d ∈ pieces → d.write locale date time ≠ [] ∧
      ∀ c ∈ d.write locale date time, isLayoutChar c = false)
    (hliteral : ∀ c, .literal c ∈ pieces → isBlank c = false) (glued gap : Bool) :
    ∃ out gap', out = (layoutPieces glued gap pieces).flatMap (write locale date time) ∧
      (∀ more, layoutPieces glued gap (pieces ++ more) =
        layoutPieces glued gap pieces ++ layoutPieces (gluedBehind glued out) gap' more) ∧
      ∀ rest, layoutFrom isTight glued gap
          (plainDashes (pieces.flatMap (write locale date time)) ++ rest) =
        out ++ layoutFrom isTight (gluedBehind glued out) gap' rest := by
  -- A piece hands two things on: whether it ends with a dot or dash, which `gluedBehind` reads
  -- off the text, and whether a space was seen since, which is not to be seen in the text.
  induction pieces generalizing glued gap with
  | nil => exact ⟨[], gap, rfl, fun _ => rfl, fun _ => rfl⟩
  | cons piece pieces ih =>
    have hrest := ih (fun d hd => hdirective d (List.mem_cons_of_mem _ hd))
      fun c hc => hliteral c (List.mem_cons_of_mem _ hc)
    cases piece with
    | space =>
      obtain ⟨out, gap', hout, hmore, htext⟩ := hrest glued true
      refine ⟨out, gap', hout, hmore, fun rest => ?_⟩
      have hblank : isBlank ' ' = true := by decide
      rw [List.flatMap_cons]
      exact (layoutFrom_blank hblank _).trans (htext rest)
    | literal c =>
      obtain ⟨out, gap', hout, hmore, htext⟩ := hrest (isJoint c) false
      have hc := hliteral c List.mem_cons_self
      have hbehind : gluedBehind glued ((if gap && !glued && !isJoint c then [' '] else []) ++
          plainDash c :: out) = gluedBehind (isJoint c) out := by
        rw [List.append_cons, gluedBehind_append]
        congr 1
        rw [gluedBehind, List.getLast?_concat]
        exact isTight_plainDash c
      refine ⟨(if gap && !glued && !isJoint c then [' '] else []) ++ plainDash c :: out, gap',
        ?_, fun more => ?_, fun rest => ?_⟩
      · rw [layoutPieces, flatMap_write_gap, List.flatMap_cons, hout]
        rfl
      · rw [hbehind, List.cons_append, layoutPieces, layoutPieces, hmore]
        simp only [List.append_assoc, List.cons_append]
      · have hblank := (isBlank_plainDash c).trans hc
        rw [hbehind, List.flatMap_cons, write, List.singleton_append, plainDashes_cons,
          List.cons_append, layoutFrom_char hblank, isTight_plainDash, htext]
        simp only [List.append_assoc, List.cons_append]
    | directive d =>
      obtain ⟨out, gap', hout, hmore, htext⟩ := hrest false false
      obtain ⟨hne, hplain⟩ := hdirective d List.mem_cons_self
      have hbehind : gluedBehind glued ((if gap && !glued then [' '] else []) ++
          d.write locale date time ++ out) = gluedBehind false out := by
        rw [gluedBehind_append, gluedBehind_append, gluedBehind_word _ hne hplain]
      refine ⟨(if gap && !glued then [' '] else []) ++ d.write locale date time ++ out, gap',
        ?_, fun more => ?_, fun rest => ?_⟩
      · rw [layoutPieces, flatMap_write_gap, List.flatMap_cons, hout, List.append_assoc]
        rfl
      · rw [hbehind, List.cons_append, layoutPieces, layoutPieces, hmore]
        simp only [List.append_assoc, List.cons_append]
      · have hword : ∀ c ∈ d.write locale date time, isBlank c = false ∧ isTight c = false := by
          intro c hc
          obtain ⟨hblank, hjoint⟩ := isLayoutChar_eq_false_iff.mp (hplain c hc)
          exact ⟨hblank, isTight_eq_false hjoint⟩
        have hdashes : plainDashes (d.write locale date time) = d.write locale date time := by
          refine plainDashes_eq_self fun hdash => ?_
          exact absurd (hplain _ hdash) (by decide)
        rw [hbehind, List.flatMap_cons, write, plainDashes_append, hdashes, List.append_assoc,
          layoutFrom_word hne hword, htext]
        simp only [List.append_assoc]

/-! ## What stays in the layout -/

theorem filterMap_gapPieces (kept : Bool) (pieces : List Piece) :
    (gapPieces kept ++ pieces).filterMap directive? = pieces.filterMap directive? := by
  cases kept <;> rfl

/-- The layout keeps the directives. -/
theorem filterMap_layoutPieces (glued gap : Bool) (pieces : List Piece) :
    (layoutPieces glued gap pieces).filterMap directive? = pieces.filterMap directive? := by
  induction pieces generalizing glued gap with
  | nil => rfl
  | cons piece pieces ih =>
    cases piece with
    | space => exact ih glued true
    | literal c =>
      rw [layoutPieces, filterMap_gapPieces]
      exact ih _ _
    | directive d =>
      rw [layoutPieces, filterMap_gapPieces, List.filterMap_cons, List.filterMap_cons, ih]

theorem directive_mem_iff {d : Directive} {pieces : List Piece} :
    .directive d ∈ pieces ↔ d ∈ pieces.filterMap directive? := by
  rw [List.mem_filterMap]
  refine ⟨fun h => ⟨_, h, rfl⟩, fun ⟨piece, hpiece, hd⟩ => ?_⟩
  cases piece with
  | directive d' =>
    obtain rfl : d' = d := Option.some.inj hd
    exact hpiece
  | _ => cases hd

/-- The layout brings in no literal but joints. -/
theorem literal_mem_of_mem_layoutPieces {c : Char} (hc : isJoint c = false) {glued gap : Bool}
    {pieces : List Piece} (h : .literal c ∈ layoutPieces glued gap pieces) :
    .literal c ∈ pieces := by
  have hgap {kept : Bool} : .literal c ∉ gapPieces kept := by cases kept <;> simp [gapPieces]
  induction pieces generalizing glued gap with
  | nil => cases h
  | cons piece pieces ih =>
    cases piece with
    | space => exact List.mem_cons_of_mem _ (ih h)
    | literal l =>
      rcases List.mem_cons.mp ((List.mem_append.mp h).resolve_left hgap) with heq | h
      · rw [(plainDash_eq_iff hc).mp (literal.inj heq).symm]
        exact List.mem_cons_self
      · exact List.mem_cons_of_mem _ (ih h)
    | directive d =>
      have hrest := (List.mem_cons.mp ((List.mem_append.mp h).resolve_left hgap)).resolve_left
        (by simp)
      exact List.mem_cons_of_mem _ (ih hrest)

/-! ## Colons -/

theorem reads_colon (l : Char) : reads ':' (.literal l) = (l == ':') := by
  rw [Bool.eq_iff_iff, beq_iff_eq, reads, sameLetter_iff, eq_comm, ← sameLetter_iff]
  refine ⟨eq_of_sameLetter (by decide), ?_⟩
  rintro rfl
  decide

/-- The layout keeps the colons. -/
theorem countP_colon_layoutPieces (glued gap : Bool) (pieces : List Piece) :
    (layoutPieces glued gap pieces).countP (reads ':') =
      pieces.countP (reads ':') := by
  have hgap (kept : Bool) (pieces : List Piece) :
      (gapPieces kept ++ pieces).countP (reads ':') =
        pieces.countP (reads ':') := by
    cases kept <;> rfl
  induction pieces generalizing glued gap with
  | nil => rfl
  | cons piece pieces ih =>
    cases piece with
    | space => exact ih glued true
    | directive d =>
      rw [layoutPieces, hgap, List.countP_cons, List.countP_cons, ih]
    | literal l =>
      have hplain : (plainDash l == ':') = (l == ':') := by
        rw [Bool.eq_iff_iff, beq_iff_eq, beq_iff_eq, plainDash_eq_iff (by decide)]
      rw [layoutPieces, hgap, List.countP_cons, List.countP_cons, ih, reads_colon, reads_colon,
        hplain]

/-! ## Percent signs -/

/-- A percent sign before a letter of no directive does not occur in a format without percent
signs of its own. -/
theorem Spells.occurs_append {cs : List Char} {pieces : List Piece} (h : Spells cs pieces)
    (hpercent : .literal '%' ∉ pieces) {c : Char} (hc : Directive.ofLetter? c = none)
    (more rest : List Char) :
    occurs ('%' :: c :: more) (cs ++ rest) = occurs ('%' :: c :: more) rest := by
  have hother {d : Char} (hd : d ≠ '%') (cs : List Char) :
      ('%' :: c :: more).isPrefixOf (d :: cs) = false := by
    rw [List.isPrefixOf, beq_false_of_ne hd.symm, Bool.false_and]
  induction h with
  | nil => rfl
  | percent _ _ => exact absurd List.mem_cons_self hpercent
  | @directive letter d cs pieces hd _ ih =>
    have hletter : letter ≠ '%' := by
      rintro rfl
      cases hd
    have hne : c ≠ letter := by
      rintro rfl
      rw [hc] at hd
      cases hd
    have hsign : ('%' :: c :: more).isPrefixOf ('%' :: letter :: (cs ++ rest)) = false := by
      rw [List.isPrefixOf, List.isPrefixOf, beq_false_of_ne hne, Bool.false_and, Bool.and_false]
    rw [List.cons_append, List.cons_append, occurs, hsign, occurs, hother hletter,
      ih fun hmem => hpercent (List.mem_cons_of_mem _ hmem)]
    rfl
  | blank hblank _ ih =>
    rw [List.cons_append, occurs, hother (ne_percent_of_isBlank hblank),
      ih fun hmem => hpercent (List.mem_cons_of_mem _ hmem)]
    rfl
  | literal hliteral _ _ ih =>
    rw [List.cons_append, occurs, hother hliteral,
      ih fun hmem => hpercent (List.mem_cons_of_mem _ hmem)]
    rfl

theorem hasDirective_cons {letters cs : List Char} (h : hasDirective letters cs = true)
    (c : Char) : hasDirective letters (c :: cs) = true := by
  cases cs with
  | nil => cases h
  | cons letter cs =>
    by_cases hc : c = '%'
    · rw [hc, hasDirective, h, Bool.or_true]
    · rw [hasDirective]
      · exact h
      · rintro letter cs rfl
        exact absurd rfl hc

/-- A directive of a format is found by its letters. -/
theorem Spells.hasDirective {cs : List Char} {pieces : List Piece} (h : Spells cs pieces)
    {d : Directive} (hd : .directive d ∈ pieces) {letters : List Char}
    (hletters : ∀ letter, Directive.ofLetter? letter = some d → letter ∈ letters) :
    Datetime.hasDirective letters cs = true := by
  induction h with
  | nil => cases hd
  | percent _ ih =>
    have hrest := ih ((List.mem_cons.mp hd).resolve_left (by simp))
    exact hasDirective_cons (hasDirective_cons hrest _) _
  | directive hletter _ ih =>
    rcases List.mem_cons.mp hd with heq | hd
    · obtain rfl := directive.inj heq
      rw [Datetime.hasDirective, List.contains_iff_mem.mpr (hletters _ hletter), Bool.true_or]
    · exact hasDirective_cons (hasDirective_cons (ih hd) _) _
  | blank _ _ ih => exact hasDirective_cons (ih ((List.mem_cons.mp hd).resolve_left (by simp))) _
  | literal _ _ _ ih => exact hasDirective_cons (ih ((List.mem_cons.mp hd).resolve_left (by simp))) _

end Piece

/-! ## Directives of dates -/

/-- The directives of dates: the parts of a date in numbers, its year in four digits, and the
names of months and weekdays. -/
def dateDirectives : List Directive :=
  [.day, .month, .year, .monthName, .shortMonthName, .weekdayName, .shortWeekdayName]

section Dates

variable {locale : Locale} (hplain : locale.HasPlainNames) {date : Date} {time : TimeOfDay}

theorem mem_nameAt {names : List String} {i : Nat} {c : Char}
    (h : c ∈ Directive.nameAt names i) : ∃ name ∈ names, c ∈ name.toList := by
  rw [Directive.nameAt, List.getD_eq_getElem?_getD] at h
  cases hi : names[i]? with
  | none =>
    rw [hi] at h
    cases h
  | some name =>
    rw [hi] at h
    exact ⟨name, List.mem_of_getElem? hi, h⟩

/-- A segment for names is that of a name that the text begins with. -/
theorem exists_name_of_mem_nameSegments {names : List String} {read : Nat → Reading}
    {input : List Char} {width : Nat} {reading : Reading}
    (h : (width, reading) ∈ nameSegments names read input) :
    ∃ name ∈ names, name.toList.length = width ∧ beginsName name.toList input = true := by
  obtain ⟨⟨name, i⟩, hname, hsome⟩ := List.mem_filterMap.mp h
  dsimp only at hsome
  split at hsome
  · next hbegins =>
    rw [Bool.and_eq_true] at hbegins
    exact ⟨name, (List.mem_zipIdx hname).2.2 ▸ List.getElem_mem _,
      congrArg Prod.fst (Option.some.inj hsome), hbegins.2⟩
  · cases hsome

/-- What is taken for a name consists of its letters, in any case. -/
theorem exists_sameLetter_of_beginsName {name input : List Char}
    (h : beginsName name input = true) {c : Char} (hc : c ∈ input.take name.length) :
    ∃ n ∈ name, sameLetter c n = true := by
  induction name generalizing input with
  | nil => cases hc
  | cons n name ih =>
    cases input with
    | nil => cases hc
    | cons d input =>
      rw [beginsName, Bool.and_eq_true] at h
      rcases List.mem_cons.mp hc with rfl | hc
      · exact ⟨n, List.mem_cons_self, h.1⟩
      · obtain ⟨m, hm, hsame⟩ := ih h.2 hc
        exact ⟨m, List.mem_cons_of_mem _ hm, hsame⟩

theorem plain_of_isAsciiDigit {c : Char} (h : isAsciiDigit c = true) :
    isLayoutChar c = false ∧ c ∉ [':', '%'] := by
  have hne {d : Char} (hd : isAsciiDigit d = false) : c ≠ d := by
    rintro rfl
    rw [h] at hd
    cases hd
  have hjoint : isJoint c = false := by
    simp [isJoint, hne (d := '.') (by decide), hne (d := '-') (by decide),
      hne (d := '–') (by decide)]
  refine ⟨Piece.isLayoutChar_eq_false_iff.mpr ⟨not_isBlank_of_isAsciiDigit h, hjoint⟩, ?_⟩
  simp [hne (d := ':') (by decide), hne (d := '%') (by decide)]

include hplain

/-- What is written of a date is no part of the layout, no colon and no percent sign. -/
theorem plain_of_mem_write {d : Directive} (hd : d ∈ dateDirectives) {c : Char}
    (hc : c ∈ d.write locale date time) : isLayoutChar c = false ∧ c ∉ [':', '%'] := by
  have hnumber {width n : Nat} (hc : c ∈ Number.paddedDigits width n) :
      isLayoutChar c = false ∧ c ∉ [':', '%'] :=
    plain_of_isAsciiDigit (Number.isAsciiDigit_of_mem_paddedDigits hc)
  have hname {names : List String} {i : Nat}
      (hnames : names ∈ [locale.months, locale.shortMonths, locale.weekdays, locale.shortWeekdays])
      (hc : c ∈ Directive.nameAt names i) : isLayoutChar c = false ∧ c ∉ [':', '%'] := by
    obtain ⟨name, hname, hc⟩ := mem_nameAt hc
    exact hplain.names names hnames name hname c hc
  simp only [dateDirectives, List.mem_cons, List.not_mem_nil, or_false] at hd
  rcases hd with rfl | rfl | rfl | rfl | rfl | rfl | rfl
  · exact hnumber hc
  · exact hnumber hc
  · exact hnumber hc
  · exact @hname locale.months _ (by simp) hc
  · exact @hname locale.shortMonths _ (by simp) hc
  · exact @hname locale.weekdays _ (by simp) hc
  · exact @hname locale.shortWeekdays _ (by simp) hc

/-- A directive of dates takes no colon. -/
theorem avoids_colon {d : Directive} (hd : d ∈ dateDirectives) : d.Avoids locale ':' := by
  have hnumber {d : Directive} (hd : d ∈ usualDirectives) : d.Avoids locale ':' :=
    (isNumeric_of_mem_usualDirectives hd).avoids locale (by decide)
  have hname {names : List String}
      (hnames : names ∈ [locale.months, locale.shortMonths, locale.weekdays, locale.shortWeekdays])
      (read : Nat → Reading) (input : List Char) (width : Nat) (reading : Reading)
      (h : (width, reading) ∈ nameSegments names read input) : ':' ∉ input.take width := by
    intro hcolon
    obtain ⟨name, hmem, rfl, hbegins⟩ := exists_name_of_mem_nameSegments h
    obtain ⟨n, hn, hsame⟩ := exists_sameLetter_of_beginsName hbegins hcolon
    have heq : n = ':' := eq_of_sameLetter (by decide) (sameLetter_iff.mpr
      (sameLetter_iff.mp hsame).symm)
    exact (hplain.names names hnames name hmem n hn).2 (heq ▸ List.mem_cons_self)
  simp only [dateDirectives, List.mem_cons, List.not_mem_nil, or_false] at hd
  rcases hd with rfl | rfl | rfl | rfl | rfl | rfl | rfl
  · exact hnumber (by decide)
  · exact hnumber (by decide)
  · exact hnumber (by decide)
  · exact @hname locale.months (by simp) (fun i => .number .month (i + 1))
  · exact @hname locale.shortMonths (by simp) (fun i => .number .month (i + 1))
  · exact @hname locale.weekdays (by simp) (fun _ => .ignored)
  · exact @hname locale.shortWeekdays (by simp) (fun _ => .ignored)

end Dates

end Datetime

end Almanac
