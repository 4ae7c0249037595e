import Almanac.Proofs.Datetime.Layout
import Almanac.Proofs.Text.TightPieces

/-!
# Compacting twice

A text that is laid out is the layout of itself, and so is what is left of it without some of its
spaces (`IsLaidOut.of_dropsBlanks`). Compaction leaves out white space of a laid out text around
the delimiter of its range macro and around the macro. To compact the result again is then to trim
around the delimiter and the macro of the result.

The macro of the result has the same delimiter, since no white space is dropped within the
delimiter where trimming does not find it overlapping itself (`exists_macro_stripSides`). A macro
is unbordered (`unbordered_rangeMacro`), so that no white space is left beside it. Beside the
delimiter none comes back unless an occurrence of it is brought about by trimming around the macro
(`IsSteady`). So compacting twice is compacting once (`compact_compact`), but not for every
delimiter (`compact_compact_ne`).
-/

namespace Almanac.Datetime

open Almanac.Text

/-! ## Texts that are laid out -/

/-- The characters are as `layoutFrom` leaves them: only single spaces, and none beside a tight
character or at an end. -/
inductive IsLaidOut (tight : Char → Bool) : Bool → List Char → Prop
  | nil {glued : Bool} : IsLaidOut tight glued []
  | char {glued : Bool} {c : Char} {cs : List Char} : isBlank c = false →
      IsLaidOut tight (tight c) cs → IsLaidOut tight glued (c :: cs)
  | space {c : Char} {cs : List Char} : isBlank c = false → tight c = false →
      IsLaidOut tight (tight c) cs → IsLaidOut tight false (' ' :: c :: cs)

theorem isLaidOut_layoutFrom (tight : Char → Bool) (glued gap : Bool) (cs : List Char) :
    IsLaidOut tight glued (layoutFrom tight glued gap cs) := by
  induction cs generalizing glued gap with
  | nil => exact .nil
  | cons c cs ih =>
    cases hc : isBlank c with
    | true =>
      rw [layoutFrom_blank hc]
      exact ih glued true
    | false =>
      have hrest := ih (tight c) false
      rw [layoutFrom_char hc]
      cases htight : tight c with
      | true =>
        rw [htight] at hrest
        simpa using IsLaidOut.char hc (htight ▸ hrest)
      | false =>
        rw [htight] at hrest
        cases glued <;> cases gap
        · exact .char hc (htight ▸ hrest)
        · exact .space hc htight (htight ▸ hrest)
        · exact .char hc (htight ▸ hrest)
        · exact .char hc (htight ▸ hrest)

namespace IsLaidOut

variable {tight : Char → Bool} {glued : Bool} {cs : List Char}

theorem layoutFrom_eq (h : IsLaidOut tight glued cs) : layoutFrom tight glued false cs = cs := by
  induction h with
  | nil => rfl
  | char hc _ ih =>
    rw [layoutFrom_char hc, ih]
    rfl
  | space hc htight _ ih =>
    have hspace : isBlank ' ' = true := by decide
    rw [layoutFrom_blank hspace, layoutFrom_char hc, ih, htight]
    rfl

/-- Spaces can be left out. -/
theorem of_dropsBlanks (h : IsLaidOut tight glued cs) {out : List Char}
    (hdrops : DropsBlanks cs out) : IsLaidOut tight glued out := by
  induction h generalizing out with
  | nil =>
    cases hdrops
    exact nil
  | char hc _ ih =>
    cases hdrops with
    | keep hdrops => exact char hc (ih hdrops)
    | drop hblank _ => rw [hc] at hblank; cases hblank
  | space hc htight _ ih =>
    cases hdrops with
    | keep hdrops =>
      cases hdrops with
      | keep hdrops => exact space hc htight (ih hdrops)
      | drop hblank _ => rw [hc] at hblank; cases hblank
    | drop _ hdrops =>
      cases hdrops with
      | keep hdrops => exact char hc (ih hdrops)
      | drop hblank _ => rw [hc] at hblank; cases hblank

theorem layout_eq (h : IsLaidOut isTight true cs) : layout cs = cs := h.layoutFrom_eq

theorem noBlankEnds (h : IsLaidOut isTight true cs) : NoBlankEnds cs := by
  constructor
  · cases h with
    | nil => rfl
    | char hc _ => exact hc
  · cases hlast : cs.getLast? with
    | none => rfl
    | some c =>
      have hmem : c ∈ (layoutFrom isTight true false cs).getLast? := by
        rw [h.layoutFrom_eq]
        exact hlast
      exact not_isBlank_getLast?_layoutFrom hmem

end IsLaidOut

theorem isLaidOut_layout (cs : List Char) : IsLaidOut isTight true (layout cs) :=
  isLaidOut_layoutFrom isTight true false cs

/-! ## The macro that counts -/

/-- The parts of a text around the macro that counts: the last one that is closed, up to the last
closing brace. -/
structure IsLastMacro (cs : List Char) (parts : RangeParts) : Prop where
  eq_append : cs = parts.start ++ (rangeMacro parts.delimiter ++ parts.finish)
  no_opening : occurs macroOpening parts.delimiter = false
  no_closing : '\x7d' ∉ parts.finish

theorem unbordered_macroOpening : Unbordered macroOpening := by decide

theorem rangeMacro_append (delimiter back : List Char) :
    rangeMacro delimiter ++ back = macroOpening ++ (delimiter ++ '\x7d' :: back) := by
  rw [rangeMacro, List.append_assoc, List.append_assoc, List.singleton_append]

theorem findMacro?_ne_none (front delimiter back : List Char) :
    findMacro? (front ++ (rangeMacro delimiter ++ back)) ≠ none := by
  induction front with
  | nil =>
    intro hnone
    have hbegins := isPrefixOf_append_self macroOpening (delimiter ++ '\x7d' :: back)
    have hclosing : splitLast ['\x7d'] (delimiter ++ '\x7d' :: back) ≠ none := by
      have hoccurs := occurs_self_append delimiter ['\x7d'] back
      rw [List.singleton_append] at hoccurs
      rw [ne_eq, splitLast_eq_none_iff, hoccurs]
      exact Bool.noConfusion
    rw [List.nil_append, rangeMacro_append] at hnone
    change findMacro? ('%' :: (['r', 'a', 'n', 'g', 'e', '\x7b'] ++ _)) = none at hnone
    rw [findMacro?] at hnone
    split at hnone
    · cases hnone
    · split at hnone
      · exact hclosing (Option.map_eq_none_iff.mp hnone)
      · next hnot => exact hnot hbegins
  | cons c front ih =>
    intro hnone
    rw [List.cons_append, findMacro?] at hnone
    split at hnone
    · cases hnone
    · next hrest => exact ih hrest

theorem isLastMacro_of_findMacro? {cs : List Char} {parts : RangeParts}
    (h : findMacro? cs = some parts) : IsLastMacro cs parts := by
  suffices hends : occurs macroOpening parts.delimiter = false ∧ '\x7d' ∉ parts.finish from
    ⟨eq_append_of_findMacro? h, hends.1, hends.2⟩
  induction cs generalizing parts with
  | nil => cases h
  | cons c cs ih =>
    rw [findMacro?] at h
    split at h
    · next found hfound =>
      cases h
      obtain ⟨hopening, hclosing⟩ := ih hfound
      exact ⟨hopening, hclosing⟩
    · next hnone =>
      split at h
      · next hbegins =>
        obtain ⟨⟨delimiter, finish⟩, hsplit, rfl⟩ := Option.map_eq_some_iff.mp h
        refine ⟨Bool.eq_false_iff.mpr fun hoccurs => ?_, not_mem_of_splitLast hsplit⟩
        -- an opening in the delimiter would be closed by the brace behind it
        obtain ⟨front, back, heq⟩ := occurs_iff_isInfix.mp hoccurs
        have hdelimiter : front ++ macroOpening ++ back = delimiter := heq
        have hcs := eq_append_drop_of_isPrefixOf hbegins
        rw [eq_append_of_splitLast hsplit, ← hdelimiter] at hcs
        have hrest : cs = ['r', 'a', 'n', 'g', 'e', '\x7b'] ++ front ++
            (rangeMacro back ++ finish) := by
          rw [rangeMacro_append]
          have htail := congrArg List.tail hcs
          simpa [macroOpening] using htail
        rw [hrest] at hnone
        exact findMacro?_ne_none _ _ _ hnone
      · cases h

/-- The last macro is in one place only. -/
theorem IsLastMacro.unique {cs : List Char} {parts parts' : RangeParts} (h : IsLastMacro cs parts)
    (h' : IsLastMacro cs parts') : parts = parts' := by
  obtain ⟨start, delimiter, finish⟩ := parts
  obtain ⟨start', delimiter', finish'⟩ := parts'
  obtain ⟨heq, hopening, hclosing⟩ := h
  obtain ⟨heq', hopening', hclosing'⟩ := h'
  have hsplit (start delimiter : List Char) {finish : List Char} (hclosing : '\x7d' ∉ finish) :
      splitLast ['\x7d'] (start ++ (rangeMacro delimiter ++ finish)) =
        some (start ++ (macroOpening ++ delimiter), finish) := by
    have hlast : ∀ c ∈ ['\x7d'], c ∉ finish := List.forall_mem_singleton.mpr hclosing
    rw [rangeMacro]
    simpa only [List.append_assoc] using
      splitLast_append_piece (List.cons_ne_nil _ _) hlast (start ++ (macroOpening ++ delimiter))
  have hends := hsplit start delimiter hclosing
  rw [← heq, heq', hsplit start' delimiter' hclosing', Option.some.injEq, Prod.mk.injEq] at hends
  obtain ⟨hfront, rfl⟩ := hends
  rcases unbordered_macroOpening.occurrence_cases hfront with
    ⟨gap, -, rfl⟩ | ⟨rfl, rfl⟩ | ⟨gap, -, rfl⟩
  · rw [occurs_self_append] at hopening
    cases hopening
  · rfl
  · rw [occurs_self_append] at hopening'
    cases hopening'

theorem splitMacro?_eq_some_iff {cs : List Char} {parts : RangeParts} :
    splitMacro? cs = some parts ↔ '\n' ∉ cs ∧ IsLastMacro cs parts := by
  have hline : cs.contains '\n' = true ↔ '\n' ∈ cs := List.contains_iff_mem
  rw [splitMacro?]
  split
  · next h => simp [hline.mp h]
  · next h =>
    constructor
    · exact fun hfound => ⟨fun hmem => h (hline.mpr hmem), isLastMacro_of_findMacro? hfound⟩
    · rintro ⟨-, hlast⟩
      cases hfound : findMacro? cs with
      | none =>
        rw [hlast.eq_append] at hfound
        exact absurd hfound (findMacro?_ne_none _ _ _)
      | some found => rw [(isLastMacro_of_findMacro? hfound).unique hlast]

/-! ## Trimming around the macro -/

theorem stripAround_eq_stripSides {separator cs : List Char} (hne : separator ≠ [])
    (hends : NoBlankEnds cs) : stripAround separator cs = stripSides separator true true cs := by
  cases hoccurs : occurs separator cs with
  | true => exact stripAround_of_occurs hne hoccurs
  | false =>
    rw [stripSides_of_none _ _ (splitFirst_eq_none_iff.mpr hoccurs), stripAround, hoccurs,
      Bool.not_false, Bool.or_true, if_pos rfl]
    exact hends.trimChars_eq_self.symm

theorem stripAround_nil (cs : List Char) : stripAround [] cs = cs := rfl

theorem rangeMacro_ne_nil (delimiter : List Char) : rangeMacro delimiter ≠ [] :=
  List.append_ne_nil_of_right_ne_nil _ (List.cons_ne_nil _ _)

theorem noBlankEnds_rangeMacro (delimiter : List Char) : NoBlankEnds (rangeMacro delimiter) := by
  refine ⟨rfl, ?_⟩
  rw [rangeMacro, List.getLast?_concat]
  rfl

/-- A macro does not begin within itself, unless its delimiter holds an opening. -/
theorem unbordered_rangeMacro {delimiter : List Char}
    (h : occurs macroOpening delimiter = false) : Unbordered (rangeMacro delimiter) := by
  intro border hne hbegins hsuffix
  by_contra hother
  have hopens : macroOpening <+: rangeMacro delimiter := by
    rw [rangeMacro, List.append_assoc]
    exact List.prefix_append _ _
  rcases List.prefix_or_prefix_of_prefix hopens hbegins with hopening | hopening
  · -- the opening would come again behind the first sign
    have htail : border <:+ ['r', 'a', 'n', 'g', 'e', '\x7b'] ++ (delimiter ++ '\x7d' :: []) := by
      have hcons : rangeMacro delimiter =
          '%' :: (['r', 'a', 'n', 'g', 'e', '\x7b'] ++ (delimiter ++ '\x7d' :: [])) := by
        simp [rangeMacro, macroOpening]
      rw [hcons] at hsuffix hother
      exact (List.suffix_cons_iff.mp hsuffix).resolve_left hother
    have hnone : occurs macroOpening
        (['r', 'a', 'n', 'g', 'e', '\x7b'] ++ (delimiter ++ '\x7d' :: [])) = false := by
      have hclosing : '\x7d' ∉ macroOpening := by decide
      have hglue := occurs_glue hclosing (List.cons_ne_nil _ _) delimiter []
      have hsign : '%' ∉ ['r', 'a', 'n', 'g', 'e', '\x7b'] := by decide
      rw [macroOpening, occurs_append hsign]
      rw [macroOpening] at hglue h
      rw [hglue, h]
      rfl
    rw [occurs_iff_isInfix.mpr (hopening.isInfix.trans htail.isInfix)] at hnone
    cases hnone
  · -- a piece of the opening does not end with the brace
    have hlast : border.getLast? = some '\x7d' := by
      obtain ⟨front, hfront⟩ := hsuffix
      rw [← List.getLast?_append_of_ne_nil front hne, hfront, rangeMacro, List.getLast?_concat]
    exact absurd (hopening.subset (List.mem_of_getLast? hlast)) (by decide)

/-- What is left of a text around a macro when white space is left out. -/
theorem exists_macro_of_dropsBlanks {start delimiter finish out : List Char}
    (h : DropsBlanks (start ++ (rangeMacro delimiter ++ finish)) out) :
    ∃ start' delimiter' finish', out = start' ++ (rangeMacro delimiter' ++ finish') ∧
      DropsBlanks delimiter delimiter' ∧ DropsBlanks finish finish' := by
  rw [rangeMacro_append] at h
  obtain ⟨start', rest, rfl, -, hrest⟩ := h.exists_append
  obtain ⟨opening, rest, rfl, hopening, hrest⟩ := hrest.exists_append
  obtain ⟨delimiter', rest, rfl, hdelimiter, hrest⟩ := hrest.exists_append
  rw [← List.singleton_append] at hrest
  obtain ⟨closing, finish', rfl, hclosing, hfinish⟩ := hrest.exists_append
  rw [hopening.eq_self (by decide), hclosing.eq_self (by decide), List.singleton_append,
    ← rangeMacro_append]
  exact ⟨start', delimiter', finish', rfl, hdelimiter, hfinish⟩

/-- A delimiter for which compacting a text once is enough: two occurrences of it do not overlap,
or there is no white space beside it to begin with, and it can neither reach into a macro from the
left nor out of one to the right. -/
structure IsSteady (delimiter cs : List Char) : Prop where
  apart : Unbordered delimiter ∨ NoBlankBeside delimiter cs
  opening : '%' ∉ delimiter.tail
  closing : '\x7d' ∉ delimiter.dropLast

variable {cs : List Char} {parts : RangeParts}

theorem eq_nil_of_getLast? {front blanks : List Char} (hblanks : ∀ c ∈ blanks, isBlank c = true)
    (h : (front ++ blanks).getLast?.any isBlank = false) : blanks = [] := by
  rcases List.eq_nil_or_concat blanks with rfl | ⟨init, c, rfl⟩
  · rfl
  · rw [List.concat_eq_append] at hblanks h
    have hc := hblanks c (List.mem_append_right _ List.mem_cons_self)
    rw [← List.append_assoc, List.getLast?_concat, Option.any_some, hc] at h
    cases h

theorem eq_nil_of_head? {blanks back : List Char} (hblanks : ∀ c ∈ blanks, isBlank c = true)
    (h : (blanks ++ back).head?.any isBlank = false) : blanks = [] := by
  cases blanks with
  | nil => rfl
  | cons c blanks =>
    rw [List.cons_append, List.head?_cons, Option.any_some, hblanks c List.mem_cons_self] at h
    cases h

/-- White space that was left around the delimiter of a macro is beside an occurrence of it. -/
theorem rangeMacro_of_noBlankBeside {start before delimiter after finish : List Char}
    (hbefore : ∀ c ∈ before, isBlank c = true) (hafter : ∀ c ∈ after, isBlank c = true)
    (hcs : cs = (start ++ (macroOpening ++ before)) ++ (delimiter ++ (after ++ '\x7d' :: finish)))
    (h : NoBlankBeside delimiter cs) : cs = start ++ (rangeMacro delimiter ++ finish) := by
  obtain ⟨hlast, hnext⟩ := h _ _ hcs
  rw [← List.append_assoc] at hlast
  have hnil := eq_nil_of_getLast? hbefore hlast
  have hnil' := eq_nil_of_head? hafter hnext
  rw [hcs, hnil, hnil', rangeMacro_append]
  simp only [List.append_nil, List.nil_append, List.append_assoc]

/-- Trimming around the delimiter leaves the macro with it as it is, and no white space beside
it. -/
theorem exists_macro_stripSides (hends : NoBlankEnds cs) (hlast : IsLastMacro cs parts)
    (hne : trimChars parts.delimiter ≠ [])
    (hapart : Unbordered (trimChars parts.delimiter) ∨
      NoBlankBeside (trimChars parts.delimiter) cs) :
    NoBlankBeside (trimChars parts.delimiter)
        (stripSides (trimChars parts.delimiter) true true cs) ∧
      ∃ start finish, stripSides (trimChars parts.delimiter) true true cs =
        start ++ (rangeMacro (trimChars parts.delimiter) ++ finish) ∧ '\x7d' ∉ finish := by
  obtain ⟨before, after, hdelimiter, hbefore, hafter⟩ := exists_trimChars parts.delimiter
  have hdelimiterEnds := noBlankEnds_trimChars parts.delimiter
  have hcs : cs = (parts.start ++ (macroOpening ++ before)) ++ (trimChars parts.delimiter ++
      (after ++ '\x7d' :: parts.finish)) := by
    conv_lhs => rw [hlast.eq_append, rangeMacro_append, hdelimiter]
    simp only [List.append_assoc]
  generalize trimChars parts.delimiter = delimiter at *
  rcases hapart with hunbordered | hbeside
  · have hbeside := hunbordered.noBlankBeside_stripSides hne hdelimiterEnds cs
    refine ⟨hbeside, ?_⟩
    obtain ⟨start, opening, hstart, -, hopening⟩ := DropsBlanks.exists_append
      (.stripSides hne (parts.start ++ (macroOpening ++ before)))
    obtain ⟨opening, before', rfl, hopening, hbefore'⟩ := hopening.exists_append
    obtain ⟨after', rest, hfinish, hafter', hrest⟩ := DropsBlanks.exists_append
      (.stripSides hne (after ++ '\x7d' :: parts.finish))
    rw [← List.singleton_append] at hrest
    obtain ⟨closing, finish, rfl, hclosing, hrest⟩ := hrest.exists_append
    rw [hopening.eq_self (by decide)] at hstart
    rw [hclosing.eq_self (by decide)] at hfinish
    have hstripped := hunbordered.stripSides_append hne
      (parts.start ++ (macroOpening ++ before)) (after ++ '\x7d' :: parts.finish)
    rw [← hcs, hstart, hfinish] at hstripped
    exact ⟨start, finish, rangeMacro_of_noBlankBeside (fun c hc => hbefore c (hbefore'.subset hc))
      (fun c hc => hafter c (hafter'.subset hc)) hstripped hbeside,
      fun hmem => hlast.no_closing (hrest.subset hmem)⟩
  · rw [hbeside.stripSides_eq_self hne hends]
    exact ⟨hbeside, parts.start, parts.finish,
      rangeMacro_of_noBlankBeside hbefore hafter hcs hbeside, hlast.no_closing⟩

/-- A text is compact when there is no white space beside the delimiter and the macro. -/
theorem compactChars_eq_self (hlaid : IsLaidOut isTight true cs) (hline : '\n' ∉ cs)
    (hlast : IsLastMacro cs parts)
    (hdelimiter : trimChars parts.delimiter ≠ [] → NoBlankBeside (trimChars parts.delimiter) cs)
    (haround : NoBlankBeside (rangeMacro (trimChars parts.delimiter)) cs) :
    compactChars cs = cs := by
  have hsplit : splitMacro? (layout cs) = some parts := by
    rw [hlaid.layout_eq]
    exact splitMacro?_eq_some_iff.mpr ⟨hline, hlast⟩
  have hstrip : stripAround (trimChars parts.delimiter) cs = cs := by
    by_cases hne : trimChars parts.delimiter = []
    · rw [hne, stripAround_nil]
    · rw [stripAround_eq_stripSides hne hlaid.noBlankEnds]
      exact (hdelimiter hne).stripSides_eq_self hne hlaid.noBlankEnds
  have hne := rangeMacro_ne_nil (trimChars parts.delimiter)
  rw [compactChars_of_some hsplit, hlaid.layout_eq, hstrip,
    stripAround_eq_stripSides hne hlaid.noBlankEnds]
  exact haround.stripSides_eq_self hne hlaid.noBlankEnds

/-- A delimiter of white space only: just the macro is trimmed around. -/
theorem compactChars_stripSides_blank (hlaid : IsLaidOut isTight true cs) (hline : '\n' ∉ cs)
    (hlast : IsLastMacro cs parts) (hblank : trimChars parts.delimiter = []) :
    compactChars (stripSides (rangeMacro []) true true cs) =
      stripSides (rangeMacro []) true true cs := by
  have hne := rangeMacro_ne_nil []
  have hdrops := DropsBlanks.stripSides hne cs
  have hunbordered : Unbordered (rangeMacro []) := unbordered_rangeMacro rfl
  have haround := hunbordered.noBlankBeside_stripSides hne (noBlankEnds_rangeMacro []) cs
  generalize stripSides (rangeMacro []) true true cs = out at hdrops haround ⊢
  have hwhole := hdrops
  rw [hlast.eq_append] at hwhole
  obtain ⟨start, delimiter, finish, hout, hdelimiter, hfinish⟩ :=
    exists_macro_of_dropsBlanks hwhole
  have hblanks : ∀ c ∈ parts.delimiter, isBlank c = true := by
    obtain ⟨before, after, heq, hbefore, hafter⟩ := exists_trimChars parts.delimiter
    rw [heq, hblank, List.append_nil]
    exact List.forall_mem_append.mpr ⟨hbefore, hafter⟩
  have hblanks' : ∀ c ∈ delimiter, isBlank c = true := fun c hc => hblanks c (hdelimiter.subset hc)
  have htrim : trimChars delimiter = [] := by
    rw [trimChars, dropBlank_eq_nil hblanks']
    rfl
  have hlast' : IsLastMacro out ⟨start, delimiter, finish⟩ := by
    refine ⟨hout, occurs_eq_false (c := '%') List.mem_cons_self fun hmem => ?_,
      fun hmem => hlast.no_closing (hfinish.subset hmem)⟩
    exact absurd (hblanks' _ hmem) (by decide)
  refine compactChars_eq_self (hlaid.of_dropsBlanks hdrops)
    (fun hmem => hline (hdrops.subset hmem)) hlast' (fun hne => absurd htrim hne) ?_
  rw [htrim]
  exact haround

/-- Any other steady delimiter: both it and the macro are trimmed around. -/
theorem compactChars_stripSides (hlaid : IsLaidOut isTight true cs) (hline : '\n' ∉ cs)
    (hlast : IsLastMacro cs parts) {delimiter : List Char}
    (hdelimiter : trimChars parts.delimiter = delimiter) (hne : delimiter ≠ [])
    (hsteady : IsSteady delimiter cs) :
    compactChars (stripSides (rangeMacro delimiter) true true (stripSides delimiter true true cs)) =
      stripSides (rangeMacro delimiter) true true (stripSides delimiter true true cs) := by
  subst hdelimiter
  have hends := noBlankEnds_trimChars parts.delimiter
  have hopening : occurs macroOpening (trimChars parts.delimiter) = false := by
    obtain ⟨before, after, heq, -, -⟩ := exists_trimChars parts.delimiter
    exact occurs_eq_false_of_isInfix ⟨before, after, heq.symm⟩ hlast.no_opening
  obtain ⟨hbeside, start, finish, hstripped, hclosing⟩ :=
    exists_macro_stripSides hlaid.noBlankEnds hlast hne hsteady.apart
  have hdrops := DropsBlanks.stripSides hne cs
  generalize trimChars parts.delimiter = delimiter at *
  generalize stripSides delimiter true true cs = out at hbeside hstripped hdrops ⊢
  have hnotNil := rangeMacro_ne_nil delimiter
  have hunbordered := unbordered_rangeMacro hopening
  have hdrops' := DropsBlanks.stripSides hnotNil out
  have hlast' : IsLastMacro (stripSides (rangeMacro delimiter) true true out)
      ⟨stripSides (rangeMacro delimiter) true true start, delimiter,
        stripSides (rangeMacro delimiter) true true finish⟩ := by
    refine ⟨?_, hopening, fun hmem => hclosing ((DropsBlanks.stripSides hnotNil _).subset hmem)⟩
    rw [hstripped]
    exact hunbordered.stripSides_append hnotNil start finish
  refine compactChars_eq_self ((hlaid.of_dropsBlanks hdrops).of_dropsBlanks hdrops')
    (fun hmem => hline (hdrops.subset (hdrops'.subset hmem))) hlast' (fun _ => ?_) ?_
  · rw [hends.trimChars_eq_self]
    exact hbeside.stripSides hne hsteady.opening hsteady.closing (by decide) (by decide)
  · rw [hends.trimChars_eq_self]
    exact hunbordered.noBlankBeside_stripSides hnotNil (noBlankEnds_rangeMacro delimiter) out

/-- **Compacting twice is compacting once**, where the delimiter of the range is steady. -/
theorem compact_compact {s : String}
    (h : ∀ parts, splitMacro? (layout s.toList) = some parts →
      IsSteady (trimChars parts.delimiter) (layout s.toList)) :
    compact (compact s) = compact s := by
  have hlaid := isLaidOut_layout s.toList
  rw [compact, compact, String.toList_ofList]
  congr 1
  cases hsplit : splitMacro? (layout s.toList) with
  | none =>
    have hagain : splitMacro? (layout (layout s.toList)) = none := by
      rw [hlaid.layout_eq, hsplit]
    rw [compactChars_of_none hsplit, compactChars_of_none hagain, hlaid.layout_eq]
  | some parts =>
    have hsteady := h parts hsplit
    obtain ⟨hline, hlast⟩ := splitMacro?_eq_some_iff.mp hsplit
    rw [compactChars_of_some hsplit]
    by_cases hne : trimChars parts.delimiter = []
    · rw [hne, stripAround_nil,
        stripAround_eq_stripSides (rangeMacro_ne_nil []) hlaid.noBlankEnds]
      exact compactChars_stripSides_blank hlaid hline hlast hne
    · have hdrops := DropsBlanks.stripSides hne (layout s.toList)
      rw [stripAround_eq_stripSides hne hlaid.noBlankEnds,
        stripAround_eq_stripSides (rangeMacro_ne_nil _) (hlaid.of_dropsBlanks hdrops).noBlankEnds]
      exact compactChars_stripSides hlaid hline hlast rfl hne hsteady

/-- A delimiter of two letters with white space around it, in the macro and before it. -/
theorem compact_compact_dates :
    let format := " %d. %m. až %B %Y  %range\x7b až \x7d %d.%m.%Y"
    splitMacro? (layout format.toList) =
        some ⟨"%d.%m.až %B %Y ".toList, " až ".toList, " %d.%m.%Y".toList⟩ ∧
      IsSteady "až".toList (layout format.toList) ∧ compact (compact format) = compact format ∧
      compact format = "%d.%m.až%B %Y%range\x7baž\x7d%d.%m.%Y" := by
  intro format
  have hsplit : splitMacro? (layout format.toList) =
      some ⟨"%d.%m.až %B %Y ".toList, " až ".toList, " %d.%m.%Y".toList⟩ := by decide +kernel
  have hsteady : IsSteady "až".toList (layout format.toList) :=
    ⟨.inl (by decide), by decide, by decide⟩
  refine ⟨hsplit, hsteady, compact_compact fun parts hparts => ?_, by decide +kernel⟩
  rw [hsplit, Option.some.injEq] at hparts
  rw [← hparts]
  have htrim : trimChars " až ".toList = "až".toList := by decide +kernel
  exact htrim ▸ hsteady

/-- Where an occurrence of the delimiter comes into being by trimming around another one, white
space beside it is dropped the second time only. -/
theorem compact_compact_ne :
    let format := "a aa a %d.%m.%Y%range\x7baa\x7d%d.%m.%Y"
    compact (compact format) ≠ compact format ∧
      compact format = "aaaa %d.%m.%Y%range\x7baa\x7d%d.%m.%Y" ∧
      compact (compact format) = "aaaa%d.%m.%Y%range\x7baa\x7d%d.%m.%Y" := by
  decide +kernel

end Almanac.Datetime
