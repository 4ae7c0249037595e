import Almanac.Proofs.Datetime.TimeFormats
import Almanac.Proofs.Datetime.UsualSpan

/-!
# Ranges of times on one day

A value states a day in the format of a template and, apart from it, two times with the delimiter
between them. Formats are split at the range macro, which the format of dates does not have;
values are split at the delimiter, in the date as well as in the time. Where the delimiter does
not occur in the date, the two agree (`prepare_times`): the candidate that is made of both formats
reads the value (`readStated?_compactValue`). The other candidates have fewer colons
(`eq_single_of_read?`) or are the usual one, which reads the same or nothing
(`eq_of_readStated?_usualTimes`), so the value is normalized as it is meant
(`normalize_timeSpan`).

Where the delimiter occurs in the date, the date is split there (`normalize_isoDate_eq_none`).
-/

namespace Almanac.Datetime

open Almanac.Text

/-! ## What formats of dates state -/

/-- Only one directive states a day. -/
theorem directive_day_mem {pieces : List Piece}
    (h : states (pieces.filterMap Piece.directive?) .day = true) : .directive .day ∈ pieces := by
  obtain ⟨d, hd, hslot⟩ := List.any_eq_true.mp h
  obtain rfl : d = .day := by cases d <;> first | rfl | cases hslot
  exact Piece.directive_mem_iff.mpr hd

/-- Of two times read behind a date, the first is kept. -/
theorem moment?_times (a : Date) {ds : List Directive} (hds : ∀ d ∈ ds, d ∈ dateDirectives)
    (hstates : ∀ slot ∈ [Slot.day, .month, .year], states ds slot = true) {t : TimeOfDay}
    (ht : t.second = 0 ∧ t.micro = 0) (hour minute : Nat) :
    (((((readAll a .midnight ds {}).add (.number .hour t.hour)).add
      (.number .minute t.minute)).add (.number .hour hour)).add (.number .minute minute)).moment? =
        some (a, t) := by
  have hslot (slot : Slot) : (readAll a .midnight ds {}).get slot =
      if states ds slot then some (slot.part a .midnight) else none := by
    rw [get_readAll]
    cases slot <;> rfl
  have hnone {slot : Slot} (h : states dateDirectives slot = false) :
      (readAll a .midnight ds {}).get slot = none := by
    rw [hslot, if_neg]
    rw [states, List.any_eq_false] at h
    rw [states, List.any_eq_true]
    rintro ⟨d, hd, hslot⟩
    exact h d (hds d hd) hslot
  have hsome {slot : Slot} (h : slot ∈ [Slot.day, .month, .year]) :
      (readAll a .midnight ds {}).get slot = some (slot.part a .midnight) := by
    rw [hslot, if_pos (hstates slot h)]
  have hyear : (readAll a .midnight ds {}).year = some a.year := @hsome .year (by decide)
  have hmonth : (readAll a .midnight ds {}).month = some a.month := @hsome .month (by decide)
  have hday : (readAll a .midnight ds {}).day = some a.day := @hsome .day (by decide)
  have hhour : (readAll a .midnight ds {}).hour = none := @hnone .hour (by decide)
  have hminute : (readAll a .midnight ds {}).minute = none := @hnone .minute (by decide)
  have hsecond : (readAll a .midnight ds {}).second = none := @hnone .second (by decide)
  have hmicro : (readAll a .midnight ds {}).micro = none := @hnone .micro (by decide)
  have htime := TimeOfDay.of?_self t
  rw [ht.1, ht.2] at htime
  refine moment?_eq_some ?_ ?_
  · simp [Fields.date?, Fields.add, hyear, hmonth, hday, Date.of?_self]
  · simp [Fields.time?, Fields.hourOfDay, Fields.add, hhour, hminute, hsecond, hmicro, htime]

/-- A candidate with fewer colons than a value does not read it. -/
theorem readStated?_eq_none_of_colons {locale : Locale} (hplain : locale.HasPlainNames)
    {format : List Char} {pieces : List Piece} (hspells : Piece.Spells format pieces)
    (hdirectives : ∀ d, .directive d ∈ pieces → d ∈ dateDirectives ∨ d ∈ usualDirectives)
    {value : List Char} (hcount : pieces.countP (Piece.reads ':') < value.count ':') :
    readStated? locale (compactFormat format) (String.ofList value) = none := by
  refine readStated?_eq_none_of_avoids (by decide) (hspells.compile?_layout locale)
    (fun d hd => ?_) ((Piece.countP_colon_layoutPieces true false pieces).trans_lt hcount)
  rw [Piece.directive_mem_iff, Piece.filterMap_layoutPieces, ← Piece.directive_mem_iff] at hd
  rcases hdirectives d hd with hdate | husual
  · exact avoids_colon hplain hdate
  · exact (isNumeric_of_mem_usualDirectives husual).avoids locale (by decide)

/-! ## Values -/

/-- The space that the layout keeps behind a text. -/
def spaceBehind (cs : List Char) : List Char :=
  if !Piece.gluedBehind true cs then [' '] else []

section Values

variable {locale : Locale} (hlocale : locale.IsReadable) (hplain : locale.HasPlainNames)
  {format : List Char} {pieces : List Piece} (hformat : IsDateFormat format pieces) (a : Date)
  {t u : TimeOfDay} {ts us : List Char} (hts : IsTimeText t ts) (hus : IsTimeText u us)

/-- What a format of dates writes of a day. -/
def writtenDate (locale : Locale) (pieces : List Piece) (a : Date) : List Char :=
  (Piece.mergeSpaces pieces).flatMap (Piece.write locale a .midnight)

/-- A written date in the layout of values. -/
def compactDate (locale : Locale) (pieces : List Piece) (a : Date) : List Char :=
  layout (plainDashes (writtenDate locale pieces a))

/-- A written date and two times behind it in the layout of values. -/
def compactValue (locale : Locale) (pieces : List Piece) (a : Date) (ts us : List Char) :
    List Char := layout (plainDashes (writtenDate locale pieces a) ++ ' ' :: (ts ++ '-' :: us))

include hplain hformat in
theorem percent_not_mem_writtenDate : '%' ∉ writtenDate locale pieces a := by
  rw [writtenDate, List.mem_flatMap]
  rintro ⟨piece, hpiece, hmem⟩
  have hpiece := Piece.mem_of_mem_mergeSpaces hpiece
  cases piece with
  | literal c =>
    obtain rfl := List.mem_singleton.mp hmem
    exact hformat.percent hpiece
  | space => exact absurd (List.mem_singleton.mp hmem) (by decide)
  | directive d =>
    exact (plain_of_mem_write hplain (hformat.directives d hpiece) hmem).2 (by decide)

include hlocale hplain hformat

/-- The layout of a written date is that of its pieces, and what comes behind it, in the format
and in the text, is laid out from one state. -/
theorem layoutFrom_writtenDate :
    ∃ gap, compactDate locale pieces a =
        (Piece.layoutPieces true false pieces).flatMap (Piece.write locale a .midnight) ∧
      (∀ more, Piece.layoutPieces true false (pieces ++ more) =
        Piece.layoutPieces true false pieces ++ Piece.layoutPieces
          (Piece.gluedBehind true (compactDate locale pieces a)) gap more) ∧
      ∀ rest, layout (plainDashes (writtenDate locale pieces a) ++ rest) =
        compactDate locale pieces a ++
          layoutFrom isTight (Piece.gluedBehind true (compactDate locale pieces a)) gap rest := by
  have hdirective : ∀ d, .directive d ∈ Piece.mergeSpaces pieces →
      d.write locale a .midnight ≠ [] ∧
        ∀ c ∈ d.write locale a .midnight, isLayoutChar c = false := by
    intro d hd
    have hdate := hformat.directives d (Piece.mem_of_mem_mergeSpaces hd)
    obtain ⟨c, cs, hwrite, -⟩ := write_begins a .midnight hlocale d
    exact ⟨hwrite ▸ List.cons_ne_nil c cs, fun c hc => (plain_of_mem_write hplain hdate hc).1⟩
  have hliteral : ∀ c, .literal c ∈ Piece.mergeSpaces pieces → isBlank c = false := fun c hc =>
    hformat.spells.not_isBlank_of_literal (Piece.mem_of_mem_mergeSpaces hc)
  have hmerged := Piece.layoutPieces_mergeSpaces true false pieces
  obtain ⟨out, gap, hout, hmore, htext⟩ := Piece.layoutFrom_write hdirective hliteral true false
  have hlayout : compactDate locale pieces a = out := by
    have hend := htext []
    rwa [List.append_nil, layoutFrom, List.append_nil] at hend
  have hself : Piece.layoutPieces true false (Piece.mergeSpaces pieces) =
      Piece.layoutPieces true false pieces := by
    have h := hmerged []
    rwa [List.append_nil, List.append_nil] at h
  rw [hlayout]
  refine ⟨gap, ?_, fun more => ?_, htext⟩
  · rw [hout, hself]
  · rw [← hmerged, hmore, hself]

theorem compactDate_ne_nil {d : Directive} (hd : .directive d ∈ pieces) :
    compactDate locale pieces a ≠ [] := by
  obtain ⟨gap, hwritten, -, -⟩ := layoutFrom_writtenDate hlocale hplain hformat a
  obtain ⟨c, cs, hwrite, -⟩ := write_begins a .midnight hlocale d
  rw [Piece.directive_mem_iff, ← Piece.filterMap_layoutPieces true false,
    ← Piece.directive_mem_iff] at hd
  refine List.ne_nil_of_mem (a := c) ?_
  rw [hwritten, List.mem_flatMap]
  refine ⟨_, hd, ?_⟩
  rw [Piece.write, hwrite]
  exact List.mem_cons_self

/-- The colons of a date are those of its format. -/
theorem count_colon_compactDate :
    (compactDate locale pieces a).count ':' = pieces.countP (Piece.reads ':') := by
  obtain ⟨gap, hwritten, -, -⟩ := layoutFrom_writtenDate hlocale hplain hformat a
  have hdirectives : ∀ d, .directive d ∈ Piece.layoutPieces true false pieces →
      d ∈ dateDirectives := by
    intro d hd
    rw [Piece.directive_mem_iff, Piece.filterMap_layoutPieces, ← Piece.directive_mem_iff] at hd
    exact hformat.directives d hd
  have hcount {pieces : List Piece} (hd : ∀ d, .directive d ∈ pieces → d ∈ dateDirectives) :
      (pieces.flatMap (Piece.write locale a .midnight)).count ':' =
        pieces.countP (Piece.reads ':') := by
    induction pieces with
    | nil => rfl
    | cons piece pieces ih =>
      rw [List.flatMap_cons, List.count_append, List.countP_cons,
        ih fun d h => hd d (List.mem_cons_of_mem _ h), Nat.add_comm]
      congr 1
      cases piece with
      | space => rfl
      | literal l => rw [Piece.reads_colon, Piece.write, List.count_singleton]
      | directive d =>
        refine List.count_eq_zero.mpr fun hcolon => ?_
        exact (plain_of_mem_write hplain (hd d List.mem_cons_self) hcolon).2 List.mem_cons_self
  rw [hwritten, hcount hdirectives, Piece.countP_colon_layoutPieces]

include hts hus

/-- The value that the candidates read: the date in the layout, a space unless a dot or dash
stands before it, and the times. -/
theorem compactValue_eq :
    compactValue locale pieces a ts us =
      compactDate locale pieces a ++ spaceBehind (compactDate locale pieces a) ++
        (ts ++ '-' :: us) := by
  obtain ⟨gap, -, -, htext⟩ := layoutFrom_writtenDate hlocale hplain hformat a
  have hblank : isBlank ' ' = true := by decide
  have hdash : isBlank '-' = false := by decide
  have hend := laysOut_timeText hus true false []
  rw [List.append_nil] at hend
  rw [compactValue, htext, layoutFrom_blank hblank, laysOut_timeText hts,
    layoutFrom_tight hdash rfl, hend, spaceBehind]
  simp [layoutFrom]

theorem count_colon_compactValue :
    2 + pieces.countP (Piece.reads ':') ≤ (compactValue locale pieces a ts us).count ':' := by
  have hcolon {t : TimeOfDay} {ts : List Char} (h : IsTimeText t ts) : 1 ≤ ts.count ':' := by
    obtain ⟨hour, minute, -, -, rfl⟩ := h
    exact List.count_pos_iff.mpr (by simp)
  have := hcolon hts
  have := hcolon hus
  rw [compactValue_eq hlocale hplain hformat a hts hus, List.count_append, List.count_append,
    count_colon_compactDate hlocale hplain hformat, List.count_append, List.count_cons]
  omega

/-! ## Reading -/

omit hts hus in
/-- The pieces before the times in the candidate of both formats write what stands before the
times in a value. -/
theorem exists_pieces_before_times :
    ∃ front : List Piece,
      Piece.layoutPieces true false (pieces ++ .space :: timesPieces) = front ++ timesPieces ∧
      compactDate locale pieces a ++ spaceBehind (compactDate locale pieces a) =
        front.flatMap (Piece.write locale a .midnight) ∧
      front.filterMap Piece.directive? = pieces.filterMap Piece.directive? := by
  obtain ⟨gap, hwritten, hmore, -⟩ := layoutFrom_writtenDate hlocale hplain hformat a
  refine ⟨Piece.layoutPieces true false pieces ++ Piece.gapPieces (!Piece.gluedBehind true
    (compactDate locale pieces a)), ?_, ?_, ?_⟩
  · rw [hmore, List.append_assoc]
    rfl
  · rw [List.flatMap_append, ← hwritten, spaceBehind]
    cases Piece.gluedBehind true _ <;> rfl
  · rw [List.filterMap_append, Piece.filterMap_layoutPieces]
    cases Piece.gluedBehind true _ <;> simp [Piece.gapPieces, Piece.directive?]

/-- The candidate of both formats reads the date and the times as they were written. -/
theorem matchPieces?_compactValue (hyear : 1 ≤ a.year ∧ a.year ≤ 9999) :
    matchPieces? locale (Piece.layoutPieces true false (pieces ++ .space :: timesPieces))
        (compactValue locale pieces a ts us) {} =
      some (((((readAll a .midnight (pieces.filterMap Piece.directive?) {}).add
        (.number .hour t.hour)).add (.number .minute t.minute)).add
        (.number .hour u.hour)).add (.number .minute u.minute)) := by
  obtain ⟨front, hfront, htext, hdirectives⟩ :=
    exists_pieces_before_times hlocale hplain hformat a
  have hchain := Piece.isChain_layoutPieces true false (pieces ++ .space :: timesPieces)
  have hspells := hformat.spells_times.layout true false
  rw [hfront] at hchain hspells
  have hliteral : ∀ c, .literal c ∈ front → isBlank c = false := fun c hc =>
    hspells.not_isBlank_of_literal (List.mem_append_left _ hc)
  have hshort : .shortYear ∈ front.filterMap Piece.directive? →
      1969 ≤ a.year ∧ a.year ≤ 2068 := by
    intro hmem
    rw [hdirectives, ← Piece.directive_mem_iff] at hmem
    exact absurd (hformat.directives _ hmem) (by decide)
  have hbegins : ∀ c ∈ (ts ++ '-' :: us).head?, isBlank c = false := by
    obtain ⟨⟨c, rest, rfl, hblank⟩, -⟩ := (isMomentText_timeText hts).trimmed
    rintro _ ⟨⟩
    exact hblank
  have hdash : isAsciiDigit '-' = false := by decide
  rw [hfront, compactValue_eq hlocale hplain hformat a hts hus, htext]
  refine matchPieces?_write_append a .midnight hlocale hyear hshort hchain.left_of_append hliteral
    hbegins ?_
  rw [hdirectives]
  refine matchPieces?_timePieces_append hts (not_isAsciiDigit_head hdash us) ?_
  exact (matchPieces?_literal '-' _ _ _).trans (matchPieces?_timePieces hus _)

omit hlocale hplain hts hus in
/-- The candidate of both formats states a date and a time. -/
theorem hasDirective_compactFormat (hday : .directive .day ∈ pieces) :
    hasDirective dateLetters
        (compactFormat (format ++ ' ' :: usualTimes.toList)).toList = true ∧
      hasDirective timeLetters
        (compactFormat (format ++ ' ' :: usualTimes.toList)).toList = true := by
  have hspells := hformat.spells_times.layout true false
  have hletters : ∀ p ∈ Directive.letters, (p.2 = .day → p.1 ∈ dateLetters) ∧
      (p.2 = .hour → p.1 ∈ timeLetters) := by decide
  have hmem {d : Directive} (hd : .directive d ∈ pieces ++ .space :: timesPieces) :
      .directive d ∈ Piece.layoutPieces true false (pieces ++ .space :: timesPieces) := by
    rwa [Piece.directive_mem_iff, Piece.filterMap_layoutPieces, ← Piece.directive_mem_iff]
  have hhour : .directive .hour ∈ pieces ++ .space :: timesPieces :=
    List.mem_append_right _ (by decide)
  rw [compactFormat, String.toList_ofList]
  constructor
  · exact hspells.hasDirective (hmem (List.mem_append_left _ hday)) fun letter h =>
      (hletters (letter, .day) (Piece.mem_letters h)).1 rfl
  · exact hspells.hasDirective (hmem hhour) fun letter h =>
      (hletters (letter, .hour) (Piece.mem_letters h)).2 rfl

theorem readStated?_compactValue (hyear : 1 ≤ a.year ∧ a.year ≤ 9999)
    (hstates : ∀ slot ∈ [Slot.day, .month, .year],
      states (pieces.filterMap Piece.directive?) slot = true)
    (ht : t.second = 0 ∧ t.micro = 0) :
    readStated? locale (compactFormat (format ++ ' ' :: usualTimes.toList))
        (String.ofList (compactValue locale pieces a ts us)) = some (some a, some t) := by
  have hds : ∀ d ∈ pieces.filterMap Piece.directive?, d ∈ dateDirectives := fun d hd =>
    hformat.directives d (Piece.directive_mem_iff.mpr hd)
  have hread : read? locale (compactFormat (format ++ ' ' :: usualTimes.toList))
      (String.ofList (compactValue locale pieces a ts us)) = some (a, t) := by
    rw [read?, compactFormat, hformat.spells_times.compile?_layout, String.toList_ofList]
    simp only [Option.bind_eq_bind, Option.bind_some,
      matchPieces?_compactValue hlocale hplain hformat a hts hus hyear]
    exact moment?_times a hds hstates ht _ _
  obtain ⟨hdate, htime⟩ :=
    hasDirective_compactFormat hformat (directive_day_mem (hstates .day List.mem_cons_self))
  rw [readStated?, hread, Option.map_some, hdate, htime]
  rfl

end Values

/-! ## Texts taken apart -/

/-- Digits at the end of a text are told apart from what is before them. -/
theorem append_digits_inj {front front' ds ds' : List Char}
    (hfront : ∀ c ∈ front.getLast?, isAsciiDigit c = false)
    (hfront' : ∀ c ∈ front'.getLast?, isAsciiDigit c = false)
    (hds : ∀ c ∈ ds, isAsciiDigit c = true) (hds' : ∀ c ∈ ds', isAsciiDigit c = true)
    (h : front ++ ds = front' ++ ds') : front = front' ∧ ds = ds' := by
  have hnil {front between : List Char} (hbetween : ∀ c ∈ between, isAsciiDigit c = true)
      (hend : ∀ c ∈ (front ++ between).getLast?, isAsciiDigit c = false) : between = [] := by
    by_contra hne
    have hlast := List.getLast_mem hne
    rw [List.getLast?_append_of_ne_nil _ hne, List.getLast?_eq_some_getLast hne] at hend
    have hdigit := hend _ rfl
    rw [hbetween _ hlast] at hdigit
    cases hdigit
  rcases List.append_eq_append_iff.mp h with ⟨between, rfl, rfl⟩ | ⟨between, rfl, rfl⟩
  · obtain rfl := hnil (fun c hc => hds c (List.mem_append_left _ hc)) hfront'
    simp
  · obtain rfl := hnil (fun c hc => hds' c (List.mem_append_left _ hc)) hfront
    simp

theorem isAsciiDigit_of_isBlank {c : Char} (h : isBlank c = true) : isAsciiDigit c = false := by
  rw [← Bool.not_eq_true]
  intro hdigit
  rw [not_isBlank_of_isAsciiDigit hdigit] at h
  cases h

/-- The layout keeps a space behind a text, or the text ends with a dot or a dash. -/
theorem spaceBehind_cases {cs : List Char} (hne : cs ≠ []) :
    spaceBehind cs = [' '] ∨ spaceBehind cs = [] ∧ ∀ c ∈ cs.getLast?, isTight c = true := by
  rw [spaceBehind, Piece.gluedBehind, List.getLast?_eq_some_getLast hne, Option.map_some,
    Option.getD_some]
  cases htight : isTight (cs.getLast hne) with
  | false => exact .inl rfl
  | true =>
    refine .inr ⟨rfl, ?_⟩
    rintro _ ⟨⟩
    exact htight

theorem not_isAsciiDigit_getLast?_spaceBehind {cs : List Char} (hne : cs ≠ []) :
    ∀ c ∈ (cs ++ spaceBehind cs).getLast?, isAsciiDigit c = false := by
  rcases spaceBehind_cases hne with hspace | ⟨hspace, htight⟩
  · rw [hspace, List.getLast?_concat]
    rintro _ ⟨⟩
    decide
  · rw [hspace, List.append_nil]
    intro c hc
    rw [← Bool.not_eq_true]
    intro hdigit
    have := htight c hc
    rw [isTight_of_isAsciiDigit hdigit] at this
    cases this

/-- White space is told apart from a text before it that does not end with any, where the text
has one space at the most. -/
theorem append_spaceBehind_inj {cs front blanks : List Char} (hne : cs ≠ [])
    (hend : ∀ c ∈ cs.getLast?, isBlank c = false) (hblanks : ∀ c ∈ blanks, isBlank c = true)
    (hblank : blanks ≠ []) (h : cs ++ spaceBehind cs = front ++ blanks) : cs = front := by
  rcases List.append_eq_append_iff.mp h with ⟨between, rfl, hrest⟩ | ⟨between, rfl, hrest⟩
  · have hlength := congrArg List.length hrest
    have hshort : (spaceBehind cs).length ≤ 1 := by
      rcases spaceBehind_cases hne with hspace | ⟨hspace, -⟩ <;> rw [hspace] <;> decide
    have hpos := List.length_pos_iff.mpr hblank
    rw [List.length_append] at hlength
    rw [List.length_eq_zero_iff.mp (show between.length = 0 by omega), List.append_nil]
  · by_contra hne'
    have hbetween : between ≠ [] := by
      rintro rfl
      exact hne' (List.append_nil front)
    have hmem := List.getLast_mem hbetween
    rw [List.getLast?_append_of_ne_nil _ hbetween, List.getLast?_eq_some_getLast hbetween] at hend
    have hlastBlank := hblanks _ (hrest ▸ List.mem_append_left _ hmem)
    rw [hend _ rfl] at hlastBlank
    cases hlastBlank

/-- Texts are taken apart in one way at the first place of a character. -/
theorem append_cons_inj {front front' back back' : List Char} {c : Char} (hfront : c ∉ front)
    (hfront' : c ∉ front') (h : front ++ c :: back = front' ++ c :: back') :
    front = front' ∧ back = back' := by
  have hsplit {front : List Char} (hfront : c ∉ front) (back : List Char) :
      splitFirst [c] (front ++ c :: back) = some (front, back) :=
    splitFirst_append_piece hfront back
  have heq := congrArg (splitFirst [c]) h
  rw [hsplit hfront, hsplit hfront'] at heq
  exact Prod.mk.inj (Option.some.inj heq)

/-- A text in the layout and a time behind it are taken apart in one way. -/
theorem eq_of_append_times {X x blanks ts ts' us us' : List Char} {t v : TimeOfDay}
    (hX : ':' ∉ X) (hne : X ≠ []) (hend : ∀ c ∈ X.getLast?, isBlank c = false)
    (hx : ':' ∉ x) (hblanks : ∀ c ∈ blanks, isBlank c = true) (hblank : blanks ≠ [])
    (hts : IsTimeText t ts) (hts' : IsTimeText v ts')
    (h : X ++ spaceBehind X ++ (ts ++ '-' :: us) = x ++ (blanks ++ (ts' ++ '-' :: us'))) :
    X = x ∧ t.hour = v.hour ∧ t.minute = v.minute := by
  obtain ⟨hour, minute, hhour, hminute, rfl⟩ := hts
  obtain ⟨hour', minute', hhour', hminute', rfl⟩ := hts'
  have hdigit {n : Nat} {ds : List Char} (h : IsNumberText n ds) {c : Char}
      (hc : isAsciiDigit c = false) : c ∉ ds := by
    intro hmem
    rw [h.isAsciiDigit hmem] at hc
    cases hc
  have hspace : ':' ∉ spaceBehind X := by
    rcases spaceBehind_cases hne with hspace | ⟨hspace, -⟩ <;> rw [hspace] <;> decide
  have hblankColon : ':' ∉ blanks := fun hmem => absurd (hblanks _ hmem) (by decide)
  have hcolon : isAsciiDigit ':' = false := by decide
  have hparts : (X ++ spaceBehind X ++ hour) ++ ':' :: (minute ++ '-' :: us) =
      (x ++ blanks ++ hour') ++ ':' :: (minute' ++ '-' :: us') := by simpa using h
  -- The first colon stands between hour and minute, and the hour is the last digits before it.
  obtain ⟨hfront, hback⟩ := append_cons_inj (by simp [hX, hspace, hdigit hhour hcolon])
    (by simp [hx, hblankColon, hdigit hhour' hcolon]) hparts
  obtain ⟨rfl, -⟩ := append_cons_inj (hdigit hminute (by decide)) (hdigit hminute' (by decide))
    hback
  have hlast : ∀ c ∈ (x ++ blanks).getLast?, isBlank c = true := by
    rw [List.getLast?_append_of_ne_nil _ hblank]
    exact fun c hc => hblanks c (List.mem_of_getLast? hc)
  obtain ⟨hends, rfl⟩ := append_digits_inj (not_isAsciiDigit_getLast?_spaceBehind hne)
    (fun c hc => isAsciiDigit_of_isBlank (hlast c hc)) (fun c => hhour.isAsciiDigit)
    (fun c => hhour'.isAsciiDigit) hfront
  exact ⟨append_spaceBehind_inj hne hend hblanks hblank hends,
    hhour.value.symm.trans hhour'.value, hminute.value.symm.trans hminute'.value⟩

/-! ## The usual format of a range of times -/

theorem colon_not_mem_of_isPlainDate {date : Date} {cs : List Char} (h : IsPlainDate date cs) :
    ':' ∉ cs := by
  obtain ⟨day, month, hday, hmonth, rfl⟩ := h
  have hdigits {ds : List Char} (hds : ∀ c ∈ ds, isAsciiDigit c = true) : ':' ∉ ds :=
    fun hmem => absurd (hds _ hmem) (by decide)
  have hyear : ':' ∉ Number.paddedDigits 4 date.year :=
    hdigits fun _ => Number.isAsciiDigit_of_mem_paddedDigits
  simp [hdigits fun _ => hday.isAsciiDigit, hdigits fun _ => hmonth.isAsciiDigit, hyear]

theorem read?_single_eq (locale : Locale) (format : String) (value : List Char) :
    Candidate.read? locale (.single format) value =
      (readStated? locale format (String.ofList value)).map fun stated =>
        ⟨stated.1, stated.2, none, none⟩ := by
  rw [Candidate.read?]
  cases readStated? locale format (String.ofList value) <;> rfl

section Span

variable {locale : Locale} (hlocale : locale.IsReadable) (hplain : locale.HasPlainNames)
  {format : List Char} {pieces : List Piece} (hformat : IsDateFormat format pieces) {a : Date}
  {t u : TimeOfDay} {ts us : List Char} (hts : IsTimeText t ts) (hus : IsTimeText u us)
include hlocale hplain hformat hts hus

/-- The usual format of a range of times reads a value as it is meant or not at all, when the
usual format of dates does so with the date. -/
theorem eq_of_readStated?_usualTimes (hne : compactDate locale pieces a ≠ [])
    (ht : t.second = 0 ∧ t.micro = 0)
    (hother : ∀ m, read? locale usualDate (String.ofList (compactDate locale pieces a)) = some m →
      m.1 = a) {stated : Option Date × Option TimeOfDay}
    (h : readStated? locale (compactFormat (usualDate.toList ++ ' ' :: usualTimes.toList))
      (String.ofList (compactValue locale pieces a ts us)) = some stated) :
    stated = (some a, some t) := by
  have hspells := isDateFormat_usualDate.spells_times
  -- With a colon in the date, the value has more of them than the format reads.
  have hcolon : ':' ∉ compactDate locale pieces a := by
    rw [← List.count_eq_zero, count_colon_compactDate hlocale hplain hformat]
    by_contra hcount
    have hvalue := count_colon_compactValue hlocale hplain hformat a hts hus
    have htwo : (datePieces ++ .space :: timesPieces).countP (Piece.reads ':') = 2 := by decide
    have hdirectives : ∀ d, .directive d ∈ datePieces ++ .space :: timesPieces →
        d ∈ dateDirectives ∨ d ∈ usualDirectives := by
      simp only [Piece.directive_mem_iff]
      decide
    rw [readStated?_eq_none_of_colons hplain hspells hdirectives (by omega)] at h
    cases h
  obtain ⟨hdate, htime⟩ := hasDirective_compactFormat isDateFormat_usualDate List.mem_cons_self
  rw [readStated?, hdate, htime, read?, compactFormat, hspells.compile?_layout] at h
  simp only [Option.bind_eq_bind, Option.bind_some] at h
  obtain ⟨⟨b, v⟩, hread, rfl⟩ := Option.map_eq_some_iff.mp h
  obtain ⟨fields, hmatch, hmoment⟩ := Option.bind_eq_some_iff.mp hread
  rw [String.toList_ofList, compactValue_eq hlocale hplain hformat a hts hus] at hmatch
  obtain ⟨x, blanks, ts', us', hvalue, hx, hyear, hblank, hblanks, hts', hv⟩ :=
    exists_of_matchPieces?_usualSpan hmatch hmoment
  obtain ⟨rfl, hhour, hminute⟩ := eq_of_append_times hcolon hne
    (fun c => not_isBlank_getLast?_layoutFrom) (colon_not_mem_of_isPlainDate hx) hblanks hblank hts
    hts' hvalue
  obtain rfl := hother _ (read?_usualDate hx hyear)
  rw [TimeOfDay.eq_of_parts hhour hminute ht hv]
  rfl

/-- Of the candidates of a format with no more colons than the date has, only the one with a range
of times can read a value. -/
theorem eq_single_of_read? {other : List Char} {otherPieces : List Piece}
    (hother : IsDateFormat other otherPieces)
    (hcolons : otherPieces.countP (Piece.reads ':') ≤ pieces.countP (Piece.reads ':'))
    {candidate : Candidate} (hmem : candidate ∈ timeCandidates other) {found : Occurrence}
    (hread : candidate.read? locale (compactValue locale pieces a ts us) = some found) :
    candidate = .single (compactFormat (other ++ ' ' :: usualTimes.toList)) := by
  have hvalue := count_colon_compactValue hlocale hplain hformat a hts hus
  have htime : Piece.Spells (other ++ ' ' :: usualTime.toList)
      (otherPieces ++ .space :: timePieces) := by
    have hspace : isBlank ' ' = true := by decide
    exact hother.spells.append (.blank hspace spells_usualTime.1)
  have hdirectives : ∀ d, .directive d ∈ otherPieces ++ .space :: timePieces →
      d ∈ dateDirectives ∨ d ∈ usualDirectives := by
    intro d hd
    rcases List.mem_append.mp hd with hd | hd
    · exact .inl (hother.directives d hd)
    · have husual : ∀ d ∈ (.space :: timePieces : List Piece).filterMap Piece.directive?,
          d ∈ usualDirectives := by decide
      exact .inr (husual d (Piece.directive_mem_iff.mp hd))
  have hone : (otherPieces ++ .space :: timePieces).countP (Piece.reads ':') =
      otherPieces.countP (Piece.reads ':') + 1 := by
    rw [List.countP_append]
    rfl
  have hnone : ∀ {spelled : List Char} {spelledPieces : List Piece},
      Piece.Spells spelled spelledPieces → (∀ d, .directive d ∈ spelledPieces →
        d ∈ dateDirectives ∨ d ∈ usualDirectives) →
      spelledPieces.countP (Piece.reads ':') ≤ pieces.countP (Piece.reads ':') + 1 →
      candidate ≠ .single (compactFormat spelled) := by
    rintro spelled spelledPieces hspells hdirectives hcount rfl
    rw [read?_single_eq, readStated?_eq_none_of_colons hplain hspells hdirectives (by omega)]
      at hread
    cases hread
  simp only [timeCandidates, List.mem_cons, List.not_mem_nil, or_false] at hmem
  rcases hmem with h | h | h
  · exact absurd h (hnone hother.spells (fun d hd => .inl (hother.directives d hd)) (by omega))
  · exact h
  · exact absurd h (hnone htime hdirectives (by omega))

/-- Whatever a candidate reads in a value is its date and its first time. -/
theorem eq_of_read?_compactValue (hne : compactDate locale pieces a ≠ [])
    (ht : t.second = 0 ∧ t.micro = 0)
    (hother : ∀ m, read? locale usualDate (String.ofList (compactDate locale pieces a)) = some m →
      m.1 = a)
    (hread : Candidate.read? locale (.single (compactFormat (format ++ ' ' :: usualTimes.toList)))
      (compactValue locale pieces a ts us) = some ⟨some a, some t, none, none⟩)
    {candidate : Candidate}
    (hmem : candidate ∈ timeCandidates format ∨ candidate ∈ timeCandidates usualDate.toList)
    {found : Occurrence}
    (hfound : candidate.read? locale (compactValue locale pieces a ts us) = some found) :
    found = ⟨some a, some t, none, none⟩ := by
  rcases hmem with hmem | hmem
  · obtain rfl := eq_single_of_read? hlocale hplain hformat hts hus hformat le_rfl hmem hfound
    exact (Option.some.inj (hread.symm.trans hfound)).symm
  · have hcolons : datePieces.countP (Piece.reads ':') ≤ pieces.countP (Piece.reads ':') := by
      have hzero : datePieces.countP (Piece.reads ':') = 0 := by decide
      omega
    obtain rfl := eq_single_of_read? hlocale hplain hformat hts hus isDateFormat_usualDate
      hcolons hmem hfound
    rw [read?_single_eq] at hfound
    obtain ⟨stated, hstated, rfl⟩ := Option.map_eq_some_iff.mp hfound
    rw [eq_of_readStated?_usualTimes hlocale hplain hformat hts hus hne ht hother hstated]

end Span

/-! ## Preparation -/

/-- A value with a date in which the delimiter does not occur, and two times apart from it, is
prepared as the candidates read it. -/
theorem prepare_times {n : Normalizer} {t u : TimeOfDay} {ts us : List Char}
    (hts : IsTimeText t ts) (hus : IsTimeText u us) {d written : List Char} (hd : IsTimeDelimiter d)
    (hdelimiter : n.delimiter = some (plainDashes (trimChars d))) (hpercent : '%' ∉ written)
    (hapart : occurs (plainDashes (trimChars d)) (plainDashes written) = false) {raw : String}
    (hraw : raw.toList = written ++ dateTimeSeparator ++ (ts ++ d ++ us))
    (hwords : n.locale.replaceWords raw = raw) :
    n.prepare raw = layout (plainDashes written ++ ' ' :: (ts ++ '-' :: us)) := by
  have htrim {t : TimeOfDay} {ts : List Char} (h : IsTimeText t ts) : IsTrimmed ts :=
    (isMomentText_timeText h).trimmed
  have hplain {t : TimeOfDay} {ts : List Char} (h : IsTimeText t ts) : plainDashes ts = ts :=
    (isMomentText_timeText h).plainDashes_eq_self
  have htimes {t : TimeOfDay} {ts : List Char} (h : IsTimeText t ts) : '%' ∉ ts := fun hmem =>
    absurd ((isMomentText_timeText h).chars _ hmem) (by decide)
  have hwritten : '%' ∉ plainDashes written := mt percent_mem_plainDashes.mp hpercent
  have hvalue : plainDashes raw.toList = plainDashes written ++ dateTimeSeparator ++
      (ts ++ plainDashes d ++ us) := by
    conv_rhs => rw [← hplain hts, ← hplain hus]
    rw [hraw]
    simp only [plainDashes_append]
    rfl
  have hpair : occurs ['%', ';'] (plainDashes written ++ ['%']) = false := by
    rw [occurs_append hwritten]
    decide
  have hoccurs : occurs dateTimeSeparator (plainDashes written ++ dateTimeSeparator ++
      (ts ++ plainDashes d ++ us)) = true := by
    rw [occurs_eq_isSome, splitFirst_dateTimeSeparator hpair]
    rfl
  -- The date is split at the delimiter as well, which only its absence there prevents.
  have hnone : splitAtDelimiter? (plainDashes (trimChars d)) (trimChars (plainDashes written)) =
      none := by
    obtain ⟨before, after, hcs, -, -⟩ := exists_trimChars (plainDashes written)
    have hinfix : trimChars (plainDashes written) <:+: plainDashes written :=
      ⟨before, after, hcs.symm⟩
    rw [splitAtDelimiter?, splitLast_eq_none_iff.mpr (occurs_eq_false_of_isInfix hinfix hapart)]
    simp
  have hreorder : reorderValue n.delimiter (plainDashes written ++ dateTimeSeparator ++
      (ts ++ plainDashes d ++ us)) =
        trimChars (plainDashes written) ++ ' ' :: (ts ++ '-' :: us) := by
    have htime : trimChars (ts ++ plainDashes d ++ us) = ts ++ plainDashes d ++ us :=
      ((htrim hts).append (htrim hus) _).trimChars_eq_self
    rw [hdelimiter, reorderValue, reorderWith_parts _ hpair, hnone, htime,
      splitAtDelimiter?_times hd hts hus]
  have hlayout : layout (trimChars (plainDashes written) ++ ' ' :: (ts ++ '-' :: us)) =
      layout (plainDashes written ++ ' ' :: (ts ++ '-' :: us)) := layoutFrom_trimChars _ _ _
  have hsign : '%' ∉ layout (plainDashes written ++ ' ' :: (ts ++ '-' :: us)) := by
    intro hmem
    rcases mem_of_mem_layoutFrom hmem with hmem | hspace
    · simp [hwritten, htimes hts, htimes hus] at hmem
    · exact absurd hspace (by decide)
  rw [prepare_of_occurs hwords hvalue hoccurs, hreorder,
    compactChars_of_not_percent (hlayout ▸ hsign), hlayout]

/-! ## Normalization -/

/-- What a candidate reads decides, when no other reads a start date differently. -/
theorem normalize_of_mem {n : Normalizer} {raw : String} {candidate : Candidate}
    (hmem : candidate ∈ n.candidates) {occurrence : Occurrence}
    (hread : candidate.read? n.locale (n.prepare raw) = some occurrence)
    (hstart : occurrence.startDate.isSome)
    (hother : ∀ c ∈ n.candidates, ∀ found, c.read? n.locale (n.prepare raw) = some found →
      found = occurrence) : n.normalize raw = some occurrence := by
  obtain ⟨found, hfound⟩ := Option.isSome_iff_exists.mp (isSome_normalize hmem hread hstart)
  obtain ⟨front, c, behind, h, hfoundRead, -⟩ := normalize_eq_some_iff.mp hfound
  have hc : c ∈ n.candidates := h ▸ List.mem_append_right _ List.mem_cons_self
  rw [hfound, hother c hc found hfoundRead]

/-- A format that states a day by its parts and names, and nothing else. -/
def StatesDay (format : String) : Prop :=
  ∃ pieces, IsDateFormat format.toList pieces ∧ ∀ slot ∈ [Slot.day, .month, .year],
    states (pieces.filterMap Piece.directive?) slot = true

/-- The normalizer of a template with one format of dates and one of a range of times. -/
theorem normalizer_times {template : Template} (locale : Locale) {format d : String}
    {pieces : List Piece} (hformat : IsDateFormat format.toList pieces)
    (hd : IsTimeDelimiter d.toList) (hmoments : template.eventField? .datetime = none)
    (hdates : template.formats .date = [format])
    (htimes : template.formats .time = ["%H:%M%range\x7b" ++ d ++ "\x7d%H:%M"]) :
    (template.normalizer locale).locale = locale ∧
      (template.normalizer locale).delimiter = some (plainDashes (trimChars d.toList)) ∧
      ∀ c, c ∈ (template.normalizer locale).candidates ↔
        c ∈ timeCandidates format.toList ∨ c ∈ timeCandidates usualDate.toList := by
  have hformats : template.datetimeFormats =
      ⟨none, [String.ofList format.toList], [String.ofList (rangeFormat d.toList usualTime)]⟩ := by
    have hrange : "%H:%M%range\x7b" ++ d ++ "\x7d%H:%M" =
        String.ofList (rangeFormat d.toList usualTime) := by
      rw [← String.ofList_toList (s := "%H:%M%range\x7b" ++ d ++ "\x7d%H:%M")]
      simp [rangeFormat, rangeMacro, macroOpening, usualTime]
    rw [Template.datetimeFormats, hmoments, hdates, htimes, hrange, String.ofList_toList]
    rfl
  rw [Template.normalizer, hformats]
  simp only [Normalizer.of, delimiter?_times hformat hd, mem_candidates_iff hformat hd,
    implies_true, and_self]

end Almanac.Datetime

namespace Almanac

open Datetime Text

/-- **A range of times under a single date is normalized to the date and the first time**, when
the delimiter does not occur in the date and the date is not another one in the usual format. -/
theorem normalize_timeSpan {template : Template} {locale : Locale} (hlocale : locale.IsReadable)
    (hplain : locale.HasPlainNames) {format d : String} (hformat : StatesDay format)
    (hd : IsTimeDelimiter d.toList) (hmoments : template.eventField? .datetime = none)
    (hdates : template.formats .date = [format])
    (htimes : template.formats .time = ["%H:%M%range\x7b" ++ d ++ "\x7d%H:%M"])
    {a : Date} (hyear : 1 ≤ a.year ∧ a.year ≤ 9999) {t u : TimeOfDay}
    (ht : t.second = 0 ∧ t.micro = 0) {date start finish raw : String}
    (hdate : date = writeFormat locale a .midnight format)
    (hapart : occurs (plainDashes (trimChars d.toList)) (plainDashes date.toList) = false)
    (hother : ∀ m, Datetime.read? locale usualDate
      (String.ofList (compactChars (plainDashes date.toList))) = some m → m.1 = a)
    (hstart : IsTimeText t start.toList) (hfinish : IsTimeText u finish.toList)
    (hraw : raw = date ++ "%;" ++ start ++ d ++ finish) (hwords : locale.replaceWords raw = raw) :
    (template.normalizer locale).normalize raw = some ⟨some a, some t, none, none⟩ := by
  obtain ⟨pieces, hpieces, hstates⟩ := hformat
  have hcompile : Piece.compile? locale format = some (Piece.mergeSpaces pieces) := by
    rw [Piece.compile?, hpieces.spells.listOf?, Option.map_some]
  have hwritten : date.toList = writtenDate locale pieces a := by
    rw [hdate, (writeFormat_eq hcompile a .midnight).1, String.toList_ofList, writtenDate]
  have hpercent : '%' ∉ writtenDate locale pieces a := percent_not_mem_writtenDate hplain hpieces a
  have hnormalizer := normalizer_times locale hpieces hd hmoments hdates htimes
  obtain ⟨n, hn⟩ : ∃ n, template.normalizer locale = n := ⟨_, rfl⟩
  rw [hn] at hnormalizer ⊢
  obtain ⟨rfl, hdelimiter, hcandidates⟩ := hnormalizer
  have hprepare : n.prepare raw =
      compactValue n.locale pieces a start.toList finish.toList := by
    refine prepare_times hstart hfinish hd hdelimiter hpercent (hwritten ▸ hapart) ?_ hwords
    rw [hraw, ← hwritten]
    simp [dateTimeSeparator]
  have hday := directive_day_mem (hstates .day List.mem_cons_self)
  have hcompact : compactChars (plainDashes date.toList) = compactDate n.locale pieces a := by
    rw [hwritten, compactChars_plainDashes hpercent, compactDate]
  rw [hcompact] at hother
  have hread : Candidate.read? n.locale
      (.single (compactFormat (format.toList ++ ' ' :: usualTimes.toList))) (n.prepare raw) =
        some ⟨some a, some t, none, none⟩ := by
    rw [hprepare, read?_single_eq,
      readStated?_compactValue hlocale hplain hpieces a hstart hfinish hyear hstates ht]
    rfl
  refine normalize_of_mem ((hcandidates _).mpr (.inl (by simp [timeCandidates]))) hread rfl ?_
  intro c hc found hfound
  rw [hprepare] at hfound
  exact eq_of_read?_compactValue hlocale hplain hpieces hstart hfinish
    (compactDate_ne_nil hlocale hplain hpieces a hday) ht hother (hprepare ▸ hread)
    ((hcandidates c).mp hc) hfound

/-- A date with names, and an en dash with white space as the delimiter. -/
theorem normalize_timeSpan_names :
    let template := datedTemplate "%A %d. %B %Y" ["%H:%M%range\x7b – \x7d%H:%M"]
    let a : Date := ⟨2023, 3, 12, by decide, by decide⟩
    let t : TimeOfDay := ⟨18, 0, 0, 0, by decide, by decide, by decide, by decide⟩
    let u : TimeOfDay := ⟨20, 30, 0, 0, by decide, by decide, by decide, by decide⟩
    let date := "neděle 12. března 2023"
    let raw := "neděle 12. března 2023%;18:00 – 20:30"
    (Locale.czech.IsReadable ∧ Locale.czech.HasPlainNames) ∧ StatesDay "%A %d. %B %Y" ∧
      IsTimeDelimiter " – ".toList ∧ template.eventField? .datetime = none ∧
      template.formats .date = ["%A %d. %B %Y"] ∧
      template.formats .time = ["%H:%M%range\x7b – \x7d%H:%M"] ∧
      date = writeFormat .czech a .midnight "%A %d. %B %Y" ∧
      occurs (plainDashes (trimChars " – ".toList)) (plainDashes date.toList) = false ∧
      Datetime.read? .czech usualDate (String.ofList (compactChars (plainDashes date.toList))) =
        none ∧
      IsTimeText t "18:00".toList ∧ IsTimeText u "20:30".toList ∧
      Locale.czech.replaceWords raw = raw ∧
      (template.normalizer .czech).normalize raw = some ⟨some a, some t, none, none⟩ := by
  intro template a t u date raw
  have hlocale : Locale.czech.IsReadable := Locale.isReadable_czech
  have hplain : Locale.czech.HasPlainNames := by decide +kernel
  have hformat : StatesDay "%A %d. %B %Y" :=
    ⟨[.directive .weekdayName, .space, .directive .day, .literal '.', .space,
      .directive .monthName, .space, .directive .year],
      isDateFormat_of_listOf? (by decide) (by decide) (by decide), by decide⟩
  have hd : IsTimeDelimiter " – ".toList := by decide +kernel
  have hdate : date = writeFormat .czech a .midnight "%A %d. %B %Y" := by decide +kernel
  have hapart : occurs (plainDashes (trimChars " – ".toList)) (plainDashes date.toList) = false := by
    decide +kernel
  have hother : Datetime.read? .czech usualDate
      (String.ofList (compactChars (plainDashes date.toList))) = none := by
    decide +kernel
  have ht : IsTimeText t "18:00".toList :=
    ⟨['1', '8'], ['0', '0'], by decide +kernel, by decide +kernel, rfl⟩
  have hu : IsTimeText u "20:30".toList :=
    ⟨['2', '0'], ['3', '0'], by decide +kernel, by decide +kernel, rfl⟩
  have hwords : Locale.czech.replaceWords raw = raw := by decide +kernel
  refine ⟨⟨hlocale, hplain⟩, hformat, hd, rfl, rfl, rfl, hdate, hapart, hother, ht, hu, hwords, ?_⟩
  exact normalize_timeSpan hlocale hplain hformat hd rfl rfl rfl ⟨by decide, by decide⟩ ⟨rfl, rfl⟩
    hdate hapart (fun m hm => by rw [hother] at hm; cases hm) ht hu (by decide) hwords

/-- An ISO date holds the delimiter itself: it is split there, as if it were a range of dates. -/
theorem normalize_isoDate_eq_none :
    let template := datedTemplate "%Y-%m-%d" ["%H:%M%range\x7b-\x7d%H:%M"]
    let a : Date := ⟨2023, 3, 12, by decide, by decide⟩
    let date := "2023-03-12"
    date = writeFormat .english a .midnight "%Y-%m-%d" ∧
      Datetime.read? .english usualDate (String.ofList (compactChars (plainDashes date.toList))) =
        none ∧
      Locale.english.replaceWords "2023-03-12%;18:00-20:00" = "2023-03-12%;18:00-20:00" ∧
      (template.normalizer .english).normalize "2023-03-12%;18:00-20:00" = none := by
  decide +kernel

end Almanac
