import Mathlib.Data.List.Lex
import Mathlib.Data.List.TakeWhile
import Almanac.Proofs.Datetime.ReadBack

/-!
# Cutting a text into segments

A text matches the pieces of a format when it can be cut into segments, one for each piece
and in order: white space for a space, a character for a literal, digits for a number and a
name of the locale's list for a name, letters in any case. Several cuts may do. They are
compared piece by piece: a number would rather have more digits, and a name one that stands
earlier in its list.

Matching takes every space as far as it goes. Among the cuts that do so it finds the first one,
and it finds one whenever there is one (`matchPieces?_eq_some_iff`, `matchPieces?_eq_none_iff`).
-/

namespace Almanac.Datetime

open Almanac.Text

/-! ## What directives allow -/

namespace Directive

/-- The numbers that a directive reads, unless it reads names. -/
def numeral? : Directive → Option Numeral
  | day => some { slot := .day, least := 1, most := 2, low := 1, high := 31 }
  | month => some { slot := .month, least := 1, most := 2, low := 1, high := 12 }
  | year => some { slot := .year, least := 4, most := 4, low := 1, high := 9999 }
  | shortYear =>
    some { slot := .year, least := 2, most := 2, low := 0, high := 99,
           meaning := fun _ value => fullYear value }
  | hour => some { slot := .hour, least := 1, most := 2, low := 0, high := 23 }
  | halfDayHour => some { slot := .halfDayHour, least := 1, most := 2, low := 1, high := 12 }
  | minute => some { slot := .minute, least := 1, most := 2, low := 0, high := 59 }
  | second => some { slot := .second, least := 1, most := 2, low := 0, high := 59 }
  | fraction =>
    some { slot := .micro, least := 1, most := 6, low := 0, high := 999999,
           meaning := microseconds }
  | meridiem | monthName | shortMonthName | weekdayName | shortWeekdayName => none

/-- The names that a directive reads. -/
def names (locale : Locale) : Directive → List String
  | meridiem => locale.meridiem
  | monthName => locale.months
  | shortMonthName => locale.shortMonths
  | weekdayName => locale.weekdays
  | shortWeekdayName => locale.shortWeekdays
  | _ => []

/-- What a name stands for, by its place in the list. -/
def meaning (d : Directive) (place : Nat) : Reading :=
  match d with
  | meridiem => .meridiem (place == 1)
  | monthName | shortMonthName => .number .month (place + 1)
  | _ => .ignored

theorem segments_of_numeral? {locale : Locale} {d : Directive} {n : Numeral}
    (h : d.numeral? = some n) (input : List Char) : d.segments locale input = n.segments input := by
  cases d <;> cases h <;> rfl

theorem segments_of_names {locale : Locale} {d : Directive} (h : d.numeral? = none)
    (input : List Char) :
    d.segments locale input = nameSegments (d.names locale) d.meaning input := by
  cases d <;> first | rfl | cases h

end Directive

/-! ## Segments -/

/-- What is cut off for a piece: characters and, where they are a name, the place of the name
in its list. -/
structure Segment where
  text : List Char
  place : Nat := 0
  deriving DecidableEq, Repr

/-- The segments that a piece can have. -/
inductive Piece.Takes (locale : Locale) : Piece → Segment → Prop
  | space {cs : List Char} : cs ≠ [] → (∀ c ∈ cs, isBlank c = true) →
      Takes locale .space { text := cs }
  | literal {l c : Char} : lower c = lower l → Takes locale (.literal l) { text := [c] }
  | number {d : Directive} {n : Numeral} {ds : List Char} : d.numeral? = some n →
      (∀ c ∈ ds, isAsciiDigit c = true) → n.least ≤ ds.length ∧ ds.length ≤ n.most →
      n.low ≤ Number.value ds ∧ Number.value ds ≤ n.high →
      Takes locale (.directive d) { text := ds }
  | name {d : Directive} {i : Nat} {name : String} {cs : List Char} : d.numeral? = none →
      (d.names locale)[i]? = some name → name.toList ≠ [] →
      cs.map lower = name.toList.map lower → Takes locale (.directive d) { text := cs, place := i }

/-- What a piece reads off its segment. -/
def Piece.reading : Piece → Segment → Reading
  | .directive d, s =>
    match d.numeral? with
    | some n => .number n.slot (n.meaning s.text.length (Number.value s.text))
    | none => d.meaning s.place
  | _, _ => .ignored

/-- Whether a segment comes before another for the same piece: a name that stands earlier, or
more digits. -/
def Segment.Precedes (s t : Segment) : Prop :=
  s.place < t.place ∨ s.place = t.place ∧ t.text.length < s.text.length

instance : Std.Asymm Segment.Precedes where
  asymm s t h h' := by
    unfold Segment.Precedes at *
    omega

/-! ## Cuts -/

/-- Whether a text is cut into segments for the pieces. -/
def IsCut (locale : Locale) (pieces : List Piece) (input : List Char) (cut : List Segment) : Prop :=
  List.Forall₂ (Piece.Takes locale) pieces cut ∧ cut.flatMap Segment.text = input

/-- Whether no white space is left behind a space. -/
def SpacesAreWhole : List Piece → List Segment → Prop
  | .space :: pieces, _ :: cut =>
    (∀ c ∈ (cut.flatMap Segment.text).head?, isBlank c = false) ∧ SpacesAreWhole pieces cut
  | _ :: pieces, _ :: cut => SpacesAreWhole pieces cut
  | _, _ => True

/-- Whether a text is cut into segments for the pieces, each space taken as far as it goes. -/
def IsWholeCut (locale : Locale) (pieces : List Piece) (input : List Char)
    (cut : List Segment) : Prop :=
  IsCut locale pieces input cut ∧ SpacesAreWhole pieces cut

/-- What the pieces read off a cut, in order. -/
def readings (pieces : List Piece) (cut : List Segment) : List Reading :=
  List.zipWith Piece.reading pieces cut

/-- Whether a cut is the first of those with a property: any other one has, for the first piece
at which the two differ, a segment that comes later. -/
def IsFirst (p : List Segment → Prop) (cut : List Segment) : Prop :=
  p cut ∧ ∀ other, p other → other = cut ∨ List.Lex Segment.Precedes cut other

theorem IsFirst.unique {p : List Segment → Prop} {cut cut' : List Segment} (h : IsFirst p cut)
    (h' : IsFirst p cut') : cut = cut' := by
  rcases h.2 cut' h'.1 with heq | hlex
  · exact heq.symm
  · rcases h'.2 cut h.1 with heq | hlex'
    · exact heq
    · exact absurd hlex' (Std.Asymm.asymm _ _ hlex)

section Cuts

variable {locale : Locale} {piece : Piece} {pieces : List Piece} {input : List Char}
  {cut : List Segment}

theorem isWholeCut_nil_iff : IsWholeCut locale [] input cut ↔ input = [] ∧ cut = [] := by
  unfold IsWholeCut IsCut
  rw [List.forall₂_nil_left_iff]
  constructor
  · rintro ⟨⟨rfl, rfl⟩, -⟩
    exact ⟨rfl, rfl⟩
  · rintro ⟨rfl, rfl⟩
    exact ⟨⟨rfl, rfl⟩, trivial⟩

/-- Whether a piece can have a segment at the front of the characters, all white space if it is
a space. -/
def Piece.TakesFrom (locale : Locale) (piece : Piece) (input : List Char) (s : Segment) : Prop :=
  piece.Takes locale s ∧ s.text <+: input ∧
    (piece = .space → ∀ c ∈ (input.drop s.text.length).head?, isBlank c = false)

theorem spacesAreWhole_cons_iff {s : Segment} :
    SpacesAreWhole (piece :: pieces) (s :: cut) ↔
      (piece = .space → ∀ c ∈ (cut.flatMap Segment.text).head?, isBlank c = false) ∧
        SpacesAreWhole pieces cut := by
  cases piece <;> simp [SpacesAreWhole]

/-- A whole cut takes a segment for the first piece and is a whole cut of what is left. -/
theorem isWholeCut_cons_iff :
    IsWholeCut locale (piece :: pieces) input cut ↔
      ∃ s more, cut = s :: more ∧ piece.TakesFrom locale input s ∧
        IsWholeCut locale pieces (input.drop s.text.length) more := by
  constructor
  · rintro ⟨⟨htakes, hinput⟩, hwhole⟩
    obtain ⟨s, more, hs, hmore, rfl⟩ := List.forall₂_cons_left_iff.mp htakes
    obtain ⟨hspace, hwhole⟩ := spacesAreWhole_cons_iff.mp hwhole
    rw [List.flatMap_cons] at hinput
    have hrest : more.flatMap Segment.text = input.drop s.text.length := by
      rw [← hinput, List.drop_left]
    exact ⟨s, more, rfl, ⟨hs, ⟨_, hinput⟩, hrest ▸ hspace⟩, ⟨hmore, hrest⟩, hwhole⟩
  · rintro ⟨s, more, rfl, ⟨hs, hfront, hspace⟩, ⟨hmore, hrest⟩, hwhole⟩
    refine ⟨⟨.cons hs hmore, ?_⟩, spacesAreWhole_cons_iff.mpr ⟨hrest ▸ hspace, hwhole⟩⟩
    rw [List.flatMap_cons, hrest]
    exact List.prefix_iff_eq_append.mp hfront

end Cuts

/-! ## The segments that matching tries -/

theorem drop_length_takeWhile (p : Char → Bool) (cs : List Char) :
    cs.drop (cs.takeWhile p).length = cs.dropWhile p := by
  have hdrop : (cs.takeWhile p ++ cs.dropWhile p).drop (cs.takeWhile p).length =
      cs.dropWhile p := List.drop_left
  rwa [List.takeWhile_append_dropWhile] at hdrop

/-- What is at the front up to the first character that fails a test are the characters that
pass it. -/
theorem eq_takeWhile {p : Char → Bool} {front input : List Char} (hfront : front <+: input)
    (hall : ∀ c ∈ front, p c = true) (hend : ∀ c ∈ (input.drop front.length).head?, p c = false) :
    front = input.takeWhile p := by
  obtain ⟨rest, rfl⟩ := hfront
  rw [List.drop_left] at hend
  rw [List.takeWhile_append_of_pos hall]
  cases rest with
  | nil => rw [List.takeWhile_nil, List.append_nil]
  | cons c rest => rw [List.takeWhile_cons, hend c rfl, if_neg (by decide), List.append_nil]

/-- The segments that a piece can have at the front of the characters, those that come first
in front, and that these are what matching tries for the piece. -/
structure IsChoices (locale : Locale) (piece : Piece) (input : List Char)
    (choices : List Segment) : Prop where
  mem_iff : ∀ s, s ∈ choices ↔ piece.TakesFrom locale input s
  inOrder : choices.Pairwise Segment.Precedes
  matchPieces?_eq : ∀ (pieces : List Piece) (fields : Fields),
    matchPieces? locale (piece :: pieces) input fields = choices.findSome? fun s =>
      matchPieces? locale pieces (input.drop s.text.length) (fields.add (piece.reading s))

section Choices

variable {locale : Locale} {input : List Char}

/-- A space has only one segment: the white space at the front. -/
theorem takesFrom_space_iff {s : Segment} : Piece.TakesFrom locale .space input s ↔
    s = { text := input.takeWhile isBlank } ∧ input.takeWhile isBlank ≠ [] := by
  constructor
  · rintro ⟨htakes, hfront, hspace⟩
    cases htakes with
    | space hne hblank =>
      rw [← eq_takeWhile hfront hblank (hspace rfl)]
      exact ⟨rfl, hne⟩
  · rintro ⟨rfl, hne⟩
    refine ⟨.space hne fun c hc => List.mem_takeWhile_imp hc, List.takeWhile_prefix _,
      fun _ c hc => ?_⟩
    rw [drop_length_takeWhile] at hc
    have hhead := List.head?_dropWhile_not isBlank input
    rw [hc] at hhead
    simpa using hhead

theorem exists_choices_space : ∃ choices, IsChoices locale .space input choices := by
  by_cases hrun : input.takeWhile isBlank = []
  · refine ⟨[], fun s => ?_, .nil, fun pieces fields => ?_⟩
    · rw [takesFrom_space_iff]
      simp [hrun]
    · rw [matchPieces?, hrun]
      rfl
  · refine ⟨[{ text := input.takeWhile isBlank }], fun s => ?_, List.pairwise_singleton ..,
      fun pieces fields => ?_⟩
    · rw [takesFrom_space_iff]
      simp [hrun]
    · rw [matchPieces?, if_neg (by simpa using hrun), List.findSome?_singleton,
        drop_length_takeWhile]
      rfl

theorem exists_choices_literal (l : Char) :
    ∃ choices, IsChoices locale (.literal l) input choices := by
  cases input with
  | nil =>
    refine ⟨[], fun s => ?_, .nil, fun pieces fields => rfl⟩
    simp only [List.not_mem_nil, false_iff]
    rintro ⟨htakes, hfront, -⟩
    cases htakes with
    | literal _ => simp at hfront
  | cons c input =>
    have htakes : ∀ s, Piece.TakesFrom locale (.literal l) (c :: input) s ↔
        s = { text := [c] } ∧ lower c = lower l := by
      intro s
      constructor
      · rintro ⟨htakes, hfront, -⟩
        cases htakes with
        | literal hlower =>
          obtain ⟨rfl, -⟩ := List.cons_prefix_cons.mp hfront
          exact ⟨rfl, hlower⟩
      · rintro ⟨rfl, hlower⟩
        exact ⟨.literal hlower, by simp, fun h => by cases h⟩
    by_cases hlower : lower c = lower l
    · refine ⟨[{ text := [c] }], fun s => ?_, List.pairwise_singleton .., fun pieces fields => ?_⟩
      · rw [htakes]
        simp [hlower]
      · rw [matchPieces?, if_pos (sameLetter_iff.mpr hlower), List.findSome?_singleton]
        rfl
    · refine ⟨[], fun s => ?_, .nil, fun pieces fields => ?_⟩
      · rw [htakes]
        simp [hlower]
      · rw [matchPieces?, if_neg (by rwa [sameLetter_iff])]
        rfl

/-! ### Numbers -/

/-- How many digits a number can have at the front of the characters, the most first. -/
def Numeral.widths (n : Numeral) (input : List Char) : List Nat :=
  let available := ((input.take n.most).takeWhile isAsciiDigit).length
  (List.range' n.least (available + 1 - n.least)).reverse

/-- The segments of a number, the longest first. -/
def Numeral.choices (n : Numeral) (input : List Char) : List Segment :=
  (n.widths input).filterMap fun width =>
    let ds := input.take width
    if n.low ≤ Number.value ds && Number.value ds ≤ n.high then some { text := ds } else none

theorem le_length_takeWhile_iff {p : Char → Bool} {cs : List Char} {width : Nat} :
    width ≤ (cs.takeWhile p).length ↔ width ≤ cs.length ∧ ∀ c ∈ cs.take width, p c = true := by
  constructor
  · intro h
    have htake : cs.take width <+: cs.takeWhile p :=
      List.prefix_of_prefix_length_le (List.take_prefix _ _) (List.takeWhile_prefix p)
        ((List.length_take_le ..).trans h)
    exact ⟨h.trans (List.takeWhile_prefix p).length_le,
      fun c hc => List.mem_takeWhile_imp (htake.subset hc)⟩
  · rintro ⟨hlength, hall⟩
    have htake : (cs.take width ++ cs.drop width).takeWhile p =
        cs.take width ++ (cs.drop width).takeWhile p := List.takeWhile_append_of_pos hall
    rw [List.take_append_drop] at htake
    rw [htake, List.length_append, List.length_take]
    omega

theorem Numeral.mem_widths {n : Numeral} {width : Nat} :
    width ∈ n.widths input ↔ (n.least ≤ width ∧ width ≤ n.most) ∧ width ≤ input.length ∧
      ∀ c ∈ input.take width, isAsciiDigit c = true := by
  have havailable : width ≤ ((input.take n.most).takeWhile isAsciiDigit).length ↔
      width ≤ n.most ∧ width ≤ input.length ∧ ∀ c ∈ input.take width, isAsciiDigit c = true := by
    rw [le_length_takeWhile_iff, List.length_take, Nat.le_min, and_assoc]
    refine and_congr_right fun hmost => ?_
    rw [List.take_take, min_eq_left hmost]
  rw [widths, List.mem_reverse, List.mem_range'_1, and_assoc, ← havailable]
  omega

/-- The segments for a number are its choices, with what their digits mean. -/
theorem Numeral.segments_eq (n : Numeral) (input : List Char) :
    n.segments input = (n.choices input).map fun s =>
      (s.text.length, .number n.slot (n.meaning s.text.length (Number.value s.text))) := by
  rw [choices, List.map_filterMap]
  refine List.filterMap_congr fun width hwidth => ?_
  have hlength : (input.take width).length = width :=
    List.length_take_of_le (mem_widths.mp hwidth).2.1
  dsimp only
  split
  · rw [Option.map_some, hlength]
  · rfl

theorem isChoices_number {d : Directive} {n : Numeral} (h : d.numeral? = some n) :
    IsChoices locale (.directive d) input (n.choices input) where
  mem_iff s := by
    rw [Numeral.choices, List.mem_filterMap]
    constructor
    · rintro ⟨width, hwidth, hs⟩
      obtain ⟨hbounds, hlength, hdigits⟩ := Numeral.mem_widths.mp hwidth
      dsimp only at hs
      split at hs
      · next hrange =>
        obtain rfl := Option.some.inj hs
        rw [Bool.and_eq_true, decide_eq_true_eq, decide_eq_true_eq] at hrange
        refine ⟨.number h hdigits ?_ hrange, List.take_prefix _ _, fun h => by cases h⟩
        rwa [List.length_take_of_le hlength]
      · cases hs
    · rintro ⟨htakes, hfront, -⟩
      cases htakes with
      | @number _ _ ds h' hdigits hbounds hrange =>
        obtain rfl := Option.some.inj (h.symm.trans h')
        have htake : input.take ds.length = ds := (List.prefix_iff_eq_take.mp hfront).symm
        refine ⟨ds.length, Numeral.mem_widths.mpr ⟨hbounds, hfront.length_le, ?_⟩, ?_⟩
        · rwa [htake]
        · simp only [htake, hrange.1, hrange.2, decide_true, Bool.and_self, if_true]
      | name h' _ _ _ => exact absurd (h.symm.trans h') (by simp)
  inOrder := by
    have hwidths : (n.widths input).Pairwise (· > ·) :=
      List.pairwise_reverse.mpr (List.pairwise_lt_range' ..)
    have hlengths := hwidths.imp_of_mem fun hv _ hlt =>
      (⟨hlt, (Numeral.mem_widths.mp hv).2.1⟩ : _ > _ ∧ _ ≤ input.length)
    refine hlengths.filterMap _ fun v w ⟨hlt, hlength⟩ s hs t ht => ?_
    dsimp only at hs ht
    split at hs
    · split at ht
      · obtain rfl := Option.some.inj hs
        obtain rfl := Option.some.inj ht
        refine .inr ⟨rfl, ?_⟩
        rw [List.length_take_of_le hlength, List.length_take]
        omega
      · cases ht
    · cases hs
  matchPieces?_eq pieces fields := by
    rw [matchPieces?, Directive.segments_of_numeral? h, Numeral.segments_eq, List.findSome?_map]
    simp only [Function.comp_def, Piece.reading, h]

/-! ### Names -/

/-- The segments of a name, the earliest in the list first. -/
def nameChoices (names : List String) (input : List Char) : List Segment :=
  names.zipIdx.filterMap fun (name, i) =>
    let chars := name.toList
    if !chars.isEmpty && beginsName chars input then
      some { text := input.take chars.length, place := i }
    else none

theorem length_le_of_beginsName {name cs : List Char} (h : beginsName name cs = true) :
    name.length ≤ cs.length := by
  simpa using (beginsName_iff.mp h).length_le

theorem nameSegments_eq (names : List String) (reading : Nat → Reading) (input : List Char) :
    nameSegments names reading input =
      (nameChoices names input).map fun s => (s.text.length, reading s.place) := by
  rw [nameChoices, List.map_filterMap]
  refine List.filterMap_congr fun (name, i) _ => ?_
  dsimp only
  split
  · next h =>
    rw [Bool.and_eq_true] at h
    rw [Option.map_some, List.length_take_of_le (length_le_of_beginsName h.2)]
  · rfl

theorem isChoices_name {d : Directive} (h : d.numeral? = none) :
    IsChoices locale (.directive d) input (nameChoices (d.names locale) input) where
  mem_iff s := by
    rw [nameChoices, List.mem_filterMap]
    constructor
    · rintro ⟨⟨name, i⟩, hname, hs⟩
      dsimp only at hs
      split at hs
      · next hbegins =>
        obtain rfl := Option.some.inj hs
        simp only [Bool.and_eq_true, Bool.not_eq_true', List.isEmpty_eq_false_iff] at hbegins
        refine ⟨.name h (List.mem_zipIdx_iff_getElem?.mp hname) hbegins.1 ?_, List.take_prefix _ _,
          fun h => by cases h⟩
        have hlower := List.prefix_iff_eq_take.mp (beginsName_iff.mp hbegins.2)
        rw [List.length_map, ← List.map_take] at hlower
        exact hlower.symm
      · cases hs
    · rintro ⟨htakes, hfront, -⟩
      cases htakes with
      | number h' _ _ _ => exact absurd (h.symm.trans h') (by simp)
      | @name _ i name cs _ hname hne hlower =>
        have hlength : cs.length = name.toList.length := by simpa using congrArg List.length hlower
        have hbegins : beginsName name.toList input = true :=
          beginsName_iff.mpr (hlower ▸ hfront.map lower)
        refine ⟨(name, i), List.mem_zipIdx_iff_getElem?.mpr hname, ?_⟩
        simp only [hbegins, List.isEmpty_eq_false_iff.mpr hne, Bool.not_false, Bool.and_self,
          if_true, ← hlength, ← List.prefix_iff_eq_take.mp hfront]
  inOrder := by
    have hplaces : (d.names locale).zipIdx.Pairwise fun a b => a.2 < b.2 := by
      have h : (List.range' 0 (d.names locale).length).Pairwise (· < ·) :=
        List.pairwise_lt_range' ..
      rw [← List.zipIdx_map_snd, List.pairwise_map] at h
      exact h
    refine hplaces.filterMap _ fun a b hab s hs t ht => ?_
    dsimp only at hs ht
    split at hs
    · split at ht
      · obtain rfl := Option.some.inj hs
        obtain rfl := Option.some.inj ht
        exact .inl hab
      · cases ht
    · cases hs
  matchPieces?_eq pieces fields := by
    rw [matchPieces?, Directive.segments_of_names h, nameSegments_eq, List.findSome?_map]
    simp only [Function.comp_def, Piece.reading, h]

/-! ### All pieces -/

/-- For every piece its choices can be listed in order. -/
theorem exists_choices (locale : Locale) (piece : Piece) (input : List Char) :
    ∃ choices, IsChoices locale piece input choices := by
  cases piece with
  | space => exact exists_choices_space
  | literal l => exact exists_choices_literal l
  | directive d =>
    cases h : d.numeral? with
    | some n => exact ⟨_, isChoices_number h⟩
    | none => exact ⟨_, isChoices_name h⟩

end Choices

/-! ## Matching finds the first cut -/

section Matching

variable {locale : Locale} {pieces : List Piece} {input : List Char} {fields : Fields}

/-- No cut is missed: where matching fails there is none. -/
theorem not_isWholeCut_of_matchPieces? (h : matchPieces? locale pieces input fields = none)
    (cut : List Segment) : ¬ IsWholeCut locale pieces input cut := by
  induction pieces generalizing input fields cut with
  | nil =>
    intro hcut
    obtain ⟨rfl, rfl⟩ := isWholeCut_nil_iff.mp hcut
    cases h
  | cons piece pieces ih =>
    intro hcut
    obtain ⟨choices, hchoices⟩ := exists_choices locale piece input
    obtain ⟨s, more, rfl, hs, hmore⟩ := isWholeCut_cons_iff.mp hcut
    rw [hchoices.matchPieces?_eq, List.findSome?_eq_none_iff] at h
    exact ih (h s ((hchoices.mem_iff s).mpr hs)) more hmore

/-- What matching reads is read off the first cut. -/
theorem exists_isFirst_of_matchPieces? {result : Fields}
    (h : matchPieces? locale pieces input fields = some result) :
    ∃ cut, IsFirst (IsWholeCut locale pieces input) cut ∧
      result = (readings pieces cut).foldl Fields.add fields := by
  induction pieces generalizing input fields with
  | nil =>
    rw [matchPieces?] at h
    split at h
    · next hempty =>
      exact ⟨[], ⟨isWholeCut_nil_iff.mpr ⟨List.isEmpty_iff.mp hempty, rfl⟩,
        fun other hother => .inl (isWholeCut_nil_iff.mp hother).2⟩, (Option.some.inj h).symm⟩
    · cases h
  | cons piece pieces ih =>
    obtain ⟨choices, hchoices⟩ := exists_choices locale piece input
    rw [hchoices.matchPieces?_eq, List.findSome?_eq_some_iff] at h
    obtain ⟨before, s, after, rfl, hmatch, hfail⟩ := h
    obtain ⟨cut, ⟨hcut, hfirst⟩, rfl⟩ := ih hmatch
    have hs := (hchoices.mem_iff s).mp (by simp)
    refine ⟨s :: cut, ⟨isWholeCut_cons_iff.mpr ⟨s, cut, rfl, hs, hcut⟩,
      fun other hother => ?_⟩, rfl⟩
    -- another cut has a segment of which the rest cannot be cut, the same one, or a later one
    obtain ⟨t, more, rfl, ht, hmore⟩ := isWholeCut_cons_iff.mp hother
    have hmem := (hchoices.mem_iff t).mpr ht
    rw [List.mem_append, List.mem_cons] at hmem
    rcases hmem with hbefore | rfl | hafter
    · exact absurd hmore (not_isWholeCut_of_matchPieces? (hfail t hbefore) more)
    · rcases hfirst more hmore with rfl | hlex
      · exact .inl rfl
      · exact .inr (.cons hlex)
    · have horder := (List.pairwise_append.mp hchoices.inOrder).2.1
      exact .inr (.rel ((List.pairwise_cons.mp horder).1 t hafter))

/-- Of the cuts that take every space as far as it goes one is the first. -/
theorem exists_isFirst {cut : List Segment} (h : IsWholeCut locale pieces input cut) :
    ∃ first, IsFirst (IsWholeCut locale pieces input) first := by
  cases hmatch : matchPieces? locale pieces input {} with
  | none => exact absurd h (not_isWholeCut_of_matchPieces? hmatch cut)
  | some parts =>
    obtain ⟨first, hfirst, -⟩ := exists_isFirst_of_matchPieces? hmatch
    exact ⟨first, hfirst⟩

/-- **Matching fails** exactly when there is no cut that takes every space as far as it goes. -/
theorem matchPieces?_eq_none_iff :
    matchPieces? locale pieces input fields = none ↔
      ∀ cut, ¬ IsWholeCut locale pieces input cut := by
  refine ⟨not_isWholeCut_of_matchPieces?, fun h => ?_⟩
  cases hmatch : matchPieces? locale pieces input fields with
  | none => rfl
  | some result =>
    obtain ⟨cut, hfirst, -⟩ := exists_isFirst_of_matchPieces? hmatch
    exact absurd hfirst.1 (h cut)

/-- **Matching reads** the first of these cuts. -/
theorem matchPieces?_eq_some_iff {result : Fields} :
    matchPieces? locale pieces input fields = some result ↔
      ∃ cut, IsFirst (IsWholeCut locale pieces input) cut ∧
        result = (readings pieces cut).foldl Fields.add fields := by
  refine ⟨exists_isFirst_of_matchPieces?, ?_⟩
  rintro ⟨cut, hfirst, rfl⟩
  cases hmatch : matchPieces? locale pieces input fields with
  | none => exact absurd hfirst.1 (not_isWholeCut_of_matchPieces? hmatch cut)
  | some result =>
    obtain ⟨cut', hfirst', rfl⟩ := exists_isFirst_of_matchPieces? hmatch
    rw [hfirst.unique hfirst']

end Matching

end Almanac.Datetime
