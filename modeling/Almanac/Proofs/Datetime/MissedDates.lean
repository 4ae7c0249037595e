import Almanac.Proofs.Datetime.FirstCut

/-!
# Dates that are missed

Matching settles on the first cut of a text before it is known which days there are. So a text
may state nothing although some cut of it makes up a date (`dates_are_missed`), but only where
the first cut has a day that is past the end of its month (`read?_of_real_cut`). Where each
number and each name ends by itself or before something else than a digit, a text has no more
than one cut (`IsWholeCut.unique`), and no date is missed.
-/

namespace Almanac

open Text

theorem Calendar.le_daysInMonth (year : Nat) {month : Nat} (h : 1 ≤ month ∧ month ≤ 12) :
    28 ≤ daysInMonth year month := by
  unfold daysInMonth
  split
  · split <;> decide
  all_goals grind

/-- Where names can be told apart, none of them begins with white space. -/
theorem Locale.IsReadable.isUnspaced {locale : Locale} (h : locale.IsReadable) :
    locale.IsUnspaced := by
  have hnames : ∀ {names : List String}, Datetime.AreReadable names → ∀ name ∈ names,
      name.toList.head?.all (!isBlank ·) = true := by
    intro names hnames name hname
    obtain ⟨c, cs, hlist, hc⟩ := hnames.begins_cons hname
    rw [hlist, List.head?_cons, Option.all_some, hc]
    rfl
  intro name hname
  simp only [List.mem_append] at hname
  rcases hname with (((hname | hname) | hname) | hname) | hname
  · exact hnames h.months.2 name hname
  · exact hnames h.shortMonths.2 name hname
  · exact hnames h.weekdays.2 name hname
  · exact hnames h.shortWeekdays.2 name hname
  · exact hnames h.meridiem.2 name hname

namespace Datetime

/-! ## Days past the end of their month -/

/-- Whether parts have a day that is past the end of their month. -/
def Fields.PassesMonth (parts : Fields) : Prop :=
  ∃ day, parts.day = some day ∧ 28 < day ∧ day ≤ 31 ∧
    Calendar.daysInMonth (parts.year.getD 1900) (parts.month.getD 1) < day

section Days

variable {locale : Locale} {pieces : List Piece} {cut : List Segment}

/-- The parts that are read off a cut make up a date unless their day is past the end of their
month. -/
theorem date?_partsOf_eq_none_iff
    (hmonths : locale.months.length ≤ 12 ∧ locale.shortMonths.length ≤ 12)
    (h : List.Forall₂ (Piece.Takes locale) pieces cut) :
    (partsOf pieces cut).date? = none ↔ (partsOf pieces cut).PassesMonth := by
  have hbounds : ∀ slot value, (partsOf pieces cut).get slot = some value →
      slot.least ≤ value ∧ value ≤ slot.greatest :=
    fun _ _ => bounds_of_get_partsOf h fun _ => hmonths
  have hmonth : 1 ≤ (partsOf pieces cut).month.getD 1 ∧
      (partsOf pieces cut).month.getD 1 ≤ 12 := by
    cases hvalue : (partsOf pieces cut).month with
    | none => decide
    | some month => exact hbounds .month month hvalue
  have hlast := Calendar.le_daysInMonth ((partsOf pieces cut).year.getD 1900) hmonth
  rw [Fields.date?, Date.of?_eq_none_iff]
  constructor
  · intro hno
    cases hvalue : (partsOf pieces cut).day with
    | none =>
      rw [hvalue, Option.getD_none] at hno
      omega
    | some day =>
      have hday : 1 ≤ day ∧ day ≤ 31 := hbounds .day day hvalue
      rw [hvalue, Option.getD_some] at hno
      exact ⟨day, hvalue, by omega, hday.2, by omega⟩
  · rintro ⟨day, hvalue, -, -, hpast⟩
    rw [hvalue, Option.getD_some]
    omega

/-- A day is read only by the directive for it. -/
theorem day_mem_of_partsOf {day : Nat} (h : List.Forall₂ (Piece.Takes locale) pieces cut)
    (hday : (partsOf pieces cut).day = some day) : .directive .day ∈ pieces := by
  have hget : (partsOf pieces cut).get .day = some day := hday
  obtain ⟨d, hd, s, hs, hread⟩ := exists_of_get_partsOf h hget
  cases d with
  | day => exact hd
  | _ => cases hread

end Days

/-! ## Texts with one cut -/

/-- Whether no segment of a piece goes on where another one of it ends: names that can be told
apart, and numbers of one width. -/
def Piece.endsByItself : Piece → Bool
  | .directive d => d.numeral?.all fun n => n.least == n.most
  | _ => true

/-- Whether a segment of a piece can begin with a digit. -/
def Piece.beginsWithDigit (locale : Locale) : Piece → Bool
  | .space => false
  | .literal l => isAsciiDigit l
  | .directive d =>
    d.numeral?.isSome || (d.names locale).any fun name => name.toList.head?.any isAsciiDigit

/-- Whether it can be seen where a piece ends and the next one begins. -/
def Piece.KeepsApart (locale : Locale) (piece next : Piece) : Prop :=
  piece.endsByItself = true ∨ next.beginsWithDigit locale = false

instance (locale : Locale) (piece next : Piece) : Decidable (piece.KeepsApart locale next) :=
  inferInstanceAs (Decidable (_ ∨ _))

theorem standsAlone_of_isAsciiDigit (d : Char) (hd : isAsciiDigit d = true) : StandsAlone d := by
  obtain ⟨hchar, hlt⟩ := Number.digitChar_asciiDigitValue hd
  rw [← hchar]
  generalize asciiDigitValue d = n at hlt
  revert n
  decide +kernel

theorem isAsciiDigit_eq_of_lower_eq {c d : Char} (h : lower c = lower d) :
    isAsciiDigit c = isAsciiDigit d := apply_eq_of_lower_eq standsAlone_of_isAsciiDigit h

theorem AreReadable.eq_of_prefix {names : List String} (h : AreReadable names) {i j : Nat}
    {a b : String} (hi : names[i]? = some a) (hj : names[j]? = some b)
    (hfront : a.toList.map lower <+: b.toList.map lower) : i = j := by
  obtain ⟨hilt, rfl⟩ := List.getElem?_eq_some_iff.mp hi
  obtain ⟨hjlt, rfl⟩ := List.getElem?_eq_some_iff.mp hj
  have hapart := List.pairwise_iff_getElem.mp h.apart
  rcases Nat.lt_trichotomy i j with hlt | heq | hlt
  · exact absurd hfront (hapart i j hilt hjlt hlt).1
  · exact heq
  · exact absurd hfront (hapart j i hjlt hilt hlt).2

section Unique

variable {locale : Locale} {piece : Piece} {pieces : List Piece} {input : List Char}
  {cut cut' : List Segment}

theorem Directive.areReadable_names (hlocale : locale.IsReadable) {d : Directive}
    (h : d.numeral? = none) : AreReadable (d.names locale) := by
  cases d with
  | meridiem => exact hlocale.meridiem.2
  | monthName => exact hlocale.months.2
  | shortMonthName => exact hlocale.shortMonths.2
  | weekdayName => exact hlocale.weekdays.2
  | shortWeekdayName => exact hlocale.shortWeekdays.2
  | _ => cases h

theorem Piece.Begins.not_isAsciiDigit {c : Char} (h : piece.Begins locale c)
    (hpiece : piece.beginsWithDigit locale = false) : isAsciiDigit c = false := by
  cases h with
  | space hblank =>
    rw [← Bool.not_eq_true]
    intro hdigit
    rw [not_isBlank_of_isAsciiDigit hdigit] at hblank
    cases hblank
  | literal hlower => exact (isAsciiDigit_eq_of_lower_eq hlower).trans hpiece
  | number hn _ =>
    rw [beginsWithDigit, hn] at hpiece
    cases hpiece
  | name hname hhead hlower =>
    rw [beginsWithDigit, Bool.or_eq_false_iff, List.any_eq_false] at hpiece
    have hbegins := hpiece.2 _ hname
    rw [hhead, Option.any_some, Bool.not_eq_true] at hbegins
    exact (isAsciiDigit_eq_of_lower_eq hlower).trans hbegins

/-- What is cut for pieces that do not begin with a digit does not either. -/
theorem IsWholeCut.not_isAsciiDigit (h : IsWholeCut locale pieces input cut)
    (hpieces : ∀ next ∈ pieces.head?, next.beginsWithDigit locale = false) :
    ∀ c ∈ input.head?, isAsciiDigit c = false := by
  intro c hc
  cases pieces with
  | nil =>
    rw [(isWholeCut_nil_iff.mp h).1] at hc
    cases hc
  | cons next pieces =>
    obtain ⟨s, more, rfl, ⟨htakes, ⟨rest, rfl⟩, -⟩, -⟩ := isWholeCut_cons_iff.mp h
    obtain ⟨d, ds, htext, hbegins⟩ := htakes.begins
    rw [htext] at hc
    obtain rfl := Option.some.inj hc
    exact hbegins.not_isAsciiDigit (hpieces next rfl)

/-- A piece has one segment at the front of the characters if it ends by itself or before
something else than a digit. -/
theorem Piece.TakesFrom.unique {s t : Segment} (hlocale : locale.IsReadable)
    (hs : piece.TakesFrom locale input s) (ht : piece.TakesFrom locale input t)
    (hends : piece.endsByItself = true ∨
      (∀ c ∈ (input.drop s.text.length).head?, isAsciiDigit c = false) ∧
      ∀ c ∈ (input.drop t.text.length).head?, isAsciiDigit c = false) : s = t := by
  have heq : ∀ {front front' : List Char}, front <+: input → front' <+: input →
      front.length = front'.length → front = front' := fun h h' hlength =>
    (List.prefix_of_prefix_length_le h h' hlength.le).eq_of_length hlength
  cases piece with
  | space => rw [(takesFrom_space_iff.mp hs).1, (takesFrom_space_iff.mp ht).1]
  | literal l =>
    obtain ⟨⟨-⟩, hfront, -⟩ := hs
    obtain ⟨⟨-⟩, hfront', -⟩ := ht
    exact congrArg (Segment.mk · 0) (heq hfront hfront' rfl)
  | directive d =>
    obtain ⟨hs, hfront, -⟩ := hs
    obtain ⟨ht, hfront', -⟩ := ht
    cases hs with
    | @number _ n ds hn hdigits hlength _ =>
      cases ht with
      | @number _ _ es hn' hdigits' hlength' _ =>
        obtain rfl := Option.some.inj (hn.symm.trans hn')
        rcases hends with hwidth | ⟨hend, hend'⟩
        · rw [endsByItself, hn, Option.all_some, beq_iff_eq] at hwidth
          exact congrArg (Segment.mk · 0) (heq hfront hfront' (by omega))
        · exact congrArg (Segment.mk · 0) ((eq_takeWhile hfront hdigits hend).trans
            (eq_takeWhile hfront' hdigits' hend').symm)
      | name hn' _ _ _ => exact absurd (hn.symm.trans hn') (by simp)
    | @name _ i a cs hn hi _ hlower =>
      cases ht with
      | number hn' _ _ _ => exact absurd (hn'.symm.trans hn) (by simp)
      | @name _ j b ds _ hj _ hlower' =>
        have hnames := Directive.areReadable_names hlocale hn
        have hij : i = j := by
          -- two names that one text begins with: one of them is the beginning of the other
          rcases List.prefix_or_prefix_of_prefix (hfront.map lower) (hfront'.map lower)
            with h | h
          · rw [hlower, hlower'] at h
            exact hnames.eq_of_prefix hi hj h
          · rw [hlower, hlower'] at h
            exact (hnames.eq_of_prefix hj hi h).symm
        subst hij
        obtain rfl := Option.some.inj (hi.symm.trans hj)
        have hlength : cs.length = ds.length := by
          simpa using congrArg List.length (hlower.trans hlower'.symm)
        exact congrArg (Segment.mk · i) (heq hfront hfront' hlength)

/-- Where the pieces are kept apart, a text has no more than one cut. -/
theorem IsWholeCut.unique (hlocale : locale.IsReadable)
    (hapart : pieces.IsChain (Piece.KeepsApart locale)) (h : IsWholeCut locale pieces input cut)
    (h' : IsWholeCut locale pieces input cut') : cut = cut' := by
  induction pieces generalizing input cut cut' with
  | nil => rw [(isWholeCut_nil_iff.mp h).2, (isWholeCut_nil_iff.mp h').2]
  | cons piece pieces ih =>
    obtain ⟨s, more, rfl, hs, hmore⟩ := isWholeCut_cons_iff.mp h
    obtain ⟨t, more', rfl, ht, hmore'⟩ := isWholeCut_cons_iff.mp h'
    have hst : s = t := by
      refine hs.unique hlocale ht ?_
      by_cases hpiece : piece.endsByItself = true
      · exact .inl hpiece
      · have hnext : ∀ next ∈ pieces.head?, next.beginsWithDigit locale = false := by
          cases pieces with
          | nil => exact fun next hnext => by cases hnext
          | cons next pieces =>
            rintro _ ⟨⟩
            exact (List.isChain_cons_cons.mp hapart).1.resolve_left hpiece
        exact .inr ⟨hmore.not_isAsciiDigit hnext, hmore'.not_isAsciiDigit hnext⟩
    subst hst
    rw [ih hapart.tail hmore hmore']

example : (Piece.compile? .czech "%A %d. %B %Y, %H:%M").any fun pieces =>
    decide (pieces.IsChain (Piece.KeepsApart .czech)) := by decide

end Unique

/-! ## What is missed -/

section Missed

variable {locale : Locale} {format : String} {pieces : List Piece} {cut : List Segment}

/-- A text states nothing exactly when the day of its first cut is past the end of its month. -/
theorem read?_eq_none_iff
    (hmonths : locale.months.length ≤ 12 ∧ locale.shortMonths.length ≤ 12)
    (hcompile : Piece.compile? locale format = some pieces) {input : String}
    (h : IsFirst (IsWholeCut locale pieces input.toList) cut) :
    read? locale format input = none ↔ (partsOf pieces cut).PassesMonth := by
  obtain ⟨time, -, hmoment⟩ := exists_moment?_eq h.1.1
  rw [read?_of_isFirst hcompile h, hmoment, Option.map_eq_none_iff,
    date?_partsOf_eq_none_iff hmonths h.1.1.1]

/-- **Dates are missed only at the end of a month.** Where some cut makes up a date, the text still
states nothing exactly when no cut takes its spaces whole, or the first that does has a day past the
end of its month. Where the pieces are kept apart, nothing is missed. -/
theorem read?_of_real_cut (hmonths : locale.months.length ≤ 12 ∧ locale.shortMonths.length ≤ 12)
    (hcompile : Piece.compile? locale format = some pieces) {input : String}
    (hcut : IsCut locale pieces input.toList cut)
    (hreal : (partsOf pieces cut).moment?.isSome) :
    (read? locale format input = none ↔
      (¬ SpacesAreWhole pieces cut ∧ ∀ other, ¬ IsWholeCut locale pieces input.toList other) ∨
      ∃ first, IsFirst (IsWholeCut locale pieces input.toList) first ∧ first ≠ cut ∧
        .directive .day ∈ pieces ∧ (partsOf pieces first).PassesMonth) ∧
    (locale.IsUnspaced → SpacesAreWhole pieces cut) ∧
    (locale.IsReadable → pieces.IsChain (Piece.KeepsApart locale) →
      read? locale format input = (partsOf pieces cut).moment?) := by
  obtain ⟨htakes, hinput⟩ := hcut
  refine ⟨⟨fun hnone => ?_, ?_⟩, fun hlocale => ?_, fun hlocale hapart => ?_⟩
  · by_cases hwhole : ∃ other, IsWholeCut locale pieces input.toList other
    · obtain ⟨other, hother⟩ := hwhole
      obtain ⟨first, hfirst⟩ := exists_isFirst hother
      have hpast := (read?_eq_none_iff hmonths hcompile hfirst).mp hnone
      refine .inr ⟨first, hfirst, ?_, ?_, hpast⟩
      · rintro rfl
        rw [← read?_of_isFirst hcompile hfirst, hnone] at hreal
        cases hreal
      · obtain ⟨day, hday, -⟩ := hpast
        exact day_mem_of_partsOf hfirst.1.1.1 hday
    · exact .inl ⟨fun hspaces => hwhole ⟨cut, ⟨htakes, hinput⟩, hspaces⟩,
        not_exists.mp hwhole⟩
  · rintro (⟨-, hnone⟩ | ⟨first, hfirst, -, -, hpast⟩)
    · exact read?_eq_none hcompile hnone
    · exact (read?_eq_none_iff hmonths hcompile hfirst).mpr hpast
  · exact ((isWholeCut_iff_isCut hlocale hcompile).mpr ⟨htakes, hinput⟩).2
  · have hwhole := (isWholeCut_iff_isCut hlocale.isUnspaced hcompile).mpr ⟨htakes, hinput⟩
    exact read?_of_isFirst hcompile
      ⟨hwhole, fun other hother => .inl (hother.unique hlocale hapart hwhole)⟩

/-- The third of December is missed between two numbers side by side, of which the first takes
both digits of the 31st of February, and not with a dot between them. -/
theorem read?_of_real_cut_third_of_december :
    let sideBySide : List Piece := [.directive .day, .directive .month]
    let cut : List Segment := [{ text := ['3'] }, { text := ['1', '2'] }]
    (IsCut .czech sideBySide "312".toList cut ∧ (partsOf sideBySide cut).moment?.isSome ∧
      ∃ first, IsFirst (IsWholeCut .czech sideBySide "312".toList) first ∧ first ≠ cut ∧
        .directive .day ∈ sideBySide ∧ (partsOf sideBySide first).PassesMonth) ∧
    read? .czech "%d.%m" "3.12" =
      (Date.of? 1900 12 3).map fun date => (date, TimeOfDay.midnight) := by
  intro sideBySide cut
  have hcut : IsCut .czech sideBySide "312".toList cut := by
    refine ⟨.cons (.number rfl ?_ ?_ ?_) (.cons (.number rfl ?_ ?_ ?_) .nil), rfl⟩
    all_goals decide
  have hreal : (partsOf sideBySide cut).moment?.isSome := by decide
  obtain ⟨hmissed, hspaces, -⟩ :=
    read?_of_real_cut (by decide) (by decide : Piece.compile? .czech "%d%m" = _) hcut hreal
  refine ⟨⟨hcut, hreal, ?_⟩, ?_⟩
  · rcases hmissed.mp (by decide) with ⟨hnot, -⟩ | hfirst
    · exact absurd (hspaces (by decide)) hnot
    · exact hfirst
  · let dotted : List Piece := [.directive .day, .literal '.', .directive .month]
    let cut : List Segment := [{ text := ['3'] }, { text := ['.'] }, { text := ['1', '2'] }]
    have hcut : IsCut .czech dotted "3.12".toList cut := by
      refine ⟨.cons (.number rfl ?_ ?_ ?_) (.cons (.literal rfl)
        (.cons (.number rfl ?_ ?_ ?_) .nil)), rfl⟩
      all_goals decide
    have hcompile : Piece.compile? .czech "%d.%m" = some dotted := by decide
    have hread := (read?_of_real_cut (by decide) hcompile hcut (by decide)).2.2
      Locale.isReadable_czech (by decide)
    exact hread.trans (by decide)

/-- Two numbers side by side are cut so that the first has more digits, and a space takes the
white space that a name begins with. -/
theorem dates_are_missed :
    let spaced : Locale := { Locale.english with months := " x" :: Locale.english.months.tail }
    let sideBySide : List Piece := [.directive .day, .directive .month]
    let behindSpace : List Piece := [.directive .day, .space, .directive .monthName]
    (Piece.compile? .czech "%d%m" = some sideBySide ∧
      (∃ cut, IsCut .czech sideBySide "312".toList cut ∧
        (partsOf sideBySide cut).moment?.isSome) ∧
      read? .czech "%d%m" "312" = none) ∧
    Piece.compile? spaced "%d %B" = some behindSpace ∧
      (∃ cut, IsCut spaced behindSpace "1  x".toList cut ∧
        (partsOf behindSpace cut).moment?.isSome) ∧
      read? spaced "%d %B" "1  x" = none := by
  intro spaced sideBySide behindSpace
  have hname : (Directive.names spaced .monthName)[0]? = some " x" := rfl
  refine ⟨⟨by decide, ⟨[{ text := ['3'] }, { text := ['1', '2'] }], ⟨?_, rfl⟩, by decide⟩,
    by decide⟩, by decide, ⟨[{ text := ['1'] }, { text := [' '] }, { text := [' ', 'x'] }],
    ⟨?_, rfl⟩, by decide⟩, by decide⟩
  · refine .cons (.number rfl ?_ ?_ ?_) (.cons (.number rfl ?_ ?_ ?_) .nil)
    all_goals decide
  · refine .cons (.number rfl ?_ ?_ ?_) (.cons (.space ?_ ?_) (.cons (.name rfl hname ?_ ?_) .nil))
    all_goals decide

end Missed

end Datetime

end Almanac
