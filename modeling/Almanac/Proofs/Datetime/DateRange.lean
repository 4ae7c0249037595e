import Almanac.Proofs.Datetime.RangeFormats
import Almanac.Proofs.Datetime.UsualTexts
import Almanac.Session

/-!
# Ranges of dates with separate times

A value states two dates with a delimiter between them and, apart from them, a time or two
times. It is rewritten so that each date has its time behind it (`reorderValue_time`,
`reorderValue_times`) and brought into the layout of values (`compactChars_joined`). Of the
candidates the last that reads a start date decides. Those for single moments come last and
read nothing, since two dates have more dots than their formats; the range before them has no
time at its end, so it reads values with one time (`normalize_dates`) and leaves those with
two to the range before it (`normalize_dates_times`).
-/

namespace Almanac.Datetime

open Almanac.Text

/-! ## Texts of moments -/

/-- Whether a character can stand in a day or a time. -/
def isMomentChar (c : Char) : Bool := isAsciiDigit c || isBlank c || c == '.' || c == ':'

/-- A text of characters of days and times that does not begin or end with white space. -/
structure IsMomentText (cs : List Char) : Prop where
  trimmed : IsTrimmed cs
  chars : ∀ c ∈ cs, isMomentChar c = true

/-- A day as its number, its month and its year in four digits, with any white space around
the dots. -/
def IsDateText (date : Date) (cs : List Char) : Prop :=
  ∃ day b₁ b₂ month b₃ b₄, IsNumberText date.day day ∧ IsNumberText date.month month ∧
    (∀ c ∈ b₁ ++ b₂ ++ b₃ ++ b₄, isBlank c = true) ∧
    cs = day ++ (b₁ ++ '.' :: (b₂ ++ (month ++ (b₃ ++ '.' ::
      (b₄ ++ Number.paddedDigits 4 date.year)))))

theorem IsPlainDate.isDateText {date : Date} {cs : List Char} (h : IsPlainDate date cs) :
    IsDateText date cs := by
  obtain ⟨day, month, hday, hmonth, rfl⟩ := h
  exact ⟨day, [], [], month, [], [], hday, hmonth, List.forall_mem_nil _, rfl⟩

theorem isMomentChar_of_isAsciiDigit {c : Char} (h : isAsciiDigit c = true) :
    isMomentChar c = true := by
  rw [isMomentChar, h]
  rfl

/-- No character of a delimiter can stand in a day or a time. -/
theorem IsDelimiter.isMomentChar_eq_false {s : List Char} (hs : IsDelimiter s) {c : Char}
    (hc : c ∈ s) : isMomentChar c = false := by
  obtain ⟨hblank, hdigit, hplain⟩ := hs.plain c hc
  simp only [List.mem_cons, not_or] at hplain
  simp [isMomentChar, hblank, hdigit, hplain.1, hplain.2.1]

theorem not_mem_of_isMomentChar {cs : List Char} (h : ∀ c ∈ cs, isMomentChar c = true) {c : Char}
    (hc : isMomentChar c = false) : c ∉ cs := by
  intro hmem
  rw [h c hmem] at hc
  cases hc

/-- There are no dashes in a day or a time. -/
theorem IsMomentText.plainDashes_eq_self {cs : List Char} (h : IsMomentText cs) :
    plainDashes cs = cs :=
  Datetime.plainDashes_eq_self (not_mem_of_isMomentChar h.chars (by decide))

/-! ## Layout -/

/-- What the layout makes of a text wherever it stands. -/
def LaysOut (cs plain : List Char) : Prop :=
  ∀ (glued gap : Bool) (rest : List Char), layoutFrom isTight glued gap (cs ++ rest) =
    (if gap && !glued then [' '] else []) ++ plain ++ layoutFrom isTight false false rest

/-- Texts that are laid out wherever they stand are laid out so with a space between them. -/
theorem LaysOut.join {cs plain cs' plain' : List Char} (h : LaysOut cs plain)
    (h' : LaysOut cs' plain') : LaysOut (cs ++ ' ' :: cs') (plain ++ ' ' :: plain') := by
  intro glued gap rest
  have hblank : isBlank ' ' = true := by decide
  rw [List.append_assoc, h, List.cons_append, layoutFrom_blank hblank, h']
  simp

theorem isTight_of_isAsciiDigit {c : Char} (h : isAsciiDigit c = true) : isTight c = false := by
  have hdot : c ≠ '.' := by
    rintro rfl
    exact absurd h (by decide)
  have hdash : c ≠ '-' := by
    rintro rfl
    exact absurd h (by decide)
  simp [isTight, hdot, hdash]

theorem layoutFrom_digits {ds : List Char} (hne : ds ≠ [])
    (h : ∀ c ∈ ds, isAsciiDigit c = true) : LaysOut ds ds := by
  intro glued gap rest
  exact layoutFrom_word hne
    (fun c hc => ⟨not_isBlank_of_isAsciiDigit (h c hc), isTight_of_isAsciiDigit (h c hc)⟩) rest

/-- White space on both sides of a dot is dropped. -/
theorem layoutFrom_dot {before after : List Char} (hbefore : ∀ c ∈ before, isBlank c = true)
    (hafter : ∀ c ∈ after, isBlank c = true) (glued gap : Bool) (rest : List Char) :
    layoutFrom isTight glued gap (before ++ '.' :: (after ++ rest)) =
      '.' :: layoutFrom isTight true false rest := by
  rw [layoutFrom_blanks hbefore, layoutFrom_tight (by decide) rfl, layoutFrom_blanks hafter,
    layoutFrom_glued]

/-- White space around the dots of a date goes. -/
theorem laysOut_spacedDate {day month year b₁ b₂ b₃ b₄ : List Char} (hday : LaysOut day day)
    (hmonth : LaysOut month month) (hyear : LaysOut year year)
    (hblanks : ∀ c ∈ b₁ ++ b₂ ++ b₃ ++ b₄, isBlank c = true) :
    LaysOut (day ++ (b₁ ++ '.' :: (b₂ ++ (month ++ (b₃ ++ '.' :: (b₄ ++ year))))))
      (day ++ '.' :: (month ++ '.' :: year)) := by
  simp only [List.forall_mem_append] at hblanks
  obtain ⟨⟨⟨h₁, h₂⟩, h₃⟩, h₄⟩ := hblanks
  intro glued gap rest
  simp only [List.append_assoc, List.cons_append]
  rw [hday, layoutFrom_dot h₁ h₂, hmonth, layoutFrom_dot h₃ h₄, hyear]
  simp

theorem IsNumberText.laysOut {n : Nat} {cs : List Char} (h : IsNumberText n cs) : LaysOut cs cs :=
  layoutFrom_digits h.ne_nil fun _ => h.isAsciiDigit

theorem laysOut_year (year : Nat) :
    LaysOut (Number.paddedDigits 4 year) (Number.paddedDigits 4 year) :=
  layoutFrom_digits (List.append_ne_nil_of_right_ne_nil _ (Number.digits_ne_nil year))
    fun _ => Number.isAsciiDigit_of_mem_paddedDigits

/-- The layout of a day is the day without white space. -/
theorem laysOut_dateText {date : Date} {cs : List Char} (h : IsDateText date cs) :
    ∃ plain, IsPlainDate date plain ∧ LaysOut cs plain := by
  obtain ⟨day, b₁, b₂, month, b₃, b₄, hday, hmonth, hblanks, rfl⟩ := h
  exact ⟨_, ⟨day, month, hday, hmonth, rfl⟩,
    laysOut_spacedDate hday.laysOut hmonth.laysOut (laysOut_year date.year) hblanks⟩

theorem laysOut_plainDate {date : Date} {cs : List Char} (h : IsPlainDate date cs) :
    LaysOut cs cs := by
  obtain ⟨day, month, hday, hmonth, rfl⟩ := h
  have hnone : ∀ c ∈ ([] ++ [] ++ [] ++ [] : List Char), isBlank c = true :=
    List.forall_mem_nil _
  exact laysOut_spacedDate hday.laysOut hmonth.laysOut (laysOut_year date.year) hnone

theorem laysOut_timeText {time : TimeOfDay} {cs : List Char} (h : IsTimeText time cs) :
    LaysOut cs cs := by
  obtain ⟨hour, minute, hhour, hminute, rfl⟩ := h
  have hne : hour ++ ':' :: minute ≠ [] := by simp
  refine fun glued gap rest => layoutFrom_word hne (fun c hc => ?_) rest
  rcases List.mem_append.mp hc with hc | hc
  · have hdigit := hhour.isAsciiDigit hc
    exact ⟨not_isBlank_of_isAsciiDigit hdigit, isTight_of_isAsciiDigit hdigit⟩
  · rcases List.mem_cons.mp hc with rfl | hc
    · decide
    · have hdigit := hminute.isAsciiDigit hc
      exact ⟨not_isBlank_of_isAsciiDigit hdigit, isTight_of_isAsciiDigit hdigit⟩

theorem isMomentText_digits {ds : List Char} (hne : ds ≠ [])
    (h : ∀ c ∈ ds, isAsciiDigit c = true) : IsMomentText ds :=
  ⟨isTrimmed_of_solid hne fun c hc => not_isBlank_of_isAsciiDigit (h c hc),
    fun c hc => isMomentChar_of_isAsciiDigit (h c hc)⟩

/-- Two texts of moments are one with anything of the kind between them. -/
theorem IsMomentText.append {front back between : List Char} (hfront : IsMomentText front)
    (hback : IsMomentText back) (h : ∀ c ∈ between, isMomentChar c = true) :
    IsMomentText (front ++ between ++ back) := by
  refine ⟨hfront.trimmed.append hback.trimmed between, ?_⟩
  simp only [List.forall_mem_append]
  exact ⟨⟨hfront.chars, h⟩, hback.chars⟩

theorem IsMomentText.join {cs cs' : List Char} (h : IsMomentText cs) (h' : IsMomentText cs') :
    IsMomentText (cs ++ ' ' :: cs') := by
  have hspace : ∀ c ∈ [' '], isMomentChar c = true := List.forall_mem_singleton.mpr rfl
  have htext := h.append h' hspace
  rwa [List.append_assoc, List.singleton_append] at htext

theorem isMomentText_dateText {date : Date} {cs : List Char} (h : IsDateText date cs) :
    IsMomentText cs := by
  obtain ⟨day, b₁, b₂, month, b₃, b₄, hday, hmonth, hblanks, rfl⟩ := h
  have hday' := isMomentText_digits hday.ne_nil fun _ => hday.isAsciiDigit
  have hmonth' := isMomentText_digits hmonth.ne_nil fun _ => hmonth.isAsciiDigit
  have hyear : IsMomentText (Number.paddedDigits 4 date.year) :=
    isMomentText_digits (List.append_ne_nil_of_right_ne_nil _ (Number.digits_ne_nil _))
      fun _ => Number.isAsciiDigit_of_mem_paddedDigits
  have hblank : ∀ c ∈ b₁ ++ b₂ ++ b₃ ++ b₄, isMomentChar c = true := by
    intro c hc
    simp [isMomentChar, hblanks c hc]
  simp only [List.forall_mem_append] at hblank
  have hdot : isMomentChar '.' = true := by decide
  have hbetween :
      ∀ c ∈ b₁ ++ '.' :: (b₂ ++ (month ++ (b₃ ++ '.' :: b₄))), isMomentChar c = true := by
    simp only [List.forall_mem_append, List.forall_mem_cons]
    exact ⟨hblank.1.1.1, hdot, hblank.1.1.2, hmonth'.chars, hblank.1.2, hdot, hblank.2⟩
  have htext := hday'.append hyear hbetween
  simpa only [List.append_assoc, List.cons_append] using htext

theorem isMomentText_timeText {time : TimeOfDay} {cs : List Char} (h : IsTimeText time cs) :
    IsMomentText cs := by
  obtain ⟨hour, minute, hhour, hminute, rfl⟩ := h
  have hcolon : ∀ c ∈ [':'], isMomentChar c = true := List.forall_mem_singleton.mpr rfl
  have htext := (isMomentText_digits hhour.ne_nil fun _ => hhour.isAsciiDigit).append
    (isMomentText_digits hminute.ne_nil fun _ => hminute.isAsciiDigit) hcolon
  rwa [List.append_assoc, List.singleton_append] at htext

/-- A text of a day, a time or both that the layout does not change. -/
structure IsCompactText (cs : List Char) : Prop extends IsMomentText cs where
  layout : LaysOut cs cs

theorem IsPlainDate.isCompactText {date : Date} {cs : List Char} (h : IsPlainDate date cs) :
    IsCompactText cs :=
  { isMomentText_dateText h.isDateText with layout := laysOut_plainDate h }

theorem IsTimeText.isCompactText {time : TimeOfDay} {cs : List Char} (h : IsTimeText time cs) :
    IsCompactText cs :=
  { isMomentText_timeText h with layout := laysOut_timeText h }

/-- Two texts that the layout keeps are one with a space between them. -/
theorem IsCompactText.join {cs cs' : List Char} (h : IsCompactText cs) (h' : IsCompactText cs') :
    IsCompactText (cs ++ ' ' :: cs') :=
  { h.toIsMomentText.join h'.toIsMomentText with layout := h.layout.join h'.layout }

/-! ## Values -/

section Values

variable {s : List Char} (hs : IsDelimiter s)
include hs

theorem IsDelimiter.not_mem_text {c : Char} (hc : c ∈ s) {cs : List Char}
    (h : ∀ c ∈ cs, isMomentChar c = true) : c ∉ cs :=
  not_mem_of_isMomentChar h (hs.isMomentChar_eq_false hc)

/-- A value with one delimiter is split there. -/
theorem splitAtDelimiter?_spaced {a b d : List Char} (ha : IsMomentText a) (hb : IsMomentText b)
    (hd : IsSpaced s d) : splitAtDelimiter? s (a ++ d ++ b) = some ⟨a, s, b⟩ := by
  obtain ⟨before, after, rfl, hbefore, hafter⟩ := hd
  have hsplit : splitLast s ((a ++ before) ++ (s ++ (after ++ b))) =
      some (a ++ before, after ++ b) := by
    refine splitLast_append_piece hs.nonempty (fun c hc => hs.not_mem_text hc ?_) _
    simp only [List.forall_mem_append]
    exact ⟨fun c hc => by simp [isMomentChar, hafter c hc], hb.chars⟩
  have htrimStart : trimChars (a ++ before) = a :=
    @IsTrimmed.trimChars_surrounded [] a before ha.trimmed (List.forall_mem_nil _) hbefore
  have htrimEnd : trimChars (after ++ b) = b := by
    have h := @IsTrimmed.trimChars_surrounded after b [] hb.trimmed hafter (List.forall_mem_nil _)
    rwa [List.append_nil] at h
  have hparts : a ++ (before ++ s ++ after) ++ b = (a ++ before) ++ (s ++ (after ++ b)) := by simp
  rw [splitAtDelimiter?, List.isEmpty_eq_false_iff.mpr hs.nonempty, hparts, hsplit]
  simp [htrimStart, htrimEnd]

theorem splitAtDelimiter?_eq_none {cs : List Char} (h : IsMomentText cs) :
    splitAtDelimiter? s cs = none := by
  obtain ⟨c, rest, hcons⟩ := List.ne_nil_iff_exists_cons.mp hs.nonempty
  have hc : c ∈ s := hcons ▸ List.mem_cons_self
  rw [splitAtDelimiter?, splitLast_eq_none hc (hs.not_mem_text hc h.chars)]
  simp

omit hs in
/-- White space at the end of what is laid out goes. -/
theorem LaysOut.append_blanks {cs plain blanks : List Char} (h : LaysOut cs plain)
    (hblanks : ∀ c ∈ blanks, isBlank c = true) (glued gap : Bool) :
    layoutFrom isTight glued gap (cs ++ blanks) =
      (if gap && !glued then [' '] else []) ++ plain := by
  rw [h, layoutFrom_eq_nil hblanks, List.append_nil]

omit hs in
/-- White space around a text that is laid out already is dropped. -/
theorem compactChars_surrounded {cs before after : List Char} (h : IsCompactText cs)
    (hbefore : ∀ c ∈ before, isBlank c = true) (hafter : ∀ c ∈ after, isBlank c = true) :
    compactChars (before ++ cs ++ after) = cs := by
  have hlayout : layout (before ++ cs ++ after) = cs := by
    rw [layout, List.append_assoc, layoutFrom_blanks hbefore, layoutFrom_glued,
      h.layout.append_blanks hafter]
    rfl
  have hpercent : '%' ∉ cs := not_mem_of_isMomentChar h.chars (by decide)
  rw [compactChars_of_not_percent (by rwa [hlayout]), hlayout]

/-- Two texts with a delimiter between them keep it between them, with some space around. -/
theorem compactChars_joined {x X y Y : List Char} (hx : LaysOut x X) (hy : LaysOut y Y)
    (hX : IsMomentText X) (hY : IsMomentText Y) :
    ∃ d, IsSpaced s d ∧ compactChars (x ++ ' ' :: (s ++ ' ' :: y)) = X ++ d ++ Y := by
  have hblank : isBlank ' ' = true := by decide
  obtain ⟨space, glued, hsolid⟩ := @layoutFrom_solid isTight false true s hs.nonempty
    (fun c hc => hs.isBlank_eq_false hc) (' ' :: y)
  have hend : layoutFrom isTight glued true (y ++ []) =
      (if true && !glued then [' '] else []) ++ Y :=
    @LaysOut.append_blanks y Y [] hy (List.forall_mem_nil _) glued true
  rw [List.append_nil] at hend
  obtain ⟨d, hd, hlayout⟩ : ∃ d, IsSpaced s d ∧
      layout (x ++ ' ' :: (s ++ ' ' :: y)) = X ++ d ++ Y := by
    rw [layout, hx, layoutFrom_blank hblank, hsolid, layoutFrom_blank hblank, hend]
    refine ⟨(if space then [' '] else []) ++ s ++ (if true && !glued then [' '] else []),
      ⟨_, _, rfl, isBlank_of_mem_gap space, isBlank_of_mem_gap (true && !glued)⟩, ?_⟩
    simp
  refine ⟨d, hd, ?_⟩
  have hpercent : '%' ∉ layout (x ++ ' ' :: (s ++ ' ' :: y)) := by
    have hchar : isMomentChar '%' = false := by decide
    rw [hlayout, List.mem_append, List.mem_append, not_or, not_or]
    exact ⟨⟨not_mem_of_isMomentChar hX.chars hchar, hs.percent_not_mem hd⟩,
      not_mem_of_isMomentChar hY.chars hchar⟩
  rw [compactChars_of_not_percent hpercent, hlayout]

/-! ## Reading -/

variable {locale : Locale}

/-- A range is read at both its ends. -/
theorem read?_range {x y d : List Char} (hx : IsCompactText x) (hy : IsCompactText y)
    (hd : IsSpaced s d) (start finish : String) :
    Candidate.read? locale (.range start s finish) (x ++ d ++ y) =
      (readStated? locale start (String.ofList x)).bind fun first =>
        (readStated? locale finish (String.ofList y)).map fun second =>
          ⟨first.1, first.2.or second.2, second.1, second.2.or first.2⟩ := by
  obtain ⟨before, after, rfl, hbefore, hafter⟩ := hd
  obtain ⟨c, rest, hcons⟩ := List.ne_nil_iff_exists_cons.mp hs.nonempty
  have hc : c ∉ x ++ before := by
    refine hs.not_mem_text (hcons ▸ List.mem_cons_self) ?_
    simp only [List.forall_mem_append]
    exact ⟨hx.chars, fun c hc => by simp [isMomentChar, hbefore c hc]⟩
  have hsplit : splitFirst s (x ++ (before ++ s ++ after) ++ y) =
      some (x ++ before, after ++ y) := by
    have h : splitFirst s (x ++ before ++ (s ++ (after ++ y))) = some (x ++ before, after ++ y) :=
      hcons ▸ splitFirst_append_piece hc (after ++ y)
    simpa only [List.append_assoc] using h
  have hstart : compactChars (x ++ before) = x :=
    @compactChars_surrounded x [] before hx (List.forall_mem_nil _) hbefore
  have hfinish : compactChars (after ++ y) = y := by
    have h := @compactChars_surrounded y after [] hy hafter (List.forall_mem_nil _)
    rwa [List.append_nil] at h
  rw [Candidate.read?, hsplit]
  simp only [Option.bind_eq_bind, Option.bind_some, hstart, hfinish]
  cases readStated? locale start (String.ofList x) with
  | none => rfl
  | some first => cases readStated? locale finish (String.ofList y) <;> rfl

omit hs in
/-- A range is not read if its start is not. -/
theorem read?_range_eq_none {value before after : List Char}
    (hsplit : splitFirst s value = some (before, after)) {start : String}
    (hstart : readStated? locale start (String.ofList (compactChars before)) = none)
    (finish : String) : Candidate.read? locale (.range start s finish) value = none := by
  rw [Candidate.read?, hsplit]
  simp only [Option.bind_eq_bind, Option.bind_some, hstart, Option.bind_none]

end Values

/-! ## What the candidates read -/

section Candidates

variable {locale : Locale} {a b : Date} {t u : TimeOfDay} {as bs ts us : List Char}

theorem readStated?_usualDate (h : IsPlainDate a as) (hyear : 1 ≤ a.year ∧ a.year ≤ 9999) :
    readStated? locale usualDate (String.ofList as) = some (some a, none) := by
  rw [readStated?, read?_usualDate h hyear]
  rfl

theorem readStated?_usualMoment (h : IsPlainDate a as) (hyear : 1 ≤ a.year ∧ a.year ≤ 9999)
    (ht : IsTimeText t ts) (hminutes : t.second = 0 ∧ t.micro = 0) :
    readStated? locale usualMoment (String.ofList (as ++ ' ' :: ts)) = some (some a, some t) := by
  rw [readStated?, read?_usualMoment h hyear ht hminutes]
  rfl

/-- The formats of single moments hold two dots and read no text with more. -/
theorem readStated?_single {format : String}
    (hformat : format ∈ [usualDate, usualSpan, usualMoment]) {input : List Char}
    (hdots : 2 < input.count '.') : readStated? locale format (String.ofList input) = none := by
  have hblank : isBlank '.' = false := by decide
  have hdigit : isAsciiDigit '.' = false := by decide
  obtain ⟨hdate, hmoment⟩ := compile?_usual locale
  have hspan : Piece.compile? locale usualSpan =
      some (datePieces ++ .space :: (timePieces ++ .literal '-' :: timePieces)) := rfl
  simp only [List.mem_cons, List.not_mem_nil, or_false] at hformat
  rcases hformat with rfl | rfl | rfl
  · exact readStated?_eq_none hblank hdigit hdate (by decide) hdots
  · exact readStated?_eq_none hblank hdigit hspan (by decide) hdots
  · exact readStated?_eq_none hblank hdigit hmoment (by decide) hdots

/-- What has a colon is no date. -/
theorem readStated?_usualDate_of_colon {input : List Char} (hcolon : ':' ∈ input) :
    readStated? locale usualDate (String.ofList input) = none :=
  readStated?_eq_none (c := ':') (by decide) (by decide) (compile?_usual locale).1 (by decide)
    (List.count_pos_iff.mpr hcolon)

theorem count_dot_of_isPlainDate (h : IsPlainDate a as) : 2 ≤ as.count '.' := by
  obtain ⟨day, month, -, -, rfl⟩ := h
  simp only [List.count_append, List.count_cons_self]
  omega

end Candidates

/-! ## The candidate that decides -/

/-- A value has no occurrence just when no candidate reads a start date off it. -/
theorem normalize_eq_none_iff {n : Normalizer} {raw : String} :
    n.normalize raw = none ↔ ∀ c ∈ n.candidates, ∀ found,
      c.read? n.locale (n.prepare raw) = some found → found.startDate = none := by
  simp only [Normalizer.normalize, List.findSome?_eq_none_iff, List.mem_reverse,
    Option.filter_eq_none_iff, Option.not_isSome_iff_eq_none]

/-- The last candidate that reads a start date off a value decides. -/
theorem normalize_eq_some_iff {n : Normalizer} {raw : String} {occurrence : Occurrence} :
    n.normalize raw = some occurrence ↔ ∃ front candidate behind,
      n.candidates = front ++ candidate :: behind ∧
        candidate.read? n.locale (n.prepare raw) = some occurrence ∧
        occurrence.startDate.isSome ∧
        ∀ c ∈ behind, ∀ found, c.read? n.locale (n.prepare raw) = some found →
          found.startDate = none := by
  simp only [Normalizer.normalize, List.findSome?_eq_some_iff, List.reverse_eq_iff,
    List.reverse_append, List.reverse_cons, List.append_assoc, List.singleton_append,
    Option.filter_eq_some_iff, Option.filter_eq_none_iff, Option.not_isSome_iff_eq_none]
  constructor
  · rintro ⟨behind, candidate, front, h, ⟨hread, hstart⟩, hbehind⟩
    exact ⟨front.reverse, candidate, behind.reverse, h, hread, hstart,
      fun c hc => hbehind c (List.mem_reverse.mp hc)⟩
  · rintro ⟨front, candidate, behind, h, hread, hstart, hbehind⟩
    refine ⟨behind.reverse, candidate, front.reverse, ?_, ⟨hread, hstart⟩,
      fun c hc => hbehind c (List.mem_reverse.mp hc)⟩
    rw [h, List.reverse_reverse, List.reverse_reverse]

/-- A candidate that reads a start date is enough. -/
theorem isSome_normalize {n : Normalizer} {raw : String} {candidate : Candidate}
    (hmem : candidate ∈ n.candidates) {occurrence : Occurrence}
    (hread : candidate.read? n.locale (n.prepare raw) = some occurrence)
    (hstart : occurrence.startDate.isSome) : (n.normalize raw).isSome := by
  rw [← Option.ne_none_iff_isSome, Ne, normalize_eq_none_iff]
  intro hnone
  rw [hnone candidate hmem occurrence hread] at hstart
  cases hstart

theorem normalize_eq_none {n : Normalizer} {raw : String}
    (h : ∀ c ∈ n.candidates, c.read? n.locale (n.prepare raw) = none) : n.normalize raw = none := by
  refine normalize_eq_none_iff.mpr fun c hc found hfound => ?_
  rw [h c hc] at hfound
  cases hfound

/-- A candidate decides if it reads a start date and none behind it reads anything. -/
theorem normalize_of_last {n : Normalizer} (front : List Candidate) {candidate : Candidate}
    {behind : List Candidate} (h : n.candidates = front ++ candidate :: behind) {raw : String}
    {occurrence : Occurrence}
    (hread : candidate.read? n.locale (n.prepare raw) = some occurrence)
    (hstart : occurrence.startDate.isSome)
    (hbehind : ∀ c ∈ behind, c.read? n.locale (n.prepare raw) = none) :
    n.normalize raw = some occurrence := by
  refine normalize_eq_some_iff.mpr ⟨front, candidate, behind, h, hread, hstart, ?_⟩
  intro c hc found hfound
  rw [hbehind c hc] at hfound
  cases hfound

/-! ## Values with a time -/

section Reorder

variable {s d d' : List Char} (hs : IsDelimiter s) (hd : IsSpaced s d) {as bs ts us : List Char}
  (has : IsMomentText as) (hbs : IsMomentText bs) (hts : IsMomentText ts)
include hs hd has hbs hts

omit hts in
theorem occurs_value : occurs ['%', ';'] (as ++ d ++ bs ++ ['%']) = false := by
  have hchar : isMomentChar '%' = false := by decide
  have hpercent : '%' ∉ as ++ d ++ bs := by
    rw [List.mem_append, List.mem_append, not_or, not_or]
    exact ⟨⟨not_mem_of_isMomentChar has.chars hchar, hs.percent_not_mem hd⟩,
      not_mem_of_isMomentChar hbs.chars hchar⟩
  rw [occurs_append hpercent]
  decide

/-- The one time of a range of dates goes to its start. -/
theorem reorderValue_time :
    reorderValue (some s) (as ++ d ++ bs ++ dateTimeSeparator ++ ts) =
      (as ++ ' ' :: ts) ++ ' ' :: (s ++ ' ' :: bs) := by
  rw [reorderValue, reorderWith_separated _ (has.trimmed.append hbs.trimmed d) hts.trimmed
    (occurs_value hs hd has hbs), splitAtDelimiter?_spaced hs has hbs hd,
    splitAtDelimiter?_eq_none hs hts]

/-- Of two times, one goes to the start of the dates and one to the end. -/
theorem reorderValue_times (hus : IsMomentText us) (hd' : IsSpaced s d') :
    reorderValue (some s) (as ++ d ++ bs ++ dateTimeSeparator ++ (ts ++ d' ++ us)) =
      (as ++ ' ' :: ts) ++ ' ' :: (s ++ ' ' :: (bs ++ ' ' :: us)) := by
  rw [reorderValue, reorderWith_separated _ (has.trimmed.append hbs.trimmed d)
    (hts.trimmed.append hus.trimmed d') (occurs_value hs hd has hbs),
    splitAtDelimiter?_spaced hs has hbs hd, splitAtDelimiter?_spaced hs hts hus hd']

end Reorder

section Normalize

variable {s : List Char} (hs : IsDelimiter s) (locale : Locale) {a b : Date} {t u : TimeOfDay}
  {x y ts us d : List Char} (hx : IsPlainDate a x) (hy : IsPlainDate b y)
  (hyear : (1 ≤ a.year ∧ a.year ≤ 9999) ∧ 1 ≤ b.year ∧ b.year ≤ 9999)
  (hts : IsTimeText t ts) (hus : IsTimeText u us) (ht : t.second = 0 ∧ t.micro = 0)
  (hu : u.second = 0 ∧ u.micro = 0) (hd : IsSpaced s d)

include hx hy in
/-- The usual formats by themselves do not read a range. -/
theorem read?_single {format : String} (hformat : format ∈ [usualDate, usualSpan, usualMoment])
    (between behind : List Char) :
    Candidate.read? locale (.single format) (x ++ between ++ (y ++ behind)) = none := by
  have hdots : 2 < (x ++ between ++ (y ++ behind)).count '.' := by
    have := count_dot_of_isPlainDate hx
    have := count_dot_of_isPlainDate hy
    simp only [List.count_append]
    omega
  rw [Candidate.read?, readStated?_single hformat hdots]
  rfl

include hs hx hy hyear hts ht hd

/-- A range of dates with one time is read with the time at both ends. -/
theorem read?_dates :
    Candidate.read? locale (.range usualMoment s usualDate) ((x ++ ' ' :: ts) ++ d ++ y) =
      some ⟨some a, some t, some b, some t⟩ := by
  rw [read?_range hs (hx.isCompactText.join hts.isCompactText) hy.isCompactText hd,
    readStated?_usualMoment hx hyear.1 hts ht, readStated?_usualDate hy hyear.2]
  rfl

include hus hu

/-- A range of dates with a range of times is read with a time at each end, and not with one at the
start alone. -/
theorem read?_dates_times :
    Candidate.read? locale (.range usualMoment s usualDate)
        ((x ++ ' ' :: ts) ++ d ++ (y ++ ' ' :: us)) = none ∧
      Candidate.read? locale (.range usualMoment s usualMoment)
          ((x ++ ' ' :: ts) ++ d ++ (y ++ ' ' :: us)) =
        some ⟨some a, some t, some b, some u⟩ := by
  have hcolon : ':' ∈ y ++ ' ' :: us := by
    obtain ⟨hour, minute, -, -, rfl⟩ := hus
    simp
  have hread := @read?_range s hs locale _ _ d (hx.isCompactText.join hts.isCompactText)
    (hy.isCompactText.join hus.isCompactText) hd
  constructor
  · rw [hread, readStated?_usualMoment hx hyear.1 hts ht, readStated?_usualDate_of_colon hcolon]
    rfl
  · rw [hread, readStated?_usualMoment hx hyear.1 hts ht, readStated?_usualMoment hy hyear.2 hus hu]
    rfl

omit hus hu in
/-- The candidates behind that for dates with one time read no value with two dates. -/
theorem normalize_dates {n : Normalizer}
    (hcandidates : n.candidates = dateCandidates s ∨ n.candidates = dateTimeCandidates s)
    {raw : String} (hprepare : n.prepare raw = (x ++ ' ' :: ts) ++ d ++ y) :
    n.normalize raw = some ⟨some a, some t, some b, some t⟩ := by
  have hsingle : ∀ format ∈ [usualDate, usualSpan, usualMoment],
      Candidate.read? n.locale (.single format) (n.prepare raw) = none := by
    intro format hformat
    have h := read?_single n.locale hx hy hformat (' ' :: ts ++ d) []
    rw [hprepare]
    simpa only [List.append_assoc, List.append_nil, List.cons_append] using h
  have hread : Candidate.read? n.locale (.range usualMoment s usualDate) (n.prepare raw) =
      some ⟨some a, some t, some b, some t⟩ := by
    rw [hprepare]
    exact read?_dates hs n.locale hx hy hyear hts ht hd
  rcases hcandidates with h | h
  · refine normalize_of_last [.range usualDate s usualDate] h hread rfl ?_
    simp [hsingle]
  · refine normalize_of_last
      [.range usualDate s usualDate, .range usualMoment s usualMoment] h hread rfl ?_
    simp [hsingle]

/-- A range of dates with a range of times is normalized to its dates and times. -/
theorem normalize_dates_times {n : Normalizer}
    (hcandidates : n.candidates = dateTimeCandidates s) {raw : String}
    (hprepare : n.prepare raw = (x ++ ' ' :: ts) ++ d ++ (y ++ ' ' :: us)) :
    n.normalize raw = some ⟨some a, some t, some b, some u⟩ := by
  have hsingle : ∀ format ∈ [usualDate, usualSpan, usualMoment],
      Candidate.read? n.locale (.single format) (n.prepare raw) = none := by
    intro format hformat
    have h := read?_single n.locale hx hy hformat (' ' :: ts ++ d) (' ' :: us)
    rw [hprepare]
    simpa only [List.append_assoc, List.cons_append] using h
  have hread := read?_dates_times hs n.locale hx hy hyear hts hus ht hu hd
  rw [← hprepare] at hread
  refine normalize_of_last [.range usualDate s usualDate] hcandidates hread.2 rfl ?_
  simp [hread.1, hsingle]

end Normalize

/-- A value with a separator of date and time is prepared by putting its parts in order. -/
theorem prepare_of_occurs {n : Normalizer} {raw : String} {value : List Char}
    (hwords : n.locale.replaceWords raw = raw) (hvalue : plainDashes raw.toList = value)
    (hoccurs : occurs dateTimeSeparator value = true) :
    n.prepare raw = compactChars (reorderValue n.delimiter value) := by
  rw [Normalizer.prepare, hwords]
  simp only [hvalue, hoccurs, if_true]

/-- A value with a time apart is prepared by putting the time to the dates. -/
theorem prepare_value {n : Normalizer} {s : List Char} (hs : IsDelimiter s)
    (hdelimiter : n.delimiter = some (plainDashes s)) {start finish d time : String}
    (hstart : IsMomentText start.toList) (hfinish : IsMomentText finish.toList)
    (hd : IsSpaced s d.toList) {raw : String}
    (hraw : raw = start ++ d ++ finish ++ "%;" ++ time) (hwords : n.locale.replaceWords raw = raw) :
    n.prepare raw = compactChars (reorderValue (some (plainDashes s))
      (start.toList ++ plainDashes d.toList ++ finish.toList ++ dateTimeSeparator ++
        plainDashes time.toList)) := by
  have hvalue : plainDashes raw.toList = start.toList ++ plainDashes d.toList ++ finish.toList ++
      dateTimeSeparator ++ plainDashes time.toList := by
    conv_rhs => rw [← hstart.plainDashes_eq_self, ← hfinish.plainDashes_eq_self]
    simp [hraw, plainDashes, dateTimeSeparator]
  have hsplit := splitFirst_dateTimeSeparator
    (occurs_value hs.plainDashes (isSpaced_plainDashes hd) hstart hfinish) (plainDashes time.toList)
  rw [prepare_of_occurs hwords hvalue (by rw [occurs_eq_isSome, hsplit]; rfl), hdelimiter]

section Prepared

variable {n : Normalizer} {s : List Char} (hs : IsDelimiter s)
  (hdelimiter : n.delimiter = some (plainDashes s)) {a b : Date} {t u : TimeOfDay}
  (hyear : (1 ≤ a.year ∧ a.year ≤ 9999) ∧ 1 ≤ b.year ∧ b.year ≤ 9999)
  (ht : t.second = 0 ∧ t.micro = 0) {start finish time endTime d d' : String}
  (ha : IsDateText a start.toList) (hb : IsDateText b finish.toList)
  (htime : IsTimeText t time.toList) (hd : IsSpaced s d.toList) {raw : String}
  (hwords : n.locale.replaceWords raw = raw)
include hs hdelimiter hyear ht ha hb htime hd hwords

/-- A range of dates with a time behind the separator has the time at both ends. -/
theorem normalize_time
    (hcandidates : n.candidates = dateCandidates (plainDashes s) ∨
      n.candidates = dateTimeCandidates (plainDashes s))
    (hraw : raw = start ++ d ++ finish ++ "%;" ++ time) :
    n.normalize raw = some ⟨some a, some t, some b, some t⟩ := by
  obtain ⟨x, hx, hlx⟩ := laysOut_dateText ha
  obtain ⟨y, hy, hly⟩ := laysOut_dateText hb
  have hstart := isMomentText_dateText ha
  have hfinish := isMomentText_dateText hb
  have htext := htime.isCompactText
  obtain ⟨between, hbetween, hcompact⟩ := compactChars_joined hs.plainDashes
    (hlx.join htext.layout) hly (hx.isCompactText.join htext).toIsMomentText
    hy.isCompactText.toIsMomentText
  refine normalize_dates hs.plainDashes hx hy hyear htime ht hbetween hcandidates ?_
  rw [prepare_value hs hdelimiter hstart hfinish hd hraw hwords, htext.plainDashes_eq_self,
    reorderValue_time hs.plainDashes (isSpaced_plainDashes hd) hstart hfinish
      htext.toIsMomentText, hcompact]

/-- A range of dates with a range of times behind the separator has a time at each end. -/
theorem normalize_times (hu : u.second = 0 ∧ u.micro = 0)
    (hendTime : IsTimeText u endTime.toList) (hd' : IsSpaced s d'.toList)
    (hcandidates : n.candidates = dateTimeCandidates (plainDashes s))
    (hraw : raw = start ++ d ++ finish ++ "%;" ++ (time ++ d' ++ endTime)) :
    n.normalize raw = some ⟨some a, some t, some b, some u⟩ := by
  obtain ⟨x, hx, hlx⟩ := laysOut_dateText ha
  obtain ⟨y, hy, hly⟩ := laysOut_dateText hb
  have hstart := isMomentText_dateText ha
  have hfinish := isMomentText_dateText hb
  have htext := htime.isCompactText
  have hendText := hendTime.isCompactText
  obtain ⟨between, hbetween, hcompact⟩ := compactChars_joined hs.plainDashes
    (hlx.join htext.layout) (hly.join hendText.layout)
    (hx.isCompactText.join htext).toIsMomentText (hy.isCompactText.join hendText).toIsMomentText
  have htimes : plainDashes (time ++ d' ++ endTime).toList =
      time.toList ++ plainDashes d'.toList ++ endTime.toList := by
    conv_rhs => rw [← htext.plainDashes_eq_self, ← hendText.plainDashes_eq_self]
    simp [plainDashes]
  refine normalize_dates_times hs.plainDashes hx hy hyear htime hendTime ht hu hbetween
    hcandidates ?_
  rw [prepare_value hs hdelimiter hstart hfinish hd hraw hwords, htimes,
    reorderValue_times hs.plainDashes (isSpaced_plainDashes hd) hstart hfinish
      htext.toIsMomentText hendText.toIsMomentText (isSpaced_plainDashes hd'), hcompact]

end Prepared

/-- A format of a range with both ends in one format, with any space around the delimiter. -/
def IsRangeFormat (s ends format : String) : Prop :=
  ∃ d : String, IsSpaced s.toList d.toList ∧ '\n' ∉ d.toList ∧
    format = ends ++ "%range\x7b" ++ d ++ "\x7d" ++ ends

/-- The format of a range is its ends with the macro of the delimiter between them. -/
theorem IsRangeFormat.eq {s ends format : String} (h : IsRangeFormat s ends format) :
    ∃ d, IsSpaced s.toList d ∧ '\n' ∉ d ∧ format = String.ofList (rangeFormat d ends) := by
  obtain ⟨d, hd, hline, rfl⟩ := h
  refine ⟨d.toList, hd, hline, ?_⟩
  rw [← String.ofList_toList (s := ends ++ _ ++ d ++ _ ++ ends)]
  simp [rangeFormat, rangeMacro, macroOpening]

end Almanac.Datetime

namespace Almanac

open Datetime Text

section Template

variable {template : Template} {s dateFormat : String} (hs : IsDelimiter s.toList)
  (hmoments : template.eventField? .datetime = none)
  (hdateFormat : IsRangeFormat s "%d.%m.%Y" dateFormat)
  (hdates : template.formats .date = [dateFormat])
include hs hmoments hdateFormat hdates

/-- The normalizer of a template with formats of ranges of dates. -/
theorem normalizer_dates (htimes : template.formats .time = []) (locale : Locale) :
    template.normalizer locale =
      ⟨dateCandidates (plainDashes s.toList), some (plainDashes s.toList), locale⟩ := by
  obtain ⟨d, hd, hline, rfl⟩ := hdateFormat.eq
  have hformats : template.datetimeFormats =
      ⟨none, [String.ofList (rangeFormat d usualDate)], []⟩ := by
    rw [Template.datetimeFormats, hmoments, hdates, htimes]
    rfl
  rw [Template.normalizer, Normalizer.of, hformats, candidates_dates hs hd hline,
    delimiter?_dates hs hd hline]

/-- The normalizer of a template with formats of ranges of dates and of times. -/
theorem normalizer_dates_times {timeFormat : String}
    (htimeFormat : IsRangeFormat s "%H:%M" timeFormat)
    (htimes : template.formats .time = [timeFormat]) (locale : Locale) :
    template.normalizer locale =
      ⟨dateTimeCandidates (plainDashes s.toList), some (plainDashes s.toList), locale⟩ := by
  obtain ⟨d, hd, hline, rfl⟩ := hdateFormat.eq
  obtain ⟨d', hd', hline', rfl⟩ := htimeFormat.eq
  have hformats : template.datetimeFormats =
      ⟨none, [String.ofList (rangeFormat d usualDate)],
        [String.ofList (rangeFormat d' usualTime)]⟩ := by
    rw [Template.datetimeFormats, hmoments, hdates, htimes]
    rfl
  rw [Template.normalizer, Normalizer.of, hformats,
    candidates_dates_times hs hd hline hd' hline', delimiter?_dates hs hd hline]

end Template

/-- **A range of dates with a time, or a range of times, apart from it is normalized to its
parts.** -/
theorem normalize_range {template : Template} (locale : Locale) {s : String}
    (hs : IsDelimiter s.toList) (hmoments : template.eventField? .datetime = none)
    {dateFormat : String} (hdateFormat : IsRangeFormat s "%d.%m.%Y" dateFormat)
    (hdates : template.formats .date = [dateFormat])
    (htimes : template.formats .time = [] ∨
      ∃ timeFormat, IsRangeFormat s "%H:%M" timeFormat ∧ template.formats .time = [timeFormat])
    {a b : Date} (hyear : (1 ≤ a.year ∧ a.year ≤ 9999) ∧ 1 ≤ b.year ∧ b.year ≤ 9999)
    {t u : TimeOfDay} (ht : t.second = 0 ∧ t.micro = 0) (hu : u.second = 0 ∧ u.micro = 0)
    {start finish time endTime d d' : String} (ha : IsDateText a start.toList)
    (hb : IsDateText b finish.toList) (htime : IsTimeText t time.toList)
    (hendTime : IsTimeText u endTime.toList) (hd : IsSpaced s.toList d.toList)
    (hd' : IsSpaced s.toList d'.toList) :
    (∀ raw, raw = start ++ d ++ finish ++ "%;" ++ time → locale.replaceWords raw = raw →
        (template.normalizer locale).normalize raw = some ⟨some a, some t, some b, some t⟩) ∧
      (template.formats .time ≠ [] →
        ∀ raw, raw = start ++ d ++ finish ++ "%;" ++ time ++ d' ++ endTime →
          locale.replaceWords raw = raw →
          (template.normalizer locale).normalize raw = some ⟨some a, some t, some b, some u⟩) := by
  obtain ⟨n, hn, hlocale, hdelimiter, hcandidates, htimesCandidates⟩ :
      ∃ n, template.normalizer locale = n ∧ n.locale = locale ∧
        n.delimiter = some (plainDashes s.toList) ∧
        (n.candidates = dateCandidates (plainDashes s.toList) ∨
          n.candidates = dateTimeCandidates (plainDashes s.toList)) ∧
        (template.formats .time ≠ [] →
          n.candidates = dateTimeCandidates (plainDashes s.toList)) := by
    rcases htimes with hnone | ⟨timeFormat, htimeFormat, htimes⟩
    · exact ⟨_, normalizer_dates hs hmoments hdateFormat hdates hnone locale, rfl, rfl, .inl rfl,
        fun h => absurd hnone h⟩
    · exact ⟨_, normalizer_dates_times hs hmoments hdateFormat hdates htimeFormat htimes locale,
        rfl, rfl, .inr rfl, fun _ => rfl⟩
  rw [hn]
  subst hlocale
  refine ⟨fun raw hraw hwords => ?_, fun hne raw hraw hwords => ?_⟩
  · exact normalize_time hs hdelimiter hyear ht ha hb htime hd hwords hcandidates hraw
  · have hparts : raw = start ++ d ++ finish ++ "%;" ++ (time ++ d' ++ endTime) := by
      rw [hraw]
      simp only [String.append_assoc]
    exact normalize_times hs hdelimiter hyear ht ha hb htime hd hwords hu hendTime hd'
      (htimesCandidates hne) hparts

/-- A template with formats of dates and of times. -/
def datedTemplate (dateFormat : String) (timeFormats : List String) : Template where
  name := "dated"
  event := some { fields := .ofList [
    ("date", { selection := {}, formats := [dateFormat] }),
    ("time", { selection := {}, formats := timeFormats })] }

/-- The delimiter stands in the word of the range macro too. -/
theorem normalize_range_letters :
    let template :=
      datedTemplate "%d.%m.%Y%range\x7b ge \x7d%d.%m.%Y" ["%H:%M%range\x7bge\x7d%H:%M"]
    let a : Date := ⟨2024, 2, 29, by decide, by decide⟩
    let b : Date := ⟨2024, 3, 1, by decide, by decide⟩
    let t : TimeOfDay := ⟨8, 5, 0, 0, by decide, by decide, by decide, by decide⟩
    let u : TimeOfDay := ⟨20, 30, 0, 0, by decide, by decide, by decide, by decide⟩
    IsDelimiter "ge".toList ∧ template.eventField? .datetime = none ∧
      IsRangeFormat "ge" "%d.%m.%Y" "%d.%m.%Y%range\x7b ge \x7d%d.%m.%Y" ∧
      template.formats .date = ["%d.%m.%Y%range\x7b ge \x7d%d.%m.%Y"] ∧
      IsRangeFormat "ge" "%H:%M" "%H:%M%range\x7bge\x7d%H:%M" ∧
      template.formats .time = ["%H:%M%range\x7bge\x7d%H:%M"] ∧
      IsDateText a "29. 02 .2024".toList ∧ IsDateText b "1.3.2024".toList ∧
      IsTimeText t "8:05".toList ∧ IsTimeText u "20:30".toList ∧
      (template.normalizer .english).normalize "29. 02 .2024 ge 1.3.2024%;8:05" =
        some ⟨some a, some t, some b, some t⟩ ∧
      (template.normalizer .english).normalize "29. 02 .2024 ge 1.3.2024%;8:05ge20:30" =
        some ⟨some a, some t, some b, some u⟩ := by
  intro template a b t u
  have hs : IsDelimiter "ge".toList := by decide
  have hmoments : template.eventField? .datetime = none := rfl
  have hdateFormat : IsRangeFormat "ge" "%d.%m.%Y" "%d.%m.%Y%range\x7b ge \x7d%d.%m.%Y" :=
    ⟨" ge ", ⟨[' '], [' '], by decide, List.forall_mem_singleton.mpr rfl,
      List.forall_mem_singleton.mpr rfl⟩, by decide, by decide⟩
  have htimeFormat : IsRangeFormat "ge" "%H:%M" "%H:%M%range\x7bge\x7d%H:%M" :=
    ⟨"ge", isSpaced_self _, by decide, by decide⟩
  have hdates : template.formats .date = ["%d.%m.%Y%range\x7b ge \x7d%d.%m.%Y"] := rfl
  have htimes : template.formats .time = ["%H:%M%range\x7bge\x7d%H:%M"] := rfl
  have ha : IsDateText a "29. 02 .2024".toList :=
    ⟨['2', '9'], [], [' '], ['0', '2'], [' '], [], by decide +kernel, by decide +kernel,
      List.all_eq_true.mp rfl, by decide +kernel⟩
  have hb : IsDateText b "1.3.2024".toList :=
    ⟨['1'], [], [], ['3'], [], [], by decide +kernel, by decide +kernel,
      List.forall_mem_nil _, by decide +kernel⟩
  have ht : IsTimeText t "8:05".toList :=
    ⟨['8'], ['0', '5'], by decide +kernel, by decide +kernel, rfl⟩
  have hu : IsTimeText u "20:30".toList :=
    ⟨['2', '0'], ['3', '0'], by decide +kernel, by decide +kernel, rfl⟩
  have hd : IsSpaced "ge".toList " ge ".toList :=
    ⟨[' '], [' '], by decide, List.forall_mem_singleton.mpr rfl, List.forall_mem_singleton.mpr rfl⟩
  have hd' : IsSpaced "ge".toList "ge".toList := isSpaced_self _
  have hrange := normalize_range .english hs hmoments hdateFormat hdates
    (.inr ⟨_, htimeFormat, htimes⟩) ⟨by decide, by decide⟩ ⟨rfl, rfl⟩ ⟨rfl, rfl⟩ ha hb ht hu hd hd'
  refine ⟨hs, hmoments, hdateFormat, hdates, htimeFormat, htimes, ha, hb, ht, hu, ?_, ?_⟩
  · exact hrange.1 _ (by decide) rfl
  · exact hrange.2 (by rw [htimes]; exact List.cons_ne_nil _ _) _ (by decide) rfl

/-- A year is read in four digits: without the zeros in front an early one is not read. -/
theorem normalize_range_early_year :
    let template := datedTemplate "%d.%m.%Y%range\x7b-\x7d%d.%m.%Y" []
    let a : Date := ⟨999, 2, 1, by decide, by decide⟩
    let b : Date := ⟨999, 2, 3, by decide, by decide⟩
    let t : TimeOfDay := ⟨18, 0, 0, 0, by decide, by decide, by decide, by decide⟩
    let raw := "1.2.999-3.2.999%;18:00"
    IsDelimiter "-".toList ∧ template.eventField? .datetime = none ∧
      IsRangeFormat "-" "%d.%m.%Y" "%d.%m.%Y%range\x7b-\x7d%d.%m.%Y" ∧
      template.formats .date = ["%d.%m.%Y%range\x7b-\x7d%d.%m.%Y"] ∧
      template.formats .time = [] ∧ Locale.english.replaceWords raw = raw ∧
      raw.toList = Number.digits a.day ++ '.' :: (Number.digits a.month ++ '.' ::
        (Number.digits a.year ++ '-' :: (Number.digits b.day ++ '.' :: (Number.digits b.month ++
          '.' :: (Number.digits b.year ++ "%;18:00".toList))))) ∧
      (template.normalizer .english).normalize raw ≠ some ⟨some a, some t, some b, some t⟩ := by
  intro template a b t raw
  have hs : IsDelimiter "-".toList := by decide
  have hdateFormat : IsRangeFormat "-" "%d.%m.%Y" "%d.%m.%Y%range\x7b-\x7d%d.%m.%Y" :=
    ⟨"-", isSpaced_self _, by decide, by decide⟩
  refine ⟨hs, rfl, hdateFormat, rfl, rfl, rfl, by decide +kernel, ?_⟩
  have hnormalizer : template.normalizer .english = ⟨dateCandidates ['-'], some ['-'], .english⟩ :=
    normalizer_dates hs rfl hdateFormat rfl rfl .english
  have hprepare : Normalizer.prepare ⟨dateCandidates ['-'], some ['-'], .english⟩ raw =
      "1.2.999 18:00-3.2.999".toList := by
    have hreorder : reorderValue (some ['-']) raw.toList = "1.2.999 18:00 - 3.2.999".toList := by
      decide +kernel
    rw [@prepare_of_occurs _ raw raw.toList rfl (by decide) (by decide), hreorder,
      compactChars_of_not_percent (by decide)]
    rfl
  have hstart : compactChars "1.2.999 18:00".toList = "1.2.999 18:00".toList := by
    rw [compactChars_of_not_percent (by decide)]
    rfl
  have hnone : Normalizer.normalize ⟨dateCandidates ['-'], some ['-'], .english⟩ raw = none := by
    refine normalize_eq_none fun c hc => ?_
    rw [hprepare]
    simp only [dateCandidates, List.mem_cons, List.not_mem_nil, or_false] at hc
    have hsplit : splitFirst ['-'] "1.2.999 18:00-3.2.999".toList =
        some ("1.2.999 18:00".toList, "3.2.999".toList) := by decide
    rcases hc with rfl | rfl | rfl | rfl
    · exact read?_range_eq_none hsplit (by rw [hstart]; rfl) usualDate
    · exact read?_range_eq_none hsplit (by rw [hstart]; rfl) usualDate
    · rfl
    · rfl
  rw [hnormalizer, hnone]
  exact (Option.some_ne_none _).symm

end Almanac
