import Almanac.Text.Case

/-!
# Characters by their code points

What is true of the code points of white space is true of white space (`forall_isBlank`). A
letter changes its case to a character that is in the table for it, so that a character that no
table leads to, such as white space or punctuation, is the lower case of itself only
(`eq_of_sameLetter`).

Every letter that folds to another one, and the one it folds to, is a word character: whether a
character is one does not depend on its case (`isWordChar_fold`).
-/

namespace Almanac.Text

/-- What is said of the characters of a text is decided by going through the text, and not
through all the characters there are. -/
instance decidableForallMem (cs : List Char) (p : Char → Prop) [DecidablePred p] :
    Decidable (∀ c ∈ cs, p c) := List.decidableBAll p cs

/-! ## White space -/

/-- The code points of white space. -/
def blankPoints : List Nat :=
  [9, 10, 11, 12, 13, 0x20, 0x85, 0xa0, 0x1680, 0x2000, 0x2001, 0x2002, 0x2003, 0x2004, 0x2005,
    0x2006, 0x2007, 0x2008, 0x2009, 0x200a, 0x2028, 0x2029, 0x202f, 0x205f, 0x3000]

theorem toNat_mem_blankPoints {c : Char} (h : isBlank c = true) : c.toNat ∈ blankPoints := by
  simp only [isBlank, Bool.or_eq_true, Bool.and_eq_true, decide_eq_true_eq, beq_iff_eq] at h
  simp only [blankPoints, List.mem_cons, List.not_mem_nil, or_false]
  omega

/-- What holds of the white space in the table holds of all white space. -/
theorem forall_isBlank {p : Char → Prop} (h : ∀ n ∈ blankPoints, p (Char.ofNat n)) (c : Char)
    (hc : isBlank c = true) : p c := by
  have hp := h c.toNat (toNat_mem_blankPoints hc)
  rwa [Char.ofNat_toNat] at hp

/-! ## Latin letters -/

/-- A character is in lower case by itself or is one of the capitals. -/
theorem asciiLower_cases (c : Char) : asciiLower c = c ∨
    ∃ n, n < 26 ∧ c = Char.ofNat (65 + n) ∧ asciiLower c = Char.ofNat (97 + n) := by
  unfold asciiLower
  split
  · next h =>
    simp only [Bool.and_eq_true, decide_eq_true_eq, Char.le_def, UInt32.le_iff_toNat_le] at h
    have hlow : 65 ≤ c.toNat := h.1
    have hhigh : c.toNat ≤ 90 := h.2
    refine .inr ⟨c.toNat - 65, by omega, ?_, ?_⟩
    · rw [Nat.add_sub_cancel' hlow, Char.ofNat_toNat]
    · congr 1
      omega
  · exact .inl rfl

/-- Making a capital small keeps what a small letter and its capital share. -/
theorem asciiLower_eq {α : Type} {f : Char → α}
    (h : ∀ n < 26, f (Char.ofNat (97 + n)) = f (Char.ofNat (65 + n))) (c : Char) :
    f (asciiLower c) = f c := by
  rcases asciiLower_cases c with hself | ⟨n, hn, hc, hlower⟩
  · rw [hself]
  · rw [hlower, hc, h n hn]

theorem eq_of_asciiLower_eq {c d : Char} (hd : ∀ n < 26, Char.ofNat (97 + n) ≠ d)
    (h : asciiLower c = d) : c = d := by
  rcases asciiLower_cases c with hself | ⟨n, hn, _, hlower⟩
  · rwa [hself] at h
  · exact absurd (hlower.symm.trans h) (hd n hn)

/-! ## Tables of letters -/

/-- A number is left as it is or moved by one of the shifts. -/
theorem Shift.apply_cases (shifts : List Shift) (n : Nat) :
    Shift.apply shifts n = n ∨
      ∃ s ∈ shifts, s.covers n = true ∧ Shift.apply shifts n = (n + s.distance).toNat := by
  induction shifts with
  | nil => exact .inl rfl
  | cons s shifts ih =>
    rw [Shift.apply]
    split
    · exact .inl rfl
    · split
      · next hcovers => exact .inr ⟨s, List.mem_cons_self, hcovers, rfl⟩
      · rcases ih with h | ⟨s', hs', h⟩
        · exact .inl h
        · exact .inr ⟨s', List.mem_cons_of_mem _ hs', h⟩

theorem toNat_of_ofNat_eq {n : Nat} {c : Char} (h : Char.ofNat n = c) (hc : c.toNat ≠ 0) :
    n = c.toNat := by
  by_cases hn : n.isValidChar
  · rw [← h, Char.ofNat, dif_pos hn]
    rfl
  · rw [Char.ofNat, dif_neg hn] at h
    rw [← h] at hc
    exact absurd rfl hc

/-- Whether no run of a table leads to a code point. -/
def Shift.misses (shifts : List Shift) (n : Nat) : Bool :=
  n != 0 && shifts.all fun s =>
    !((s.first : Int) + s.distance ≤ n && (n : Int) ≤ s.last + s.distance)

/-- What no shift leads to is only itself. -/
theorem eq_of_shift_eq {shifts : List Shift} {c d : Char}
    (hd : Shift.misses shifts d.toNat = true)
    (h : Char.ofNat (Shift.apply shifts c.toNat) = d) : c = d := by
  rw [Shift.misses, Bool.and_eq_true, bne_iff_ne, List.all_eq_true] at hd
  obtain ⟨hne, hruns⟩ := hd
  have hnat := toNat_of_ofNat_eq h hne
  rcases Shift.apply_cases shifts c.toNat with hself | ⟨s, hs, hcovers, happly⟩
  · rwa [hself, Char.ofNat_toNat] at h
  · have hrun := hruns s hs
    simp only [Shift.covers, Bool.and_eq_true, decide_eq_true_eq] at hcovers
    simp only [Bool.not_eq_true', Bool.and_eq_false_iff, decide_eq_false_iff_not] at hrun
    omega

/-- Whether no other letter is one with a character, whatever its case. -/
def isUncased (d : Char) : Bool :=
  d.toNat < 128 && asciiLower d == d && (List.range 26).all (fun n => Char.ofNat (97 + n) != d) &&
    Shift.misses Table.lowercase d.toNat

/-- A character that is the lower case of itself, and of no other character. -/
def StandsAlone (d : Char) : Prop :=
  lower d = [d] ∧ (∀ n < 26, Char.ofNat (97 + n) ≠ d) ∧
    Shift.misses Table.lowercase d.toNat = true

instance (d : Char) : Decidable (StandsAlone d) := inferInstanceAs (Decidable (_ ∧ _ ∧ _))

/-- Nothing but itself is one letter with such a character. -/
theorem StandsAlone.eq_of_lower_eq {c d : Char} (hd : StandsAlone d) (h : lower c = lower d) :
    c = d := by
  obtain ⟨hself, hlatin, hmisses⟩ := hd
  rw [hself, lower] at h
  split at h
  · exact eq_of_asciiLower_eq hlatin (List.singleton_inj.mp h)
  · split at h
    · cases h
    · exact eq_of_shift_eq hmisses (List.singleton_inj.mp h)

/-- A character without case is the same letter as itself alone. -/
theorem eq_of_sameLetter {c d : Char} (hd : isUncased d = true) (h : sameLetter c d = true) :
    c = d := by
  simp only [isUncased, Bool.and_eq_true, decide_eq_true_eq, beq_iff_eq, List.all_eq_true,
    List.mem_range, bne_iff_ne] at hd
  obtain ⟨⟨⟨hascii, hself⟩, hlatin⟩, hmisses⟩ := hd
  have hlower : lower d = [d] := by
    rw [lower, if_pos hascii, hself]
  rw [sameLetter, Bool.or_eq_true, beq_iff_eq, beq_iff_eq] at h
  rcases h with h | h
  · exact h
  · exact StandsAlone.eq_of_lower_eq ⟨hlower, hlatin, hmisses⟩ h

/-- Of two characters that are one letter both are in a class or none, where every character of
the class stands alone. -/
theorem apply_eq_of_lower_eq {p : Char → Bool} (halone : ∀ d, p d = true → StandsAlone d)
    {c d : Char} (h : lower c = lower d) : p c = p d := by
  cases hd : p d with
  | true => rw [(halone d hd).eq_of_lower_eq h, hd]
  | false =>
    cases hc : p c with
    | true => rw [(halone c hc).eq_of_lower_eq h.symm, hc] at hd; cases hd
    | false => rfl

/-- A text holds no character of such a class when one with the same lower case holds none. -/
theorem forall_eq_false_of_lower_eq {p : Char → Bool} (halone : ∀ d, p d = true → StandsAlone d)
    {cs cs' : List Char} (h : cs.map lower = cs'.map lower) (hcs' : ∀ c ∈ cs', p c = false) :
    ∀ c ∈ cs, p c = false := by
  intro c hc
  have hmem : lower c ∈ cs'.map lower := h ▸ List.mem_map_of_mem hc
  obtain ⟨c', hc', hlower⟩ := List.mem_map.mp hmem
  rw [← apply_eq_of_lower_eq halone hlower]
  exact hcs' c' hc'

theorem standsAlone_of_isBlank : ∀ d : Char, isBlank d = true → StandsAlone d :=
  forall_isBlank (by decide +kernel)

/-- The case of letters does not matter for what is white space. -/
theorem isBlank_eq_of_lower_eq {c d : Char} (h : lower c = lower d) : isBlank c = isBlank d :=
  apply_eq_of_lower_eq standsAlone_of_isBlank h

/-! ## Word characters -/

theorem CodePoints.exists_range {points : CodePoints} {n : Nat} (h : points.contains n = true) :
    ∃ r ∈ points, r.1 ≤ n ∧ n ≤ r.2 := by
  induction points with
  | nil => cases h
  | cons r rest ih =>
    rw [contains_cons] at h
    by_cases hfirst : n < r.1
    · simp [hfirst] at h
    · by_cases hlast : n ≤ r.2
      · exact ⟨r, List.mem_cons_self, by omega, hlast⟩
      · simp only [hfirst, hlast, if_false, decide_false, Bool.false_or] at h
        obtain ⟨r', hr', hn⟩ := ih h
        exact ⟨r', List.mem_cons_of_mem _ hr', hn⟩

/-- Whether one of the ranges holds all code points from `a` to `b`. -/
def CodePoints.containsRange : CodePoints → Nat → Nat → Bool
  | [], _, _ => false
  | r :: rest, a, b => r.1.ble a && (b.ble r.2 || containsRange rest a b)

theorem CodePoints.contains_of_containsRange {points : CodePoints} {a b n : Nat}
    (h : points.containsRange a b = true) (ha : a ≤ n) (hb : n ≤ b) : points.contains n = true := by
  induction points with
  | nil => cases h
  | cons r rest ih =>
    simp only [containsRange, Bool.and_eq_true, Bool.or_eq_true, Nat.ble_eq] at h
    obtain ⟨hfirst, hlast | hrest⟩ := h
    · have hnot : ¬ n < r.1 := by omega
      simp [contains_cons, hnot, Nat.le_trans hb hlast]
    · have hnot : ¬ n < r.1 := by omega
      simp [contains_cons, hnot, ih hrest]

/-- Whether a set holds the code points that a run moves, and those that it moves them to. -/
def Shift.staysIn (points : CodePoints) (s : Shift) : Bool :=
  points.containsRange ((s.first : Int) + s.distance).toNat ((s.last : Int) + s.distance).toNat &&
    (points.containsRange s.first s.last || (List.range (s.last - s.first + 1)).all fun k =>
      !s.covers (s.first + k) || points.contains (s.first + k))

/-- A shift that stays within numbers leads from each of them to one of them. -/
theorem Shift.contains_of_staysIn {points : CodePoints} {s : Shift} {n : Nat}
    (h : s.staysIn points = true) (hn : s.covers n = true) :
    points.contains n = true ∧ points.contains ((n : Int) + s.distance).toNat = true := by
  have hbounds : s.first ≤ n ∧ n ≤ s.last := by
    simp only [covers, Bool.and_eq_true, decide_eq_true_eq] at hn
    exact hn.1
  rw [staysIn, Bool.and_eq_true, Bool.or_eq_true] at h
  obtain ⟨hto, hfrom⟩ := h
  refine ⟨?_, CodePoints.contains_of_containsRange hto (by omega) (by omega)⟩
  rcases hfrom with hrange | heach
  · exact CodePoints.contains_of_containsRange hrange hbounds.1 hbounds.2
  · have hpoint := List.all_eq_true.mp heach (n - s.first) (List.mem_range.mpr (by omega))
    rw [Nat.add_sub_cancel' hbounds.1, hn] at hpoint
    simpa using hpoint

/-- Folding leads from letters to letters. -/
theorem staysIn_folding : ∀ s ∈ Table.folding, s.staysIn Table.alphabetic = true := by
  decide +kernel

theorem toNat_ofNat_of_alphabetic {n : Nat} (h : Table.alphabetic.contains n = true) :
    (Char.ofNat n).toNat = n := by
  have hvalid : ∀ r ∈ Table.alphabetic, r.2 < 0xd800 ∨ 0xdfff < r.1 ∧ r.2 < 0x110000 := by
    decide +kernel
  obtain ⟨r, hr, hn⟩ := CodePoints.exists_range h
  have hchar : n.isValidChar := by
    rcases hvalid r hr with hlow | hhigh
    · exact .inl (by omega)
    · exact .inr ⟨by omega, by omega⟩
  rw [Char.ofNat, dif_pos hchar]
  rfl

theorem isWordChar_of_alphabetic {c : Char} (h : Table.alphabetic.contains c.toNat = true) :
    isWordChar c = true := by
  by_cases hascii : c.toNat < 128
  · have hletters : ∀ n < 128, Table.alphabetic.contains n = true →
        isWordChar (Char.ofNat n) = true := by
      decide +kernel
    have hword := hletters c.toNat hascii h
    rwa [Char.ofNat_toNat] at hword
  · simp [isWordChar, hascii, h]

/-- The case of a letter does not matter for what words are made of. -/
theorem isWordChar_fold (c : Char) : isWordChar (fold c) = isWordChar c := by
  by_cases hascii : c.toNat < 128
  · have hlatin : ∀ n < 26,
        isWordChar (Char.ofNat (97 + n)) = isWordChar (Char.ofNat (65 + n)) := by
      decide +kernel
    rw [fold, if_pos hascii, asciiLower_eq hlatin]
  · rw [fold, if_neg hascii]
    rcases Shift.apply_cases Table.folding c.toNat with hself | ⟨s, hs, hcovers, happly⟩
    · rw [hself, Char.ofNat_toNat]
    · obtain ⟨hfrom, hto⟩ := Shift.contains_of_staysIn (staysIn_folding s hs) hcovers
      have hchar := toNat_ofNat_of_alphabetic hto
      rw [happly, isWordChar_of_alphabetic hfrom, isWordChar_of_alphabetic (hchar.symm ▸ hto)]

/-- Characters that fold alike are both part of words or neither. -/
theorem isWordChar_eq_of_fold_eq {a b : Char} (h : fold a = fold b) :
    isWordChar a = isWordChar b := by
  rw [← isWordChar_fold a, h, isWordChar_fold]

end Almanac.Text
