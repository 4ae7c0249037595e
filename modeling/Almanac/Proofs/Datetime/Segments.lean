import Mathlib.Algebra.GroupWithZero.Nat
import Mathlib.Data.List.Induction
import Almanac.Datetime.Matching

/-!
# Preferred segments

What a directive reads first. Where digits stand that a number can take all of, the number
prefers to take them all (`segments_digits`). Where a name stands of which no other name
is the beginning, and which is the beginning of no other, that name is preferred
(`nameSegments_name`). When what is preferred leads through the rest of the pieces, it
decides (`matchPieces?_directive`).
-/

namespace Almanac

open Text

namespace Number

/-! ## Padded digits -/

theorem digits_ne_nil (n : Nat) : digits n ≠ [] := by
  rw [digits]
  split <;> simp

/-- A number below a power of ten has as many digits at most. -/
theorem length_digits_le {width n : Nat} (hwidth : 0 < width) (h : n < 10 ^ width) :
    (digits n).length ≤ width := by
  induction width generalizing n with
  | zero => omega
  | succ width ih =>
    rw [digits]
    split
    · simp
    · have hlt : n / 10 < 10 ^ width := by
        rw [Nat.pow_succ] at h
        omega
      have hpos : 0 < width := by
        rcases Nat.eq_zero_or_pos width with rfl | hpos
        · omega
        · exact hpos
      have := ih hpos hlt
      simp only [List.length_append, List.length_singleton]
      omega

theorem length_paddedDigits {width n : Nat} (hwidth : 0 < width) (h : n < 10 ^ width) :
    (paddedDigits width n).length = width := by
  have := length_digits_le hwidth h
  simp only [paddedDigits, List.length_append, List.length_replicate]
  omega

theorem value_paddedDigits (width n : Nat) : value (paddedDigits width n) = n := by
  have hzeros : ∀ (k : Nat) (cs : List Char), value (List.replicate k '0' ++ cs) = value cs := by
    intro k cs
    induction k with
    | zero => rfl
    | succ k ih =>
      rw [List.replicate_succ, List.cons_append, ← ih]
      rfl
  simp only [paddedDigits, hzeros, value_digits]

theorem isAsciiDigit_of_mem_paddedDigits {width n : Nat} {c : Char}
    (h : c ∈ paddedDigits width n) : isAsciiDigit c = true := by
  simp only [paddedDigits, List.mem_append, List.mem_replicate] at h
  rcases h with ⟨-, rfl⟩ | h
  · decide
  · exact isAsciiDigit_of_mem_digits h

theorem digitChar_asciiDigitValue {c : Char} (h : isAsciiDigit c = true) :
    digitChar (asciiDigitValue c) = c ∧ asciiDigitValue c < 10 := by
  simp only [isAsciiDigit, Bool.and_eq_true, decide_eq_true_eq, Char.le_def,
    UInt32.le_iff_toNat_le] at h
  have hlow : 48 ≤ c.toNat := h.1
  have hhigh : c.toNat ≤ 57 := h.2
  have hvalue : asciiDigitValue c = c.toNat - 48 := rfl
  rw [digitChar, hvalue, Nat.add_sub_cancel' hlow, Char.ofNat_toNat]
  exact ⟨rfl, by omega⟩

/-- A digit behind padded digits makes a number ten times as large and more by the digit. -/
theorem paddedDigits_append {width : Nat} (hwidth : 0 < width) (n : Nat) {d : Nat} (hd : d < 10) :
    paddedDigits (width + 1) (n * 10 + d) = paddedDigits width n ++ [digitChar d] := by
  rcases Nat.eq_zero_or_pos n with rfl | hpos
  · have hzeros : List.replicate width '0' = List.replicate (width - 1) '0' ++ ['0'] := by
      rw [← List.replicate_succ', Nat.sub_add_cancel hwidth]
    have hdigits : digits (0 * 10 + d) = [digitChar d] := by
      rw [digits, if_pos (by omega), Nat.zero_mul, Nat.zero_add]
    have hzero : digits 0 = ['0'] := by
      rw [digits, if_pos (by decide)]
      rfl
    simp only [paddedDigits, hdigits, hzero, List.length_singleton, Nat.add_sub_cancel, hzeros]
  · have hdiv : (n * 10 + d) / 10 = n := by omega
    have hmod : (n * 10 + d) % 10 = d := by omega
    have hdigits : digits (n * 10 + d) = digits n ++ [digitChar d] := by
      rw [digits, if_neg (by omega), hdiv, hmod]
    simp only [paddedDigits, hdigits, List.length_append, List.length_singleton,
      Nat.add_sub_add_right, List.append_assoc]

/-- Digits are the padded digits of the number that they stand for. -/
theorem paddedDigits_value {cs : List Char} (hne : cs ≠ [])
    (h : ∀ c ∈ cs, isAsciiDigit c = true) : paddedDigits cs.length (value cs) = cs := by
  induction cs using List.reverseRecOn with
  | nil => exact absurd rfl hne
  | append_singleton cs c ih =>
    rw [List.forall_mem_append, List.forall_mem_singleton] at h
    obtain ⟨hchar, hlt⟩ := digitChar_asciiDigitValue h.2
    rw [value_append_singleton, List.length_append, List.length_singleton]
    cases cs with
    | nil =>
      have hdigits : digits (value [] * 10 + asciiDigitValue c) = [c] := by
        rw [value, List.foldl_nil, Nat.zero_mul, Nat.zero_add, digits, if_pos hlt, hchar]
      rw [paddedDigits, hdigits]
      rfl
    | cons d cs =>
      rw [paddedDigits_append (List.length_pos_of_mem List.mem_cons_self) _ hlt, ih (List.cons_ne_nil _ _) h.1, hchar]

end Number

namespace Text

theorem not_isBlank_of_isAsciiDigit {c : Char} (h : isAsciiDigit c = true) :
    isBlank c = false := by
  simp only [isAsciiDigit, Bool.and_eq_true, decide_eq_true_eq, Char.le_def,
    UInt32.le_iff_toNat_le] at h
  have h₁ : 48 ≤ c.toNat := h.1
  have h₂ : c.toNat ≤ 57 := h.2
  simp only [isBlank, Bool.or_eq_false_iff, Bool.and_eq_false_iff, decide_eq_false_iff_not,
    beq_eq_false_iff_ne]
  omega

theorem sameLetter_iff {a b : Char} : sameLetter a b = true ↔ lower a = lower b := by
  simp only [sameLetter, Bool.or_eq_true, beq_iff_eq]
  refine ⟨?_, Or.inr⟩
  rintro (rfl | h)
  · rfl
  · exact h

end Text

namespace Datetime

/-! ## Numbers -/

/-- A year of two digits stands for one of four. -/
theorem fullYear_bounds {value : Nat} (h : value ≤ 99) :
    1 ≤ fullYear value ∧ fullYear value ≤ 9999 := by
  unfold fullYear
  split <;> omega

theorem takeWhile_take_append {p : Char → Bool} {front rest : List Char} {most : Nat}
    (hfront : ∀ c ∈ front, p c = true) (hmost : front.length ≤ most)
    (hend : front.length = most ∨ ∀ c ∈ rest.head?, p c = false) :
    ((front ++ rest).take most).takeWhile p = front := by
  rw [List.take_append, List.take_of_length_le hmost,
    List.takeWhile_append_of_pos hfront]
  have hnone : (rest.take (most - front.length)).takeWhile p = [] := by
    rcases hend with h | h
    · rw [h, Nat.sub_self, List.take_zero]
      rfl
    · cases rest with
      | nil => simp
      | cons c rest =>
        have hc : p c = false := h c rfl
        cases most - front.length with
        | zero => rfl
        | succ k => rw [List.take_succ_cons, List.takeWhile_cons, hc]; rfl
  rw [hnone, List.append_nil]

/-- A number prefers to take all digits, if it can take as many and their value is in
its range. -/
theorem Numeral.segments_digits (n : Numeral) {ds rest : List Char}
    (hds : ∀ c ∈ ds, isAsciiDigit c = true) (hleast : n.least ≤ ds.length)
    (hmost : ds.length ≤ n.most)
    (hend : ds.length = n.most ∨ ∀ c ∈ rest.head?, isAsciiDigit c = false)
    (hlow : n.low ≤ Number.value ds) (hhigh : Number.value ds ≤ n.high) :
    ∃ more, n.segments (ds ++ rest) =
      (ds.length, .number n.slot (n.meaning ds.length (Number.value ds))) :: more := by
  have havailable := takeWhile_take_append hds hmost hend
  have hcount : ds.length + 1 - n.least = (ds.length - n.least) + 1 := by omega
  have hwidest : n.least + (ds.length - n.least) = ds.length := by omega
  unfold Numeral.segments
  simp only [havailable, hcount, List.range'_concat, List.reverse_append, List.reverse_singleton,
    List.singleton_append, Nat.one_mul, hwidest, List.filterMap_cons, List.take_left, hlow, hhigh,
    decide_true, Bool.and_self, if_true]
  exact ⟨_, rfl⟩

/-- A padded number is cut in full first. -/
theorem Numeral.segments_padded (n : Numeral) {v : Nat}
    (hwidth : n.least ≤ n.most ∧ 0 < n.most ∧ n.high < 10 ^ n.most) (hlow : n.low ≤ v)
    (hhigh : v ≤ n.high) (rest : List Char) :
    ∃ more, n.segments (Number.paddedDigits n.most v ++ rest) =
      ((Number.paddedDigits n.most v).length, .number n.slot (n.meaning n.most v)) :: more := by
  obtain ⟨hleast, hmost, hrange⟩ := hwidth
  have hlength := Number.length_paddedDigits hmost (Nat.lt_of_le_of_lt hhigh hrange)
  have hvalue := Number.value_paddedDigits n.most v
  have hdigits : ∀ c ∈ Number.paddedDigits n.most v, isAsciiDigit c = true :=
    fun _ => Number.isAsciiDigit_of_mem_paddedDigits
  obtain ⟨more, h⟩ := n.segments_digits hdigits (hlength.symm ▸ hleast) (Nat.le_of_eq hlength)
    (.inl hlength) (hvalue.symm ▸ hlow) (hvalue.symm ▸ hhigh)
  refine ⟨more, h.trans ?_⟩
  rw [hvalue, hlength]

/-! ## Names -/

theorem beginsName_iff {name cs : List Char} :
    beginsName name cs = true ↔ name.map lower <+: cs.map lower := by
  induction name generalizing cs with
  | nil => simp [beginsName]
  | cons n name ih =>
    cases cs with
    | nil => simp [beginsName]
    | cons c cs =>
      simp only [beginsName, Bool.and_eq_true, sameLetter_iff, List.map_cons,
        List.cons_prefix_cons, ih]
      exact and_congr_left fun _ => eq_comm

/-- Names that can be told apart by reading on from their first letters: none is empty or
begins with white space, and none is the beginning of another, in any case. -/
structure AreReadable (names : List String) : Prop where
  begins : ∀ name ∈ names, name.toList.head?.any (!isBlank ·) = true
  apart : names.Pairwise fun a b =>
    ¬ a.toList.map lower <+: b.toList.map lower ∧ ¬ b.toList.map lower <+: a.toList.map lower

instance (names : List String) : Decidable (AreReadable names) :=
  decidable_of_iff (_ ∧ _) ⟨fun h => ⟨h.1, h.2⟩, fun h => ⟨h.1, h.2⟩⟩

theorem AreReadable.begins_cons {names : List String} (h : AreReadable names) {name : String}
    (hname : name ∈ names) : ∃ c cs, name.toList = c :: cs ∧ isBlank c = false := by
  have hbegins := h.begins name hname
  cases hlist : name.toList with
  | nil =>
    rw [hlist] at hbegins
    cases hbegins
  | cons c cs =>
    rw [hlist, List.head?_cons, Option.any_some, Bool.not_eq_true'] at hbegins
    exact ⟨c, cs, rfl, hbegins⟩

/-- A name that can be told apart is cut in full first. -/
theorem nameSegments_name {names : List String} (hnames : AreReadable names)
    (reading : Nat → Reading) {i : Nat} {name : String} (hi : names[i]? = some name)
    (rest : List Char) :
    ∃ more, nameSegments names reading (name.toList ++ rest) =
      (name.toList.length, reading i) :: more := by
  obtain ⟨hlt, rfl⟩ := List.getElem?_eq_some_iff.mp hi
  have hsplit : names = names.take i ++ names[i] :: names.drop (i + 1) := by
    rw [← List.drop_eq_getElem_cons hlt, List.take_append_drop]
  have hlength : (names.take i).length = i := by
    rw [List.length_take]
    omega
  generalize names[i] = name at *
  generalize names.take i = front at *
  generalize names.drop (i + 1) = back at *
  subst hsplit
  have hne : name.toList.isEmpty = false := by
    have hmem : name ∈ front ++ name :: back := by simp
    obtain ⟨c, cs, hname, -⟩ := hnames.begins_cons hmem
    rw [hname]
    rfl
  have hself : beginsName name.toList (name.toList ++ rest) = true := by
    rw [beginsName_iff, List.map_append]
    exact List.prefix_append _ _
  have hbefore : ∀ other ∈ front, beginsName other.toList (name.toList ++ rest) = false := by
    intro other hother
    obtain ⟨h₁, h₂⟩ := (List.pairwise_append.mp hnames.apart).2.2 other hother name
      List.mem_cons_self
    rw [← Bool.not_eq_true, beginsName_iff, List.map_append]
    intro hprefix
    -- two beginnings of one text: one of them is the beginning of the other
    rcases List.prefix_or_prefix_of_prefix hprefix (List.prefix_append _ _) with h | h
    · exact h₁ h
    · exact h₂ h
  have hmem : ∀ p ∈ front.zipIdx, p.1 ∈ front := by
    intro p hp
    have := List.mem_zipIdx hp
    grind
  unfold nameSegments
  rw [List.zipIdx_append, List.filterMap_append,
    (List.filterMap_eq_nil_iff (l := front.zipIdx)).mpr fun p hp => by
      simp [hbefore p.1 (hmem p hp)],
    List.nil_append, List.zipIdx_cons, List.filterMap_cons]
  simp only [hself, hne, Bool.not_false, Bool.and_self, if_true, Nat.zero_add, hlength]
  exact ⟨_, rfl⟩

/-! ## Matching -/

variable {locale : Locale}

theorem matchPieces?_literal (c : Char) (pieces : List Piece) (input : List Char)
    (fields : Fields) :
    matchPieces? locale (.literal c :: pieces) (c :: input) fields =
      matchPieces? locale pieces input fields := by
  rw [matchPieces?, if_pos (sameLetter_iff.mpr rfl)]

/-- A space piece takes a space that no white space is behind. -/
theorem matchPieces?_space (pieces : List Piece) {input : List Char}
    (h : ∀ c ∈ input.head?, isBlank c = false) (fields : Fields) :
    matchPieces? locale (.space :: pieces) (' ' :: input) fields =
      matchPieces? locale pieces input fields := by
  have hblank : isBlank ' ' = true := by decide
  have hdrop : input.dropWhile isBlank = input := by
    cases input with
    | nil => rfl
    | cons c input =>
      rw [List.dropWhile_cons, h c rfl]
      rfl
  simp [matchPieces?, hblank, hdrop]

/-- The preferred segment decides when it leads through the rest of the pieces. -/
theorem matchPieces?_directive {directive : Directive} {pieces : List Piece}
    {input : List Char} {fields result : Fields} {width : Nat} {reading : Reading}
    (hsegments : ∃ more, directive.segments locale input = (width, reading) :: more)
    (h : matchPieces? locale pieces (input.drop width) (fields.add reading) = some result) :
    matchPieces? locale (.directive directive :: pieces) input fields = some result := by
  obtain ⟨more, hsegments⟩ := hsegments
  rw [matchPieces?, hsegments, List.findSome?_cons]
  simp only [h]

end Datetime

end Almanac
