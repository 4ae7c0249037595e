import Almanac.Encoding.Page

/-!
# Pages of ASCII characters

A page of printable ASCII characters and white space has its bytes as characters in every
encoding but two kinds (`decode_eq_map_iff`): in the one nothing can be read, in the other two
bytes make a unit. A declaration that is found in the bytes can still name them, since every
label is accepted as it is. So the page is read as it stands exactly when it does not declare
one of the labels of these encodings (`decodePage_eq_map_iff`).
-/

namespace Almanac.Encoding

open Text

/-! ## Bytes that are characters -/

/-- A printable byte, a tab, a line feed, a form feed or a carriage return. -/
def isPlainByte (b : UInt8) : Bool :=
  (0x20 ≤ b && b ≤ 0x7e) || b == 0x09 || b == 0x0a || b == 0x0c || b == 0x0d

/-- The character with the number of a byte. -/
def byteChar (b : UInt8) : Char := Char.ofNat b.toNat

theorem lt_of_isPlainByte {b : UInt8} (h : isPlainByte b = true) : b < 0x80 := by
  simp only [isPlainByte, Bool.or_eq_true, Bool.and_eq_true, decide_eq_true_eq, beq_iff_eq,
    UInt8.le_iff_toNat_le] at h
  rcases h with (((⟨_, h⟩ | rfl) | rfl) | rfl) | rfl
  · exact UInt8.lt_iff_toNat_lt.mpr (Nat.lt_succ_of_le (Nat.le_succ_of_le h))
  all_goals decide

theorem byteChar_ne_replacement {b : UInt8} (h : b < 0x80) : byteChar b ≠ Utf8.replacement := by
  have hall : ∀ n < 0x80, Char.ofNat n ≠ Utf8.replacement := by decide +kernel
  exact hall b.toNat (UInt8.lt_iff_toNat_lt.mp h)

variable {page : List UInt8}

/-- A plain page has no mark. -/
theorem splitMark?_eq_none (h : ∀ b ∈ page, isPlainByte b = true) : splitMark? page = none := by
  rw [splitMark?.eq_def]
  split
  · exact absurd (h 0xef List.mem_cons_self) (by decide)
  · exact absurd (h 0xff List.mem_cons_self) (by decide)
  · exact absurd (h 0xfe List.mem_cons_self) (by decide)
  · rfl

/-! ## Encodings -/

/-- Whether the bytes of ASCII characters do not stand for these characters. -/
def misreads : Encoding → Bool
  | utf16 _ | replacement => true
  | utf8 | codePage .. | userDefined | basic _ => false

theorem utf8_decode_eq_map (h : ∀ b ∈ page, b < 0x80) : Utf8.decode page = page.map byteChar := by
  induction page with
  | nil => rfl
  | cons b page ih =>
    obtain ⟨hb, hpage⟩ := List.forall_mem_cons.mp h
    rw [Utf8.decode.eq_def]
    simp only [hb, if_true, ih hpage]
    rfl

theorem length_decodeUtf16 (highFirst : Bool) (bytes : List UInt8) :
    2 * (decodeUtf16 highFirst bytes).length ≤ bytes.length + 1 := by
  fun_induction decodeUtf16 highFirst bytes <;> simp only [List.length_cons, List.length_nil] at *
    <;> omega

/-- Units of two bytes are fewer than the bytes. -/
theorem decodeUtf16_ne_map (highFirst : Bool) (h : ∀ b ∈ page, b < 0x80) (hne : page ≠ []) :
    decodeUtf16 highFirst page ≠ page.map byteChar := by
  intro heq
  have hlength := length_decodeUtf16 highFirst page
  rw [heq, List.length_map] at hlength
  match page, hne with
  | [b], _ =>
    have hhead : Utf8.replacement = byteChar b := (List.cons_eq_cons.mp heq).1
    exact byteChar_ne_replacement (h b List.mem_cons_self) hhead.symm
  | a :: b :: rest, _ =>
    simp only [List.length_cons] at hlength
    omega

theorem decode_eq_map {encoding : Encoding} (hencoding : encoding.misreads = false)
    (h : ∀ b ∈ page, b < 0x80) : encoding.decode page = page.map byteChar := by
  cases encoding with
  | utf8 => exact utf8_decode_eq_map h
  | utf16 highFirst => cases hencoding
  | codePage name upper => exact List.map_congr_left fun b hb => if_pos (h b hb)
  | userDefined => exact List.map_congr_left fun b hb => if_pos (h b hb)
  | replacement => cases hencoding
  | basic name => exact List.map_congr_left fun b hb => if_pos (h b hb)

theorem decode_ne_map {encoding : Encoding} (hencoding : encoding.misreads = true)
    (h : ∀ b ∈ page, b < 0x80) (hne : page ≠ []) : encoding.decode page ≠ page.map byteChar := by
  cases encoding with
  | utf16 highFirst => exact decodeUtf16_ne_map highFirst h hne
  | replacement =>
    intro heq
    obtain ⟨b, page, rfl⟩ := List.ne_nil_iff_exists_cons.mp hne
    have hhead : Utf8.replacement = byteChar b := (List.cons_eq_cons.mp heq).1
    exact byteChar_ne_replacement (h b List.mem_cons_self) hhead.symm
  | utf8 => cases hencoding
  | codePage name upper => cases hencoding
  | userDefined => cases hencoding
  | basic name => cases hencoding

/-- The encodings in which ASCII characters are their bytes. -/
theorem decode_eq_map_iff {encoding : Encoding} (h : ∀ b ∈ page, b < 0x80) :
    encoding.decode page = page.map byteChar ↔ page = [] ∨ encoding.misreads = false := by
  by_cases hne : page = []
  · rw [hne]
    simp only [List.map_nil, true_or, iff_true]
    cases encoding <;> rfl
  · cases hencoding : encoding.misreads with
    | false => simp [decode_eq_map hencoding h]
    | true => simp [decode_ne_map hencoding h hne, hne]

/-! ## Labels -/

/-- The labels of the encodings in which ASCII characters are misread. -/
def misreadLabels : List String :=
  (Table.labels.filter fun entry => (ofName entry.1).misreads).flatMap (·.2)

/-- An encoding misreads plain pages just when its label is one of those listed. -/
theorem misreads_of_label (label : String) :
    ((ofLabel? label).getD utf8).misreads = true ↔ lowerLatin label ∈ misreadLabels := by
  -- no label stands for two encodings
  have hunique : ∀ entry ∈ Table.labels, ∀ l ∈ entry.2,
      ((ofName entry.1).misreads = true ↔ l ∈ misreadLabels) := by decide +kernel
  rw [ofLabel?]
  cases hfind : Table.labels.find? fun entry => entry.2.contains (lowerLatin label) with
  | some entry =>
    have hlabel : lowerLatin label ∈ entry.2 := by simpa using List.find?_some hfind
    exact hunique entry (List.mem_of_find?_eq_some hfind) _ hlabel
  | none =>
    simp only [Option.map_none, Option.getD_none, misreads, Bool.false_eq_true, false_iff]
    intro hmem
    obtain ⟨entry, hentry, hlabel⟩ := List.mem_flatMap.mp hmem
    have hnone := List.find?_eq_none.mp hfind entry (List.mem_filter.mp hentry).1
    simp [hlabel] at hnone

example : "utf-16" ∈ misreadLabels ∧ "utf-8" ∉ misreadLabels := by decide +kernel

/-! ## Pages -/

/-- A plain page has the encoding that it declares near its beginning, or UTF-8. -/
theorem ofPage_eq (h : ∀ b ∈ page, isPlainByte b = true) :
    ofPage page = ((declaredLabel? (String.ofList
      ((page.map byteChar).take declarationLimit))).bind ofLabel?).getD utf8 := by
  have htake : Utf8.decode (page.take declarationLimit) =
      (page.map byteChar).take declarationLimit := by
    rw [utf8_decode_eq_map fun b hb => lt_of_isPlainByte (h b (List.mem_of_mem_take hb)),
      List.map_take]
  rw [ofPage, splitMark?_eq_none h, htake]

/-- **A page of ASCII characters is read as it stands exactly when no declaration in it names
an encoding with units of two bytes, or one in which nothing can be read.** -/
theorem decodePage_eq_map_iff (h : ∀ b ∈ page, isPlainByte b = true) :
    decodePage page = String.ofList (page.map byteChar) ↔ page = [] ∨ ∀ label,
      declaredLabel? (String.ofList ((page.map byteChar).take declarationLimit)) = some label →
        lowerLatin label ∉ misreadLabels := by
  have hdecode := @decode_eq_map_iff page (ofPage page) fun b hb => lt_of_isPlainByte (h b hb)
  rw [decodePage, splitMark?_eq_none h, String.ofList_inj, hdecode, ofPage_eq h]
  refine or_congr_right ?_
  cases declaredLabel? (String.ofList ((page.map byteChar).take declarationLimit)) with
  | none => simp [misreads]
  | some label =>
    simp only [Option.bind_some, Option.some.injEq, forall_eq', ← misreads_of_label,
      Bool.not_eq_true]

theorem decodePage_eq_map_iff_declaration :
    let page := Utf8.encode "<meta charset=\"utf-16\"><p>Akce</p>".toList
    (∀ b ∈ page, isPlainByte b = true) ∧
      (decodePage page = String.ofList (page.map byteChar) ↔ page = [] ∨ ∀ label,
        declaredLabel? (String.ofList ((page.map byteChar).take declarationLimit)) = some label →
          lowerLatin label ∉ misreadLabels) := by
  intro page
  have h : ∀ b ∈ page, isPlainByte b = true := by decide +kernel
  exact ⟨h, decodePage_eq_map_iff h⟩

end Almanac.Encoding
