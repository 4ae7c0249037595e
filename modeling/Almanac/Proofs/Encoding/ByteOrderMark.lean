import Almanac.Encoding.Page
import Almanac.Session

/-!
# Pages with a byte order mark

A byte order mark is the character U+FEFF in front of a text, in the encoding of the text.
Each of the three encodings that have one stands for every character, and reading gives back
what was written: in UTF-8 (`Utf8.decode_encode`), and with units of two bytes, where pairs of
units stand for the characters from U+10000 on (`decodeUtf16_encodeUtf16`). A page that begins
with a mark is therefore the text behind the mark, whatever it declares, and a session that is
given the page goes on as with the text (`decodePage_marked`).
-/

namespace Almanac

/-- The numbers of characters leave out those that are halves of pairs. -/
theorem Text.toNat_isValidChar (c : Char) :
    c.toNat < 0xd800 ∨ 0xdfff < c.toNat ∧ c.toNat < 0x110000 :=
  c.valid

/-! ## UTF-8 -/

namespace Text.Utf8

theorem toNat_toUInt8 {n : Nat} (h : n < 256) : n.toUInt8.toNat = n :=
  UInt8.toNat_ofNat_of_lt h

theorem toNat_trail (n : Nat) : (trail n).toNat = 0x80 + n % 64 := by
  have h : 0x80 + n % 64 < 256 := by omega
  exact toNat_toUInt8 h

theorem trailBits_trail (n : Nat) : trailBits (trail n) = n % 64 := by
  have h := toNat_trail n
  unfold trailBits
  omega

theorem isTrail_trail (n : Nat) : isTrail (trail n) = true := by
  simp only [isTrail, Bool.and_eq_true, decide_eq_true_eq, UInt8.le_iff_toNat_le, toNat_trail,
    UInt8.reduceToNat]
  omega

/-- The bounds that the first byte puts on the second: no character is written with more bytes
than it needs, none is a half of a pair, and none lies behind the last. -/
theorem isSecond_trail {a : UInt8} {n : Nat} (hshort : a.toNat = 0xe0 → 0x20 ≤ n % 64)
    (hhalf : a.toNat = 0xed → n % 64 < 0x20) (hshort' : a.toNat = 0xf0 → 0x10 ≤ n % 64)
    (hlast : a.toNat = 0xf4 → n % 64 < 0x10) : isSecond a (trail n) = true := by
  simp only [isSecond, isTrail_trail, ← UInt8.toNat_inj, UInt8.le_iff_toNat_le, toNat_trail,
    UInt8.reduceToNat]
  split
  · next h => simpa using ⟨by have := hshort h; omega, by omega⟩
  · split
    · next h => simpa using by have := hhalf h; omega
    · split
      · next h => simpa using ⟨by have := hshort' h; omega, by omega⟩
      · split
        · next h => simpa using by have := hlast h; omega
        · rfl

section Reading

variable {a b c d : UInt8} {rest : List UInt8}

theorem decode_one (ha : a.toNat < 0x80) :
    decode (a :: rest) = Char.ofNat a.toNat :: decode rest := by
  rw [decode.eq_def]
  exact if_pos (UInt8.lt_iff_toNat_lt.mpr ha)

theorem decode_two (ha : 0xc2 ≤ a.toNat ∧ a.toNat ≤ 0xdf) (hb : isTrail b = true) :
    decode (a :: b :: rest) =
      Char.ofNat ((a.toNat - 0xc0) * 64 + trailBits b) :: decode rest := by
  rw [decode.eq_def]
  simp only [UInt8.lt_iff_toNat_lt, UInt8.le_iff_toNat_le, UInt8.reduceToNat, Bool.and_eq_true,
    decide_eq_true_eq]
  rw [if_neg (by omega), if_pos ha, if_pos hb]

theorem decode_three (ha : 0xe0 ≤ a.toNat ∧ a.toNat ≤ 0xef) (hb : isSecond a b = true)
    (hc : isTrail c = true) :
    decode (a :: b :: c :: rest) =
      Char.ofNat ((a.toNat - 0xe0) * 4096 + trailBits b * 64 + trailBits c) :: decode rest := by
  rw [decode.eq_def]
  simp only [UInt8.lt_iff_toNat_lt, UInt8.le_iff_toNat_le, UInt8.reduceToNat, Bool.and_eq_true,
    decide_eq_true_eq]
  rw [if_neg (by omega), if_neg (by omega), if_pos ha, if_pos hb, if_pos hc]

theorem decode_four (ha : 0xf0 ≤ a.toNat ∧ a.toNat ≤ 0xf4) (hb : isSecond a b = true)
    (hc : isTrail c = true) (hd : isTrail d = true) :
    decode (a :: b :: c :: d :: rest) =
      Char.ofNat ((a.toNat - 0xf0) * 262144 + trailBits b * 4096 + trailBits c * 64 +
        trailBits d) :: decode rest := by
  rw [decode.eq_def]
  simp only [UInt8.lt_iff_toNat_lt, UInt8.le_iff_toNat_le, UInt8.reduceToNat, Bool.and_eq_true,
    decide_eq_true_eq]
  rw [if_neg (by omega), if_neg (by omega), if_neg (by omega), if_pos ha, if_pos hb, if_pos hc,
    if_pos hd]

end Reading

/-- What was written is read back, whatever follows. -/
theorem decode_encodeChar (c : Char) (rest : List UInt8) :
    decode (encodeChar c ++ rest) = c :: decode rest := by
  have hc := toNat_isValidChar c
  have hself : Char.ofNat c.toNat = c := Char.ofNat_toNat c
  rw [encodeChar]
  generalize c.toNat = n at hc hself
  split
  · next h =>
    have ha : n.toUInt8.toNat = n := toNat_toUInt8 (by omega)
    rw [List.singleton_append, decode_one (by omega), ha, hself]
  · split
    · next h =>
      have ha : (0xc0 + n / 64).toUInt8.toNat = 0xc0 + n / 64 := toNat_toUInt8 (by omega)
      have hn : (0xc0 + n / 64 - 0xc0) * 64 + n % 64 = n := by omega
      rw [List.cons_append, List.singleton_append,
        decode_two (by omega) (isTrail_trail n), ha, trailBits_trail, hn, hself]
    · split
      · next h =>
        have ha : (0xe0 + n / 4096).toUInt8.toNat = 0xe0 + n / 4096 := toNat_toUInt8 (by omega)
        have hn : (0xe0 + n / 4096 - 0xe0) * 4096 + n / 64 % 64 * 64 + n % 64 = n := by omega
        have hb : isSecond (0xe0 + n / 4096).toUInt8 (trail (n / 64)) = true := by
          apply isSecond_trail <;> rw [ha] <;> omega
        rw [List.cons_append, List.cons_append, List.singleton_append,
          decode_three (by omega) hb (isTrail_trail n), ha, trailBits_trail, trailBits_trail, hn,
          hself]
      · have ha : (0xf0 + n / 262144).toUInt8.toNat = 0xf0 + n / 262144 :=
          toNat_toUInt8 (by omega)
        have hn : (0xf0 + n / 262144 - 0xf0) * 262144 + n / 4096 % 64 * 4096 +
            n / 64 % 64 * 64 + n % 64 = n := by omega
        have hb : isSecond (0xf0 + n / 262144).toUInt8 (trail (n / 4096)) = true := by
          apply isSecond_trail <;> rw [ha] <;> omega
        rw [List.cons_append, List.cons_append, List.cons_append, List.singleton_append,
          decode_four (by omega) hb (isTrail_trail _) (isTrail_trail n), ha, trailBits_trail,
          trailBits_trail, trailBits_trail, hn, hself]

/-- **UTF-8 is read back** as the characters that were written. -/
theorem decode_encode (cs : List Char) : decode (encode cs) = cs := by
  induction cs with
  | nil => rfl
  | cons c cs ih => rw [encode, List.flatMap_cons, decode_encodeChar, ← encode, ih]

end Text.Utf8

/-! ## Units of two bytes -/

namespace Encoding

open Text

/-- The units of a character: its number, or the pair that stands for a number of more than
two bytes. -/
def units (c : Char) : List Nat :=
  if c.toNat < 0x10000 then [c.toNat]
  else [0xd800 + (c.toNat - 0x10000) / 0x400, 0xdc00 + (c.toNat - 0x10000) % 0x400]

/-- The two bytes of a unit. -/
def unitBytes (highFirst : Bool) (n : Nat) : List UInt8 :=
  if highFirst then [(n / 256).toUInt8, (n % 256).toUInt8]
  else [(n % 256).toUInt8, (n / 256).toUInt8]

/-- The bytes of characters in units of two bytes. -/
def encodeUtf16 (highFirst : Bool) (cs : List Char) : List UInt8 :=
  (cs.flatMap units).flatMap (unitBytes highFirst)

section Units

variable (highFirst : Bool)

/-- A unit is read from its two bytes. -/
theorem exists_unitBytes {n : Nat} (h : n < 0x10000) :
    ∃ a b, unitBytes highFirst n = [a, b] ∧ decodeUtf16.unit highFirst a b = n := by
  have hhigh : (n / 256).toUInt8.toNat = n / 256 := Utf8.toNat_toUInt8 (by omega)
  have hlow : (n % 256).toUInt8.toNat = n % 256 := Utf8.toNat_toUInt8 (by omega)
  cases highFirst with
  | true =>
    refine ⟨_, _, rfl, ?_⟩
    simp only [decodeUtf16.unit, if_true, hhigh, hlow]
    omega
  | false =>
    refine ⟨_, _, rfl, ?_⟩
    simp only [decodeUtf16.unit, Bool.false_eq_true, if_false, hhigh, hlow]
    omega

/-- A unit that is no half of a pair is a character. -/
theorem decodeUtf16_unitBytes {n : Nat} (h : n < 0xd800 ∨ 0xdfff < n ∧ n < 0x10000)
    (rest : List UInt8) :
    decodeUtf16 highFirst (unitBytes highFirst n ++ rest) =
      Char.ofNat n :: decodeUtf16 highFirst rest := by
  obtain ⟨a, b, hbytes, hunit⟩ := exists_unitBytes highFirst (n := n) (by omega)
  have hhigh : isHighUnit n = false := by simp [isHighUnit]; omega
  have hlow : isLowUnit n = false := by simp [isLowUnit]; omega
  rw [hbytes, List.cons_append, List.singleton_append, decodeUtf16.eq_def]
  simp only [hunit, hhigh, hlow, Bool.false_eq_true, if_false]

/-- A pair of units is the character that it stands for. -/
theorem decodeUtf16_pair {high low : Nat} (hhigh : 0xd800 ≤ high ∧ high ≤ 0xdbff)
    (hlow : 0xdc00 ≤ low ∧ low ≤ 0xdfff) (rest : List UInt8) :
    decodeUtf16 highFirst (unitBytes highFirst high ++ (unitBytes highFirst low ++ rest)) =
      pairChar high low :: decodeUtf16 highFirst rest := by
  obtain ⟨a, b, hbytes, hunit⟩ := exists_unitBytes highFirst (n := high) (by omega)
  obtain ⟨c, d, hbytes', hunit'⟩ := exists_unitBytes highFirst (n := low) (by omega)
  have hfirst : isHighUnit high = true := by simpa [isHighUnit] using hhigh
  have hsecond : isLowUnit low = true := by simpa [isLowUnit] using hlow
  rw [hbytes, hbytes', List.cons_append, List.singleton_append, List.cons_append,
    List.singleton_append, decodeUtf16.eq_def]
  simp only [hunit, hunit', hfirst, hsecond, if_true]

theorem decodeUtf16_units (c : Char) (rest : List UInt8) :
    decodeUtf16 highFirst ((units c).flatMap (unitBytes highFirst) ++ rest) =
      c :: decodeUtf16 highFirst rest := by
  have hc := toNat_isValidChar c
  have hself : Char.ofNat c.toNat = c := Char.ofNat_toNat c
  unfold units
  generalize c.toNat = n at hc hself
  split
  · next h =>
    rw [List.flatMap_singleton, decodeUtf16_unitBytes highFirst (by omega), hself]
  · next h =>
    have hpair : pairChar (0xd800 + (n - 0x10000) / 0x400) (0xdc00 + (n - 0x10000) % 0x400) =
        c := by
      have hn : 0x10000 + (0xd800 + (n - 0x10000) / 0x400 - 0xd800) * 0x400 +
          (0xdc00 + (n - 0x10000) % 0x400 - 0xdc00) = n := by omega
      rw [pairChar, hn, hself]
    rw [List.flatMap_cons, List.flatMap_singleton, List.append_assoc,
      decodeUtf16_pair highFirst (by omega) (by omega), hpair]

/-- **Units of two bytes are read back** as the characters that were written. -/
theorem decodeUtf16_encodeUtf16 (cs : List Char) :
    decodeUtf16 highFirst (encodeUtf16 highFirst cs) = cs := by
  induction cs with
  | nil => rfl
  | cons c cs ih =>
    rw [encodeUtf16, List.flatMap_cons, List.flatMap_append, decodeUtf16_units, ← encodeUtf16, ih]

end Units

/-! ## Pages -/

/-- The encodings that have a byte order mark. -/
inductive Marked where
  | utf8
  | utf16 (highFirst : Bool)

namespace Marked

/-- One of these encodings among all. -/
def encoding : Marked → Encoding
  | utf8 => .utf8
  | utf16 highFirst => .utf16 highFirst

/-- The bytes of characters. -/
def encode : Marked → List Char → List UInt8
  | utf8 => Utf8.encode
  | utf16 highFirst => encodeUtf16 highFirst

/-- The byte order mark. -/
def mark (m : Marked) : List UInt8 := m.encode ['\ufeff']

theorem decode_encode (m : Marked) (cs : List Char) : m.encoding.decode (m.encode cs) = cs := by
  cases m with
  | utf8 => exact Utf8.decode_encode cs
  | utf16 highFirst => exact decodeUtf16_encodeUtf16 highFirst cs

theorem splitMark?_mark (m : Marked) (rest : List UInt8) :
    splitMark? (m.mark ++ rest) = some (m.encoding, rest) := by
  cases m with
  | utf8 => rfl
  | utf16 highFirst => cases highFirst <;> rfl

example : [utf8, utf16 true, utf16 false].map mark =
    [[0xef, 0xbb, 0xbf], [0xfe, 0xff], [0xff, 0xfe]] := by decide

end Marked

/-- **A byte order mark decides**: a page of a mark and a text in the encoding of the mark is this
text in this encoding, whatever the text declares, and a session that is given the page goes on as
with the text. -/
theorem decodePage_marked (m : Marked) (text : String) :
    let page := m.mark ++ m.encode text.toList
    ofPage page = m.encoding ∧ decodePage page = text ∧
      Document.ofPage page = Document.ofHtml text ∧
      ∀ (s : Session) (calls : List Session.Step),
        s.run (.setDocument (.ofPage page) :: calls) =
          s.run (.setDocument (.ofHtml text) :: calls) := by
  intro page
  have hmark : splitMark? page = some (m.encoding, m.encode text.toList) :=
    m.splitMark?_mark (m.encode text.toList)
  have htext : decodePage page = text := by
    rw [decodePage, hmark]
    simp only [m.decode_encode, String.ofList_toList]
  have hdocument : Document.ofPage page = Document.ofHtml text := by
    rw [Document.ofPage, htext]
  refine ⟨?_, htext, hdocument, fun s calls => by rw [hdocument]⟩
  rw [ofPage, hmark]

end Encoding

end Almanac
