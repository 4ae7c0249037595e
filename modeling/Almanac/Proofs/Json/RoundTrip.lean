import Almanac.Event.Record
import Mathlib.Tactic.SplitIfs

/-!
# Reading written JSON

A value that is written on one line is read back as it was, whatever texts it holds and
whatever follows it (`reads_write`).
-/

namespace Almanac

/-- Whether a reader reads `a` and leaves `rest`. -/
def Reads {α β : Type} {l : List β} (read : Read α l) (a : α) (rest : List β) : Prop :=
  ∃ after, read = some (a, after) ∧ after.list = rest

namespace Json

/-! ## Strings -/

/-- A control character is read back from its number. -/
theorem hexUnit?_hexDigit {n : Nat} (h : n < 32) :
    hexUnit? '0' '0' (hexDigit (n / 16)) (hexDigit (n % 16)) = some n := by
  have hall : ∀ n : Fin 32,
      hexUnit? '0' '0' (hexDigit (n.val / 16)) (hexDigit (n.val % 16)) = some n.val := by decide
  exact hall ⟨n, h⟩

/-- A character is written by a letter behind a backslash, by its number, or as it is. -/
theorem escapeChar_cases (c : Char) :
    (∃ letter, letter ≠ 'u' ∧ simpleEscape? letter = some c ∧ escapeChar c = ['\\', letter]) ∨
      (c.toNat < 32 ∧ escapeChar c =
        ['\\', 'u', '0', '0', hexDigit (c.toNat / 16), hexDigit (c.toNat % 16)]) ∨
      (c ≠ '"' ∧ c ≠ '\\' ∧ ¬ c.toNat < 32 ∧ escapeChar c = [c]) := by
  unfold escapeChar
  split_ifs with hquote hback hline hreturn htab hbackspace hfeed hcontrol
  · exact .inl ⟨'"', by decide, by rw [hquote]; decide, rfl⟩
  · exact .inl ⟨'\\', by decide, by rw [hback]; decide, rfl⟩
  · exact .inl ⟨'n', by decide, by rw [hline]; decide, rfl⟩
  · exact .inl ⟨'r', by decide, by rw [hreturn]; decide, rfl⟩
  · exact .inl ⟨'t', by decide, by rw [htab]; decide, rfl⟩
  · exact .inl ⟨'b', by decide, by rw [hbackspace]; decide, rfl⟩
  · exact .inl ⟨'f', by decide, by rw [hfeed]; decide, rfl⟩
  · exact .inr (.inl ⟨hcontrol, rfl⟩)
  · exact .inr (.inr ⟨hquote, hback, hcontrol, rfl⟩)

/-- A written character is read back, and the text behind it as before. -/
theorem reads_escapeChar (c : Char) {rest left text : List Char}
    (h : Reads (readChars rest) (some text) left) :
    Reads (readChars (escapeChar c ++ rest)) (some (c :: text)) left := by
  obtain ⟨after, hread, hleft⟩ := h
  rcases escapeChar_cases c with ⟨letter, hletter, hc, heq⟩ | ⟨hcontrol, heq⟩ |
    ⟨hquote, hback, hcontrol, heq⟩
  · rw [heq]
    refine ⟨after.cons.cons, ?_, hleft⟩
    simp only [List.cons_append, List.nil_append]
    rw [readChars, hc, hread]
    · rfl
    · intro a b c d rest heq
      exact absurd heq hletter
  · rw [heq]
    have hhigh : isHighSurrogate c.toNat = false := by
      simp only [isHighSurrogate, Bool.and_eq_false_iff, decide_eq_false_iff_not]
      omega
    have hlow : isLowSurrogate c.toNat = false := by
      simp only [isLowSurrogate, Bool.and_eq_false_iff, decide_eq_false_iff_not]
      omega
    refine ⟨after.cons.cons.cons.cons.cons.cons, ?_, hleft⟩
    simp only [List.cons_append, List.nil_append]
    rw [readChars, hexUnit?_hexDigit hcontrol]
    simp only [hhigh, hlow, hread]
    simp [consText]
  · rw [heq]
    refine ⟨after.cons, ?_, hleft⟩
    change readChars (c :: rest) = _
    rw [readChars]
    · simp [hcontrol, hback, hread, consText]
    all_goals simp_all

/-- The characters of a text are read back from their escapes. -/
theorem reads_quote (text rest : List Char) :
    Reads (readChars (text.flatMap escapeChar ++ '"' :: rest)) (some text) rest := by
  induction text with
  | nil =>
    refine ⟨.tail, ?_, rfl⟩
    change readChars ('"' :: rest) = _
    rw [readChars]
  | cons c text ih =>
    rw [List.flatMap_cons, List.append_assoc]
    exact reads_escapeChar c ih

/-! ## White space -/

theorem reads_next?_of_not_space {c : Char} (hc : isSpace c = false) (rest : List Char) :
    Reads (next? (c :: rest)) c rest := by
  refine ⟨.tail, ?_, rfl⟩
  rw [next?, hc]
  rfl

/-- White space in front of a character is passed over. -/
theorem reads_next? {c : Char} (hc : isSpace c = false) {spaces : List Char}
    (hspaces : ∀ x ∈ spaces, isSpace x = true) (rest : List Char) :
    Reads (next? (spaces ++ c :: rest)) c rest := by
  induction spaces with
  | nil => exact reads_next?_of_not_space hc rest
  | cons x spaces ih =>
    obtain ⟨after, hread, hrest⟩ := ih fun y hy => hspaces y (List.mem_cons_of_mem _ hy)
    refine ⟨after.cons, ?_, hrest⟩
    change next? (x :: (spaces ++ c :: rest)) = _
    rw [next?, hspaces x List.mem_cons_self, hread]
    rfl

/-! ## Values by their first character -/

section Values

variable {cs behind middle rest : List Char}

theorem reads_string (hnext : Reads (next? cs) '"' behind) {text : Option (List Char)}
    (h : Reads (readChars behind) text rest) : Reads (readValue cs) (ofString? text) rest := by
  obtain ⟨after, hnext, rfl⟩ := hnext
  obtain ⟨left, hread, hleft⟩ := h
  refine ⟨after.trans left, ?_, hleft⟩
  rw [readValue, hnext]
  simp [hread]

theorem reads_null (hnext : Reads (next? cs) 'n' ("ull".toList ++ rest)) :
    Reads (readValue cs) .null rest := by
  obtain ⟨after, hnext, h⟩ := hnext
  obtain ⟨left, hread, hleft⟩ : ∃ left : NoLonger after.list,
      readThese "ull".toList after.list = some ((), left) ∧ left.list = rest := by
    rw [h]
    exact ⟨_, rfl, rfl⟩
  refine ⟨after.trans left, ?_, hleft⟩
  rw [readValue, hnext]
  simp only [Option.bind_eq_bind, Option.bind_some]
  rw [hread]
  rfl

/-- What begins with a bracket is an array of the items behind it. -/
theorem reads_array (hnext : Reads (next? cs) '[' behind) {items : List Json}
    (h : Reads (readItems behind) items rest) : Reads (readValue cs) (.array items) rest := by
  obtain ⟨after, hnext, rfl⟩ := hnext
  obtain ⟨left, hread, hleft⟩ := h
  refine ⟨after.trans left, ?_, hleft⟩
  rw [readValue, hnext]
  simp [hread]

theorem reads_object (hnext : Reads (next? cs) '\x7b' behind)
    {members : List (Option (List Char) × Json)} (h : Reads (readMembers behind) members rest) :
    Reads (readValue cs) (ofMembers members) rest := by
  obtain ⟨after, hnext, rfl⟩ := hnext
  obtain ⟨left, hread, hleft⟩ := h
  refine ⟨after.trans left, ?_, hleft⟩
  rw [readValue, hnext]
  simp [hread]

theorem readValue_eq_none {after : Shorter cs} (hnext : next? cs = some (']', after)) :
    readValue cs = none := by
  rw [readValue, hnext]
  rfl

/-! ## Items and members -/

theorem reads_items_nil (hnext : Reads (next? cs) ']' rest) : Reads (readItems cs) [] rest := by
  obtain ⟨after, hnext, hrest⟩ := hnext
  refine ⟨after, ?_, hrest⟩
  rw [readItems, hnext]
  rfl

theorem reads_items_cons {item : Json} {items : List Json}
    (h : Reads (readValue cs) item middle) (hmore : Reads (readMoreItems middle) items rest) :
    Reads (readItems cs) (item :: items) rest := by
  obtain ⟨after, hread, rfl⟩ := h
  obtain ⟨left, hmore, hleft⟩ := hmore
  refine ⟨after.trans left, ?_, hleft⟩
  rw [readItems]
  split
  · next hnext =>
    rw [readValue_eq_none hnext] at hread
    cases hread
  · simp [hread, hmore]

theorem reads_moreItems_nil (hnext : Reads (next? cs) ']' rest) :
    Reads (readMoreItems cs) [] rest := by
  obtain ⟨after, hnext, hrest⟩ := hnext
  refine ⟨after, ?_, hrest⟩
  rw [readMoreItems, hnext]
  rfl

theorem reads_moreItems_cons (hnext : Reads (next? cs) ',' behind) {item : Json}
    {items : List Json} (h : Reads (readValue behind) item middle)
    (hmore : Reads (readMoreItems middle) items rest) :
    Reads (readMoreItems cs) (item :: items) rest := by
  obtain ⟨after, hnext, rfl⟩ := hnext
  obtain ⟨behindItem, hread, rfl⟩ := h
  obtain ⟨left, hmore, hleft⟩ := hmore
  refine ⟨after.trans (behindItem.trans left), ?_, hleft⟩
  rw [readMoreItems, hnext]
  simp [hread, hmore]

/-- A member is a key, a colon and a value. -/
theorem reads_member (hnext : Reads (next? cs) '"' behind) {key : Option (List Char)}
    {behindKey behindColon : List Char} (hkey : Reads (readChars behind) key behindKey)
    (hcolon : Reads (next? behindKey) ':' behindColon) {value : Json}
    (h : Reads (readValue behindColon) value rest) : Reads (readMember cs) (key, value) rest := by
  obtain ⟨after, hnext, rfl⟩ := hnext
  obtain ⟨afterKey, hkey, rfl⟩ := hkey
  obtain ⟨afterColon, hcolon, rfl⟩ := hcolon
  obtain ⟨left, hread, hleft⟩ := h
  refine ⟨after.trans (afterKey.trans (afterColon.trans left)), ?_, hleft⟩
  rw [readMember, hnext]
  simp [hkey, hcolon, hread]

theorem readMember_eq_none {after : Shorter cs} (hnext : next? cs = some ('\x7d', after)) :
    readMember cs = none := by
  rw [readMember, hnext]
  rfl

theorem reads_members_nil (hnext : Reads (next? cs) '\x7d' rest) :
    Reads (readMembers cs) [] rest := by
  obtain ⟨after, hnext, hrest⟩ := hnext
  refine ⟨after, ?_, hrest⟩
  rw [readMembers, hnext]
  rfl

theorem reads_members_cons {member : Option (List Char) × Json}
    {members : List (Option (List Char) × Json)} (h : Reads (readMember cs) member middle)
    (hmore : Reads (readMoreMembers middle) members rest) :
    Reads (readMembers cs) (member :: members) rest := by
  obtain ⟨after, hread, rfl⟩ := h
  obtain ⟨left, hmore, hleft⟩ := hmore
  refine ⟨after.trans left, ?_, hleft⟩
  rw [readMembers]
  split
  · next hnext =>
    rw [readMember_eq_none hnext] at hread
    cases hread
  · simp [hread, hmore]

theorem reads_moreMembers_nil (hnext : Reads (next? cs) '\x7d' rest) :
    Reads (readMoreMembers cs) [] rest := by
  obtain ⟨after, hnext, hrest⟩ := hnext
  refine ⟨after, ?_, hrest⟩
  rw [readMoreMembers, hnext]
  rfl

theorem reads_moreMembers_cons (hnext : Reads (next? cs) ',' behind)
    {member : Option (List Char) × Json} {members : List (Option (List Char) × Json)}
    (h : Reads (readMember behind) member middle)
    (hmore : Reads (readMoreMembers middle) members rest) :
    Reads (readMoreMembers cs) (member :: members) rest := by
  obtain ⟨after, hnext, rfl⟩ := hnext
  obtain ⟨behindMember, hread, rfl⟩ := h
  obtain ⟨left, hmore, hleft⟩ := hmore
  refine ⟨after.trans (behindMember.trans left), ?_, hleft⟩
  rw [readMoreMembers, hnext]
  simp [hread, hmore]

end Values

/-! ## Written values -/

/-- Whether only white space is behind the commas and colons. -/
structure Spacing.IsLoose (spacing : Spacing) : Prop where
  comma : ∃ spaces, spacing.comma = ',' :: spaces ∧ ∀ x ∈ spaces, isSpace x = true
  colon : ∃ spaces, spacing.colon = ':' :: spaces ∧ ∀ x ∈ spaces, isSpace x = true

theorem isLoose_compactSpacing : compactSpacing.IsLoose :=
  ⟨⟨[], rfl, by simp⟩, ⟨[], rfl, by simp⟩⟩

theorem isLoose_storedSpacing : storedSpacing.IsLoose :=
  ⟨⟨[' '], rfl, by simp [isSpace]⟩, ⟨[' '], rfl, by simp [isSpace]⟩⟩

/-- Whether a value that is written is read back, whatever white space is in front of it
and whatever follows it. -/
def ReadBack (spacing : Spacing) (value : Json) : Prop :=
  ∀ spaces rest : List Char, (∀ x ∈ spaces, isSpace x = true) →
    Reads (readValue (spaces ++ (value.write spacing ++ rest))) value rest

theorem readBack_string (spacing : Spacing) (text : String) :
    ReadBack spacing (.string text) := by
  intro spaces rest hspaces
  have hwrite : write spacing (.string text) ++ rest =
      '"' :: (text.toList.flatMap escapeChar ++ '"' :: rest) := by
    simp [write, quote]
  have h := reads_string (reads_next? (by decide) hspaces _) (reads_quote text.toList rest)
  rw [hwrite]
  simpa only [ofString?, String.ofList_toList] using h

theorem readBack_null (spacing : Spacing) : ReadBack spacing .null := by
  intro spaces rest hspaces
  exact reads_null (reads_next? (by decide) hspaces ("ull".toList ++ rest))

section Lists

variable {spacing : Spacing}

/-- Items with a comma in front of each. -/
def behindItems (spacing : Spacing) (items : List Json) : List Char :=
  items.flatMap fun item => spacing.comma ++ item.write spacing

theorem writeItems_cons (item : Json) (items : List Json) :
    writeItems spacing (item :: items) = item.write spacing ++ behindItems spacing items := by
  induction items generalizing item with
  | nil => simp [writeItems, behindItems]
  | cons next items ih =>
    rw [writeItems, ih]
    simp [behindItems]

theorem reads_moreItems (hloose : spacing.IsLoose) {items : List Json}
    (h : ∀ item ∈ items, ReadBack spacing item) (rest : List Char) :
    Reads (readMoreItems (behindItems spacing items ++ ']' :: rest)) items rest := by
  induction items with
  | nil => exact reads_moreItems_nil (reads_next?_of_not_space (by decide) rest)
  | cons item items ih =>
    obtain ⟨spaces, hcomma, hspaces⟩ := hloose.comma
    have hwrite : behindItems spacing (item :: items) ++ ']' :: rest =
        ',' :: (spaces ++ (item.write spacing ++ (behindItems spacing items ++ ']' :: rest))) := by
      simp [behindItems, hcomma]
    rw [hwrite]
    exact reads_moreItems_cons (reads_next?_of_not_space (by decide) _)
      (h item List.mem_cons_self spaces _ hspaces)
      (ih fun other hother => h other (List.mem_cons_of_mem _ hother))

/-- An array is read back if its items are. -/
theorem readBack_array (hloose : spacing.IsLoose) {items : List Json}
    (h : ∀ item ∈ items, ReadBack spacing item) : ReadBack spacing (.array items) := by
  intro spaces rest hspaces
  have hwrite : write spacing (.array items) ++ rest =
      '[' :: (writeItems spacing items ++ ']' :: rest) := by
    simp [write]
  rw [hwrite]
  refine reads_array (reads_next? (by decide) hspaces _) ?_
  cases items with
  | nil => exact reads_items_nil (reads_next?_of_not_space (by decide) rest)
  | cons item items =>
    rw [writeItems_cons, List.append_assoc]
    exact reads_items_cons (h item List.mem_cons_self [] _ (by simp))
      (reads_moreItems hloose (fun other hother => h other (List.mem_cons_of_mem _ hother)) rest)

/-- A member: its key, a colon and its value. -/
def writeMember (spacing : Spacing) (member : String × Json) : List Char :=
  quote member.1.toList ++ spacing.colon ++ member.2.write spacing

/-- Members with a comma in front of each. -/
def behindMembers (spacing : Spacing) (members : List (String × Json)) : List Char :=
  members.flatMap fun member => spacing.comma ++ writeMember spacing member

theorem writeMembers_cons (member : String × Json) (members : List (String × Json)) :
    writeMembers spacing (member :: members) =
      writeMember spacing member ++ behindMembers spacing members := by
  induction members generalizing member with
  | nil => simp [writeMembers, writeMember, behindMembers]
  | cons next members ih =>
    rw [writeMembers, ih]
    simp [writeMember, behindMembers]

/-- A member as it is read: its key as characters. -/
def readForm (member : String × Json) : Option (List Char) × Json :=
  (some member.1.toList, member.2)

/-- A member is read back if its value is. -/
theorem reads_writeMember (hloose : spacing.IsLoose) {member : String × Json}
    (h : ReadBack spacing member.2) {spaces : List Char}
    (hspaces : ∀ x ∈ spaces, isSpace x = true) (rest : List Char) :
    Reads (readMember (spaces ++ (writeMember spacing member ++ rest))) (readForm member) rest := by
  obtain ⟨blanks, hcolon, hblanks⟩ := hloose.colon
  have hwrite : writeMember spacing member ++ rest =
      '"' :: (member.1.toList.flatMap escapeChar ++
        '"' :: ':' :: (blanks ++ (member.2.write spacing ++ rest))) := by
    simp [writeMember, quote, hcolon]
  rw [hwrite]
  exact reads_member (reads_next? (by decide) hspaces _) (reads_quote member.1.toList _)
    (reads_next?_of_not_space (by decide) _) (h blanks rest hblanks)

theorem reads_moreMembers (hloose : spacing.IsLoose) {members : List (String × Json)}
    (h : ∀ member ∈ members, ReadBack spacing member.2) (rest : List Char) :
    Reads (readMoreMembers (behindMembers spacing members ++ '\x7d' :: rest))
      (members.map readForm) rest := by
  induction members with
  | nil => exact reads_moreMembers_nil (reads_next?_of_not_space (by decide) rest)
  | cons member members ih =>
    obtain ⟨spaces, hcomma, hspaces⟩ := hloose.comma
    have hwrite : behindMembers spacing (member :: members) ++ '\x7d' :: rest =
        ',' :: (spaces ++ (writeMember spacing member ++
          (behindMembers spacing members ++ '\x7d' :: rest))) := by
      simp [behindMembers, hcomma]
    rw [hwrite]
    exact reads_moreMembers_cons (reads_next?_of_not_space (by decide) _)
      (reads_writeMember hloose (h member List.mem_cons_self) hspaces _)
      (ih fun other hother => h other (List.mem_cons_of_mem _ hother))

/-- Keys that are texts make up the object that they are from. -/
theorem ofMembers_readForm (members : List (String × Json)) :
    ofMembers (members.map readForm) = .object members := by
  simp [ofMembers, readForm, Function.comp_def]

theorem readBack_object (hloose : spacing.IsLoose) {members : List (String × Json)}
    (h : ∀ member ∈ members, ReadBack spacing member.2) : ReadBack spacing (.object members) := by
  intro spaces rest hspaces
  have hwrite : write spacing (.object members) ++ rest =
      '\x7b' :: (writeMembers spacing members ++ '\x7d' :: rest) := by
    simp [write]
  rw [hwrite, ← ofMembers_readForm]
  refine reads_object (reads_next? (by decide) hspaces _) ?_
  cases members with
  | nil => exact reads_members_nil (reads_next?_of_not_space (by decide) rest)
  | cons member members =>
    rw [writeMembers_cons, List.append_assoc]
    have hnone : ∀ x ∈ ([] : List Char), isSpace x = true := nofun
    exact reads_members_cons
      (reads_writeMember hloose (h member List.mem_cons_self) hnone _)
      (reads_moreMembers hloose (fun other hother => h other (List.mem_cons_of_mem _ hother)) rest)

end Lists

theorem read?_of_reads {text : String} {value : Json}
    (h : Reads (readValue text.toList) value []) : read? text = some value := by
  obtain ⟨after, hread, hafter⟩ := h
  have hend : (next? after.list).isNone = true := by
    rw [hafter]
    rfl
  unfold read?
  rw [hread]
  simp only [Option.bind_eq_bind, Option.bind_some, hend, if_true]
  rfl

/-- The whole text of a written value stands for the value. -/
theorem read?_write {spacing : Spacing} {value : Json} (h : ReadBack spacing value) :
    read? (String.ofList (value.write spacing)) = some value := by
  refine read?_of_reads ?_
  have hvalue := h [] [] (by simp)
  rw [List.nil_append, List.append_nil] at hvalue
  rwa [String.toList_ofList]

end Json

end Almanac
