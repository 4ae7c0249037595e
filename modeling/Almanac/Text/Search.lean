/-!
# Pieces of text

Finding a piece of text in another: whether it occurs, the text before and
after its first or last occurrence and the parts between all its occurrences.
Occurrences are looked for from the left and do not overlap.
-/

namespace Almanac.Text

/-! ## Occurrences -/

/-- Whether `piece` occurs in the characters. -/
def occurs (piece : List Char) : List Char → Bool
  | [] => piece.isEmpty
  | c :: rest => piece.isPrefixOf (c :: rest) || occurs piece rest

/-- What is before and after the first occurrence of `piece`. -/
def splitFirst (piece : List Char) : List Char → Option (List Char × List Char)
  | [] => if piece.isEmpty then some ([], []) else none
  | c :: rest =>
    if piece.isPrefixOf (c :: rest) then some ([], (c :: rest).drop piece.length)
    else (splitFirst piece rest).map fun parts => (c :: parts.1, parts.2)

/-- What is before and after the last occurrence of `piece`. -/
def splitLast (piece : List Char) : List Char → Option (List Char × List Char)
  | [] => if piece.isEmpty then some ([], []) else none
  | c :: rest =>
    match splitLast piece rest with
    | some parts => some (c :: parts.1, parts.2)
    | none =>
      if piece.isPrefixOf (c :: rest) then some ([], (c :: rest).drop piece.length) else none

theorem eq_append_drop_of_isPrefixOf {p l : List Char} (h : p.isPrefixOf l = true) :
    l = p ++ l.drop p.length := by
  obtain ⟨t, rfl⟩ := List.isPrefixOf_iff_prefix.mp h
  simp

/-- The parts of a split and the piece between them make up the text. -/
theorem eq_append_of_splitFirst {piece : List Char} :
    ∀ {cs a b : List Char}, splitFirst piece cs = some (a, b) → cs = a ++ piece ++ b
  | [], a, b, h => by
    simp only [splitFirst] at h
    split at h
    · next he => simp_all
    · simp at h
  | c :: rest, a, b, h => by
    simp only [splitFirst] at h
    split at h
    · next hp =>
      simp only [Option.some.injEq, Prod.mk.injEq] at h
      obtain ⟨rfl, rfl⟩ := h
      simpa using eq_append_drop_of_isPrefixOf hp
    · simp only [Option.map_eq_some_iff, Prod.mk.injEq] at h
      obtain ⟨⟨a', b'⟩, h', rfl, rfl⟩ := h
      simp [eq_append_of_splitFirst h']

/-! ## Splitting at every occurrence -/

/-- The parts of the characters between the occurrences of `piece`; an empty
piece separates nothing. -/
def splitAll (piece cs : List Char) : List (List Char) :=
  if _hp : piece = [] then [cs]
  else
    match _h : splitFirst piece cs with
    | none => [cs]
    | some (before, after) => before :: splitAll piece after
termination_by cs.length
decreasing_by
  have hl := congrArg List.length (eq_append_of_splitFirst _h)
  have := List.length_pos_iff.mpr _hp
  simp only [List.length_append] at hl
  omega

/-! ## On texts -/

/-- Whether `piece` occurs in `s`. -/
def containsText (s piece : String) : Bool := occurs piece.toList s.toList

/-- Whether `s` begins with `piece`. -/
def beginsWith (s piece : String) : Bool := piece.toList.isPrefixOf s.toList

/-- The parts of `s` between the occurrences of `separator`. -/
def splitText (separator s : String) : List String :=
  (splitAll separator.toList s.toList).map String.ofList

/-- The texts in order with `separator` between each two. -/
def join (separator : String) (parts : List String) : String :=
  String.ofList (separator.toList.intercalate (parts.map String.toList))

/-- A list of texts one after the other. -/
def concat (parts : List String) : String :=
  String.ofList (parts.map String.toList).flatten

end Almanac.Text
