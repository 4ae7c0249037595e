import Almanac.Text.Class

/-!
# White space

White space in texts: cutting it off at the ends, splitting at it and
shrinking its runs. The work is done on character lists; the operations on
`String` are those on the characters.
-/

namespace Almanac.Text

/-! ## On characters -/

/-- The characters from the first that is not white space on. -/
def dropBlank (cs : List Char) : List Char := cs.dropWhile isBlank

/-- The characters up to the last that is not white space. -/
def dropBlankEnd (cs : List Char) : List Char := (dropBlank cs.reverse).reverse

/-- The characters between the first and the last that are not white space. -/
def trimChars (cs : List Char) : List Char := dropBlankEnd (dropBlank cs)

theorem length_dropWhile_le (p : Char → Bool) (cs : List Char) :
    (cs.dropWhile p).length ≤ cs.length :=
  (List.dropWhile_suffix p).length_le

/-- The maximal runs of characters that are not white space. -/
def wordsChars (cs : List Char) : List (List Char) :=
  match cs with
  | [] => []
  | c :: rest =>
    if isBlank c then wordsChars rest
    else (c :: rest.takeWhile (!isBlank ·)) :: wordsChars (rest.dropWhile (!isBlank ·))
termination_by cs.length
decreasing_by
  · simp
  · have := length_dropWhile_le (!isBlank ·) rest
    simp only [List.length_cons]
    omega

/-- The characters with each run of white space made one space. -/
def collapseChars (cs : List Char) : List Char :=
  match cs with
  | [] => []
  | c :: rest =>
    if isBlank c then ' ' :: collapseChars (rest.dropWhile isBlank) else c :: collapseChars rest
termination_by cs.length
decreasing_by
  · have := length_dropWhile_le isBlank rest
    simp only [List.length_cons]
    omega
  · simp

/-! ## On texts -/

/-- A text without the white space at its ends. -/
def trim (s : String) : String := String.ofList (trimChars s.toList)

/-- The words of a text: its maximal runs without white space. -/
def words (s : String) : List String := (wordsChars s.toList).map String.ofList

/-- The words of a text with one space between them. -/
def normalizeBlank (s : String) : String :=
  String.ofList ([' '].intercalate (wordsChars s.toList))

end Almanac.Text
