import Almanac.Text.Blank
import Almanac.Text.Case

/-!
# Replacing words

A word is replaced wherever it occurs, in any case, up to the end of a word: the
character after it and the last character of it are not both word characters.
Occurrences are taken from the left and do not overlap. An empty word occurs at
every border between a word character and none.
-/

namespace Almanac

open Almanac.Text

/-- A word and the text that takes its place. -/
structure Replacement where
  word : String
  text : String
  deriving Repr, DecidableEq, Inhabited

namespace Replacement

/-- Whether just one of two neighbours is a word character. -/
def isBorder (before after : Option Char) : Bool :=
  before.any isWordChar != after.any isWordChar

/-- Whether the characters begin with the word, in any case. -/
def beginsWord : List Char → List Char → Bool
  | [], _ => true
  | _ :: _, [] => false
  | w :: word, c :: cs => sameFold w c && beginsWord word cs

/-- Whether the word stands at the front of the characters and ends there as a
word; `before` is the character in front of them. -/
def occursAt (word : List Char) (before : Option Char) (cs : List Char) : Bool :=
  beginsWord word cs &&
    isBorder ((cs.take word.length).getLast?.or before) (cs.drop word.length).head?

/-- The characters with every occurrence of the word replaced; `before` is the
character in front of them. -/
def applyFrom (word text : List Char) (before : Option Char) (cs : List Char) : List Char :=
  match cs with
  | [] => if word.isEmpty && occursAt word before [] then text else []
  | c :: rest =>
    if occursAt word before (c :: rest) then
      if word.isEmpty then text ++ c :: applyFrom word text (some c) rest
      else
        text ++ applyFrom word text ((c :: rest).take word.length).getLast?
          (rest.drop (word.length - 1))
    else c :: applyFrom word text (some c) rest
termination_by cs.length
decreasing_by
  · simp
  · simp only [List.length_drop, List.length_cons]
    omega
  · simp

/-- A text with every occurrence of the word replaced. -/
def apply (r : Replacement) (s : String) : String :=
  String.ofList (applyFrom r.word.toList r.text.toList none s.toList)

end Replacement

end Almanac
