import Almanac.Extraction.Remark
import Almanac.Json.Writer
import Almanac.Pattern.Matching
import Almanac.Pattern.Reader

/-!
# Capturing parts of values

The patterns of a field are tried on each of its values. What is kept of a match is its
text, or the texts of some of its groups under names.
-/

namespace Almanac.Extraction

open Text

/-- A value of a field. -/
inductive FieldValue where
  | text (text : String)
  /-- The texts of groups, by name. -/
  | groups (texts : Dictionary String)
  deriving Inhabited

namespace FieldValue

/-- The JSON text of the texts of groups. -/
def groupsText (texts : Dictionary String) : String :=
  Json.storedText (.object (texts.entries.map fun p => (p.1, .string p.2)))

/-- A value as a text; that of groups is a JSON object. -/
def toText : FieldValue → String
  | text s => s
  | groups texts => groupsText texts

end FieldValue

/-- The greatest number of a group. -/
def maxGroup : Nat := 18446744073709551615

/-- The number that a key gives to a group: digits, which may have a plus sign in front
and white space around them. -/
def groupNumber? (key : String) : Option Nat :=
  let digits :=
    match trimChars key.toList with
    | '+' :: rest => rest
    | cs => cs
  if digits.isEmpty || !digits.all isAsciiDigit || maxGroup < Number.value digits then none
  else some (Number.value digits)

/-- A pattern of a field. -/
def readPattern (field source : String) : Except Remark Pattern :=
  match Pattern.read? source with
  | some pattern => .ok pattern
  | none => .error (.invalidPattern source field)

/-- A group of a field, by number, and the name for its text. -/
def readGroup (field : String) (group : String × String) : Except Remark (Nat × String) :=
  match groupNumber? group.1 with
  | some number => .ok (number, group.2)
  | none => .error (.notGroupNumber group.1 field)

/-- What is kept of a match. Of a match in which none of the groups takes part nothing
is kept. -/
def keepMatch (groups : Option (List (Nat × String))) (m : Pattern.Match) : Option FieldValue :=
  match groups with
  | none => (m.group? 0).map .text
  | some groups =>
    let texts := Dictionary.ofList (groups.filterMap fun g => (m.group? g.1).map (g.2, ·))
    if texts.isEmpty then none else some (.groups texts)

/-- What the patterns of a field capture of each of its values. Without values the
patterns are not read. -/
def capture (rule : PatternRule) (field : String) (values : List String) :
    Noted (List FieldValue) :=
  if values.isEmpty then ⟨[], []⟩
  else
    (Noted.readAll (readPattern field) rule.patterns).bind fun patterns =>
      let programs := patterns.map Pattern.program
      let capturedWith (groups : Option (List (Nat × String))) : List FieldValue :=
        rule.keep.apply (values.flatMap fun value =>
          programs.filterMap fun program => (program.find? value).bind (keepMatch groups))
      match rule.groups with
      | none => ⟨capturedWith none, []⟩
      | some groups =>
        (Noted.readAll (readGroup field) groups.entries).bind fun groups =>
          ⟨capturedWith (some groups), []⟩

/-- The values of a field from its texts. -/
def fieldValues (rule : Option PatternRule) (field : String) (texts : List String) :
    Noted (List FieldValue) :=
  match rule with
  | none => ⟨texts.map .text, []⟩
  | some rule => capture rule field texts

end Almanac.Extraction
