import Almanac.Template.Basic
import Almanac.Text.Blank
import Almanac.Text.Search

/-!
# Shaping values

The texts that the selectors of a field find are cleaned, cut down to those that are
kept, joined to one or split into several, and cleaned again.
-/

namespace Almanac.Extraction

open Text

/-- A text with plain spaces for those that do not break, and none at its ends. -/
def clean (value : String) : String :=
  String.ofList (trimChars (value.toList.map fun c => if c = '\u00a0' then ' ' else c))

/-- The cleaned values, without those that are empty or to be ignored, each at its
first place only. -/
def sanitize (ignored values : List String) : List String :=
  ((values.map clean).filter fun value => !value.isEmpty && !ignored.contains value).eraseDups

/-- The values that are kept, joined or split. Of split values only as many are kept
again. -/
def shape (rule : SelectorRule) (values : List String) : List String :=
  if values.isEmpty then []
  else
    let kept := rule.keep.apply values
    match rule.joiner, rule.splitter with
    | some joiner, _ => [join joiner kept]
    | none, some splitter =>
      if splitter.isEmpty then kept else rule.keep.apply (kept.flatMap (splitText splitter))
    | none, none => kept

/-- The values of a field from the texts that its selectors find. -/
def fieldTexts (rule : SelectorRule) (found : List String) : List String :=
  sanitize rule.ignored (shape rule (sanitize rule.ignored found))

end Almanac.Extraction
