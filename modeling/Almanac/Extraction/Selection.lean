import Almanac.Extraction.Remark
import Almanac.Selector.Evaluation
import Almanac.Selector.Parser

/-!
# Selecting on a page

The root selectors of a page pick the elements that are searched; each of them is then
searched with each selector of a field.
-/

namespace Almanac.Extraction

/-- The selectors of a rule, with a remark on each that is none. -/
def readSelectors (owner : String) (sources : List String) : Noted (List Selector.Expr) :=
  Noted.readAll
    (fun source => (Selector.compile source).mapError (Remark.invalidSelector source owner)) sources

/-- The elements of a page that are searched. -/
def findRoots (doc : Document) (page : Page) (rule : SelectorRule) : Noted (List Nat) :=
  (readSelectors "root" rule.selectors).bind fun selectors =>
    let found := selectors.flatMap fun selector => Selector.selectNodes doc selector 0
    if found.isEmpty then ⟨[], [.noRoot page]⟩ else ⟨rule.keep.apply found, []⟩

/-- The texts that the selectors of a field find in each root. -/
def selectTexts (doc : Document) (roots : List Nat) (field : String) (rule : SelectorRule) :
    Noted (List String) :=
  (readSelectors field rule.selectors).bind fun selectors =>
    ⟨roots.flatMap fun root =>
      selectors.flatMap fun selector => Selector.selectStrings doc selector root, []⟩

end Almanac.Extraction
