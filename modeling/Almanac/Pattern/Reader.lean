import Almanac.Pattern.Bracket

/-!
# Reading patterns

The text of a pattern is read from left to right: alternatives with bars between
them, each a run of items; an item is a character, a class, a place or a group, and
may be repeated. Groups that are remembered are numbered by their opening
parentheses. Patterns that are nested too deeply or take too much room are refused.
-/

namespace Almanac.Pattern

open Almanac.Text

/-! ## Parts of a pattern -/

/-- The groups that have been opened: how many, and the names given to them. -/
structure Groups where
  count : Nat := 0
  names : List String := []
  deriving Inhabited

namespace Groups

/-- One more group, and its number. -/
def next (g : Groups) : Nat × Groups := (g.count + 1, { g with count := g.count + 1 })

/-- Gives a name to the last group, unless another has it. -/
def name? (g : Groups) (name : String) : Option Groups :=
  if g.names.contains name then none else some { g with names := name :: g.names }

end Groups

/-- An item of a run: a pattern, or nothing but a change of flags, which cannot be
repeated. -/
structure Item where
  pattern : Nested Pattern
  repeatable : Bool := true
  deriving Inhabited

/-- The deepest of several patterns, counted with what holds them. -/
def depthOfAll (patterns : List (Nested Pattern)) : Nat :=
  1 + (patterns.map (·.depth)).foldl max 0

/-- The run of some items, last first. -/
def runOf (items : List Item) : Nested Pattern :=
  match items.reverse.map (·.pattern) with
  | [] => ⟨.empty, 0⟩
  | [p] => p
  | patterns => ⟨(patterns.map (·.value)).foldr .sequence .empty, depthOfAll patterns⟩

/-- The choice between some alternatives, last first; there is at least one. -/
def choiceOf (last : Nested Pattern) (others : List (Nested Pattern)) : Nested Pattern :=
  match others with
  | [] => last
  | others =>
    ⟨others.foldl (fun p other => .either other.value p) last.value, depthOfAll (last :: others)⟩

/-! ## Atoms as patterns -/

namespace Flags

/-- The pattern of one character. -/
def charPattern (flags : Flags) (c : Char) (byte : Bool) : Option Pattern :=
  if flags.unicode || c.toNat < 128 then some (.read (flags.foldCase (.only c)))
  else if byte then none
  else some (.read (.only c))

/-- The pattern of an escape. -/
def atomPattern (flags : Flags) : Atom → Option Pattern
  | .char c byte => flags.charPattern c byte
  | .set set => some (.read set)
  | .place condition => some (.place condition)

/-- The pattern of a dot. -/
def dotPattern (flags : Flags) : Option Pattern :=
  if !flags.unicode then none
  else if flags.dotReadsAll then some (.read (.except []))
  else if flags.returns then some (.read (.except ['\n', '\r']))
  else some (.read (.except ['\n']))

/-- The place of a circumflex. -/
def startPattern (flags : Flags) : Pattern :=
  .place (if flags.lines then .lineStart flags.returns else .textStart)

/-- The place of a dollar sign. -/
def endPattern (flags : Flags) : Pattern :=
  .place (if flags.lines then .lineEnd flags.returns else .textEnd)

end Flags

/-! ## Repetition -/

/-- Digits at the front, with what is skipped behind each. -/
def readCountDigits (flags : Flags) (cs : List Char) : List Char × NoLonger cs :=
  match cs with
  | [] => ([], .all [])
  | c :: rest =>
    if isAsciiDigit c then
      let front := flags.skip rest
      let (digits, after) := readCountDigits flags front.list
      (c :: digits, (front.trans after).cons.toNoLonger)
    else ([], .all (c :: rest))
termination_by cs.length
decreasing_by grind

/-- A number, if digits are there, with white space before and behind them; white
space among them is skipped under the flags. -/
def readCount (flags : Flags) (cs : List Char) : Option Nat × NoLonger cs :=
  let front := NoLonger.dropWhile isBlank cs
  let (digits, rest) := readCountDigits flags front.list
  let behind := NoLonger.dropWhile isBlank rest.list
  (if digits.isEmpty then none else some (Number.value digits),
    front.trans (rest.trans (behind.trans (flags.skip behind.list))))

/-- The greatest number that can be written as a count. -/
def maxCount : Nat := 4294967295

/-- The counts of a repetition behind its opening brace, up to its closing one. -/
def readCounts (flags : Flags) (cs : List Char) : Read (Nat × Option Nat) cs := do
  let front := flags.skip cs
  let (least, rest) := readCount flags front.list
  let rest := front.trans rest
  let least ← least
  guard (least ≤ maxCount)
  match readThis '\x7d' rest.list with
  | some ((), after) => return ((least, some least), rest.transShorter after)
  | none =>
    let ((), behind) ← readThis ',' rest.list
    let rest := rest.transShorter (behind.trans (flags.skip behind.list))
    match readThis '\x7d' rest.list with
    | some ((), after) => return ((least, none), rest.trans after)
    | none =>
      let (most, behind) := readCount flags rest.list
      let most ← most
      guard (most ≤ maxCount && least ≤ most)
      let ((), after) ← readThis '\x7d' behind.list
      return ((least, some most), rest.trans (behind.trans after))

/-- Repeats the last of some items. -/
def repeatLast (flags : Flags) (least : Nat) (most : Option Nat) (hesitant : Bool) :
    List Item → Option (List Item)
  | [] => none
  | item :: items =>
    if item.repeatable then
      let greedy := flags.swapGreed == hesitant
      some ({ pattern := ⟨item.pattern.value.times least most greedy, item.pattern.depth + 1⟩ } ::
        items)
    else none

/-! ## Groups -/

/-- The flag of a letter, set or cleared. -/
def Flags.set? (flags : Flags) (letter : Char) (on : Bool) : Option Flags :=
  match letter with
  | 'i' => some { flags with ignoreCase := on }
  | 'm' => some { flags with lines := on }
  | 's' => some { flags with dotReadsAll := on }
  | 'U' => some { flags with swapGreed := on }
  | 'u' => some { flags with unicode := on }
  | 'R' => some { flags with returns := on }
  | 'x' => some { flags with spaced := on }
  | _ => none

/-- The letters of flags up to a colon or a closing parenthesis, which is read: the
flags as they are then, and whether it was the colon. No letter may be repeated, and a
dash, of which there is at most one, stands before a letter. -/
def readFlags (flags : Flags) (seen : List Char) (cs : List Char) : Read (Flags × Bool) cs :=
  match cs with
  | [] => none
  | ':' :: _ => if seen.head? = some '-' then none else some ((flags, true), .tail)
  | ')' :: _ =>
    if seen.isEmpty || seen.head? = some '-' then none else some ((flags, false), .tail)
  | c :: rest => do
    guard (!seen.contains c)
    let flags ← if c = '-' then some flags else flags.set? c (!seen.contains '-')
    let (result, after) ← readFlags flags (c :: seen) rest
    return (result, after.cons)

/-- Whether a character can stand in the name of a group. -/
def isNameChar (first : Bool) (c : Char) : Bool :=
  c == '_' || (if first then isAlphabetic c else
    c == '.' || c == '[' || c == ']' || isAlphanumeric c)

/-- The name of a group up to the sign behind it. -/
def readName (name : List Char) (cs : List Char) : Read String cs :=
  match cs with
  | [] => none
  | '>' :: _ => if name.isEmpty then none else some (String.ofList name, .tail)
  | c :: rest =>
    if isNameChar name.isEmpty c then do
      let (name, after) ← readName (name ++ [c]) rest
      return (name, after.cons)
    else none

/-- What an opening parenthesis begins. -/
inductive Opening where
  /-- A group, with its number if it has one, whose content is read under flags. -/
  | group (number : Option Nat) (flags : Flags)
  /-- No group, but flags for what follows. -/
  | flags (flags : Flags)
  deriving Inhabited

/-- Whether a group is one that looks ahead or behind, by what follows its question
mark. -/
def looksAround : List Char → Bool
  | '=' :: _ | '!' :: _ | '<' :: '=' :: _ | '<' :: '!' :: _ => true
  | _ => false

/-- What opens the name of a group. -/
def readNameMark (cs : List Char) : ReadMaybe Unit cs :=
  match readThese ['P', '<'] cs with
  | some result => some result
  | none => readThese ['<'] cs

/-- What stands behind an opening parenthesis, without the group's content. -/
def readOpening (flags : Flags) (groups : Groups) (cs : List Char) :
    ReadMaybe (Opening × Groups) cs :=
  let front := flags.skip cs
  match readThis '?' front.list with
  | none =>
    let (number, groups) := groups.next
    some ((.group number flags, groups), front)
  | some ((), rest) =>
    let rest := front.transShorter rest
    if looksAround rest.list then none
    else
      match readNameMark rest.list with
      | some ((), behind) => do
        let (number, groups) := groups.next
        let (name, after) ← readName [] behind.list
        let groups ← groups.name? name
        return ((.group number flags, groups), (rest.trans (behind.trans after)).toNoLonger)
      | none => do
        let ((inner, colon), after) ← readFlags flags [] rest.list
        return ((if colon then .group none inner else .flags inner, groups),
          (rest.trans after).toNoLonger)

/-! ## Patterns -/

/-- What begins with a character and is neither a group nor between alternatives: a
class, a repetition of the last item, an escape or a single character. -/
def readItem (flags : Flags) (items : List Item) (c : Char) (cs : List Char) :
    ReadMaybe (List Item) cs :=
  match c with
  | '[' => do
    let (set, after) ← readClass flags cs
    return ({ pattern := ⟨.read set.value, set.depth⟩ } :: items, after.toNoLonger)
  | '\x7b' => do
    let ((least, most), behind) ← readCounts flags cs
    let behind := behind.trans (flags.skip behind.list)
    let (hesitant, after) := readMark '?' behind.list
    let items ← repeatLast flags least most hesitant items
    return (items, (behind.trans after).toNoLonger)
  | '\\' => do
    let (atom, after) ← readEscape flags cs
    let pattern ← flags.atomPattern atom
    return ({ pattern := ⟨pattern, 0⟩ } :: items, after.toNoLonger)
  | c => do
    if c = '*' || c = '+' || c = '?' then
      let (hesitant, after) := readMark '?' cs
      let least := if c = '+' then 1 else 0
      let most := if c = '?' then some 1 else none
      let items ← repeatLast flags least most hesitant items
      return (items, after)
    else
      let pattern ←
        if c = '.' then flags.dotPattern
        else if c = '^' then some flags.startPattern
        else if c = '$' then some flags.endPattern
        else flags.charPattern c false
      return ({ pattern := ⟨pattern, 0⟩ } :: items, .all cs)

/-- Alternatives up to a closing parenthesis, which is left, or the end. -/
def readChoice (flags : Flags) (groups : Groups) (others : List (Nested Pattern))
    (items : List Item) (cs : List Char) : ReadMaybe (Nested Pattern × Groups) cs :=
  let front := flags.skip cs
  match readOne front.list with
  | none => some ((choiceOf (runOf items) others, groups), front)
  | some (c, rest) =>
    let rest := front.transShorter rest
    match c with
    | ')' => some ((choiceOf (runOf items) others, groups), front)
    | '|' => do
      let (result, after) ← readChoice flags groups (runOf items :: others) [] rest.list
      return (result, (rest.trans after).toNoLonger)
    | '(' => do
      let ((opening, groups), inside) ← readOpening flags groups rest.list
      let inside := rest.trans inside
      match opening with
      | .flags flags =>
        let item : Item := { pattern := ⟨.empty, 0⟩, repeatable := false }
        let (result, after) ← readChoice flags groups others (item :: items) inside.list
        return (result, (inside.trans after).toNoLonger)
      | .group number inner =>
        let ((content, groups), behind) ← readChoice inner groups [] [] inside.list
        let ((), rest') ← readThis ')' behind.list
        let rest' := inside.trans (behind.trans rest')
        let pattern := (number.map fun n => .group n content.value).getD content.value
        let item : Item := { pattern := ⟨pattern, content.depth + 1⟩ }
        let (result, after) ← readChoice flags groups others (item :: items) rest'.list
        return (result, (rest'.trans after).toNoLonger)
    | c => do
      let (items, behind) ← readItem flags items c rest.list
      let behind := rest.trans behind
      let (result, after) ← readChoice flags groups others items behind.list
      return (result, (behind.trans after).toNoLonger)
termination_by cs.length
decreasing_by all_goals grind

/-- The deepest nesting of a pattern. -/
def maxNesting : Nat := 250

/-- The room that a pattern may take, in bytes. -/
def maxRoom : Nat := 10 * 1024 * 1024

/-- The pattern with a text. -/
def read? (text : String) : Option Pattern := do
  let ((pattern, _), rest) ← readChoice {} {} [] [] text.toList
  guard (rest.list.isEmpty && pattern.depth ≤ maxNesting && pattern.value.room ≤ maxRoom)
  return pattern.value

end Almanac.Pattern
