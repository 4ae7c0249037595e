import Almanac.Pattern.Program

/-!
# Matching patterns

A program is run over a text from left to right with a list of threads, in order of
preference. At each place a thread is followed through the instructions that read
nothing; of two threads that come to one instruction only the preferred one goes on.
The match that begins furthest to the left is found, and of those the preferred one.
-/

namespace Almanac.Pattern

/-- The positions that are remembered, by slot. -/
abbrev Slots : Type := List (Nat × Nat)

/-- A thread: the next instruction, and what has been remembered, latest first. -/
structure Thread where
  next : Nat
  slots : Slots := []
  deriving Repr, Inhabited

namespace Program

/-- How many instructions no thread has come to. -/
def unseen (seen : Array Bool) : Nat := seen.countP (!·)

theorem unseen_set {seen : Array Bool} {i : Nat} (h : seen[i]? = some false) :
    unseen (seen.setIfInBounds i true) + 1 = unseen seen := by
  obtain ⟨hi, hf⟩ := Array.getElem?_eq_some_iff.mp h
  have hl : i < seen.toList.length := by simpa using hi
  have hg : seen.toList[i] = false := by simpa using hf
  unfold unseen
  rw [← Array.countP_toList, ← Array.countP_toList, Array.toList_setIfInBounds,
    List.countP_set hl, hg]
  have hpos : 0 < seen.toList.countP (!·) :=
    List.countP_pos_iff.mpr ⟨seen.toList[i], List.getElem_mem hl, by rw [hg]; rfl⟩
  simp only [Bool.not_false, if_true, Bool.not_true]
  simp only [Bool.false_eq_true, if_false]
  omega

/-- The threads that read a character or have ended, in order of preference, that
come from the given ones without reading. -/
def follow (program : Program) (before after : Option Char) (position : Nat)
    (threads : List Thread) (seen : Array Bool) : List Thread :=
  match threads with
  | [] => []
  | t :: rest =>
    if _h : seen[t.next]? = some false then
      let marked := seen.setIfInBounds t.next true
      match program.code[t.next]? with
      | none => program.follow before after position rest marked
      | some .accept => t :: program.follow before after position rest marked
      | some (.read ..) => t :: program.follow before after position rest marked
      | some (.fork first second) =>
        program.follow before after position
          ({ t with next := first } :: { t with next := second } :: rest) marked
      | some (.mark slot next) =>
        program.follow before after position
          ({ next, slots := (slot, position) :: t.slots } :: rest) marked
      | some (.check condition next) =>
        if condition.holds before after then
          program.follow before after position ({ t with next } :: rest) marked
        else program.follow before after position rest marked
    else program.follow before after position rest seen
termination_by threads.length + 2 * unseen seen
decreasing_by
  all_goals
    first
    | have := unseen_set _h
      simp only [List.length_cons]
      omega
    | simp only [List.length_cons]
      omega

/-- Lets each thread read the character: the threads that go on, and the match of the
first thread that has ended, behind which no thread goes on. -/
def advance (program : Program) (after : Option Char) : List Thread → List Thread × Option Slots
  | [] => ([], none)
  | t :: rest =>
    match program.code[t.next]? with
    | some .accept => ([], some t.slots)
    | some (.read set next) =>
      let (threads, found) := program.advance after rest
      if after.any set.contains then ({ t with next } :: threads, found) else (threads, found)
    | _ => program.advance after rest

/-- Goes over the text from a position on. A new thread is begun at every position
until a match has been found. -/
def run (program : Program) (before : Option Char) (position : Nat) (threads : List Thread)
    (found : Option Slots) (text : List Char) : Option Slots :=
  let threads := if found.isNone then threads ++ [{ next := program.start }] else threads
  if threads.isEmpty then found
  else
    let seen := Array.replicate program.code.size false
    let (threads, ended) :=
      program.advance text.head? (program.follow before text.head? position threads seen)
    let found := ended.or found
    match text with
    | [] => found
    | c :: rest => program.run (some c) (position + 1) threads found rest

end Program

/-- A match of a pattern in a text. -/
structure Match where
  text : List Char
  slots : Slots
  deriving Repr

namespace Match

/-- The text of a group, if the group takes part in the match; group 0 is the whole
match. -/
def group? (m : Match) (number : Nat) : Option String := do
  let first ← m.slots.lookup (2 * number)
  let last ← m.slots.lookup (2 * number + 1)
  return String.ofList ((m.text.drop first).take (last - first))

end Match

/-- The first match in a text. -/
def Program.find? (program : Program) (text : String) : Option Match :=
  (program.run none 0 [] none text.toList).map fun slots => { text := text.toList, slots }

end Almanac.Pattern
