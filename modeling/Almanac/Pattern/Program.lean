import Almanac.Pattern.Basic

/-!
# Programs of patterns

A pattern is turned into a program, a table of instructions that name the
instructions to go on with. Where an instruction goes on in two ways, the first is
preferred.
-/

namespace Almanac.Pattern

/-- An instruction of a program. -/
inductive Instruction where
  /-- The whole pattern has been matched. -/
  | accept
  /-- Reads a character of a set. -/
  | read (set : CharSet) (next : Nat)
  /-- Goes on in two ways, the first by preference. -/
  | fork (first second : Nat)
  /-- Remembers the position in a slot. -/
  | mark (slot next : Nat)
  /-- Goes on if a condition on the place holds. -/
  | check (place : Place) (next : Nat)
  deriving Repr, Inhabited

/-- A table of instructions and the place of the first. -/
structure Program where
  code : Array Instruction
  start : Nat
  deriving Inhabited

namespace Program

/-- Adds an instruction behind all others and returns its place. -/
def add (code : Array Instruction) (i : Instruction) : Nat × Array Instruction :=
  (code.size, code.push i)

/-- A fork between going on with a piece and leaving it. -/
def forkTo (greedy : Bool) (piece leave : Nat) : Instruction :=
  if greedy then .fork piece leave else .fork leave piece

/-- Adds instructions a number of times, each time in front of the last. -/
def repeated (piece : Nat → Array Instruction → Nat × Array Instruction) :
    Nat → Nat → Array Instruction → Nat × Array Instruction
  | 0, next, code => (next, code)
  | n + 1, next, code =>
    let (next, code) := repeated piece n next code
    piece next code

/-- Adds at most a number of pieces, each of which may be left out together with
all behind it. -/
def upTo (greedy : Bool) (piece : Nat → Array Instruction → Nat × Array Instruction) (leave : Nat) :
    Nat → Array Instruction → Nat × Array Instruction
  | 0, code => (leave, code)
  | n + 1, code =>
    let (next, code) := upTo greedy piece leave n code
    let (first, code) := piece next code
    add code (forkTo greedy first leave)

/-- Adds a loop around a piece, which is gone through once or more. -/
def loop (greedy : Bool) (piece : Nat → Array Instruction → Nat × Array Instruction) (leave : Nat)
    (code : Array Instruction) : Nat × Array Instruction :=
  let (back, code) := add code .accept
  let (first, code) := piece back code
  (first, code.setIfInBounds back (forkTo greedy first leave))

/-- Adds the instructions of a pattern in front of the instruction at `next`; the
place of the first is returned. -/
def addPattern : Pattern → Nat → Array Instruction → Nat × Array Instruction
  | .empty, next, code => (next, code)
  | .read set, next, code => add code (.read set next)
  | .place condition, next, code => add code (.check condition next)
  | .sequence a b, next, code =>
    let (next, code) := addPattern b next code
    addPattern a next code
  | .either a b, next, code =>
    let (second, code) := addPattern b next code
    let (first, code) := addPattern a next code
    add code (.fork first second)
  | .group number a, next, code =>
    let (last, code) := add code (.mark (2 * number + 1) next)
    let (first, code) := addPattern a last code
    add code (.mark (2 * number) first)
  | .repetition a least most greedy, next, code =>
    match most with
    | some most =>
      let (optional, code) := upTo greedy (addPattern a) next (most - least) code
      repeated (addPattern a) least optional code
    | none =>
      if least = 0 && a.alwaysReads then
        let (back, code) := add code .accept
        let (first, code) := addPattern a back code
        (back, code.setIfInBounds back (forkTo greedy first next))
      else
        let (first, code) := loop greedy (addPattern a) next code
        if least = 0 then add code (forkTo greedy first next)
        else repeated (addPattern a) (least - 1) first code

end Program

/-- The program of a pattern, which remembers the whole match as group 0. -/
def program (p : Pattern) : Program :=
  let (start, code) := Program.addPattern (.group 0 p) 0 #[.accept]
  ⟨code, start⟩

end Almanac.Pattern
