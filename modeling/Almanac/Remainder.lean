/-!
# What is left of a list

A reader takes something off the front of a list and returns it with the rest. The
rest is held together with the bound on its length, so that readers that call one
another end: each call is on a shorter list. The bounds of readers that run one after
the other compose by `trans`, and `cons` says that what is left of a list is left of
the list with one more item in front.
-/

namespace Almanac

/-- A list shorter than `l`: what is left of `l` once something has been read. -/
structure Shorter {α : Type} (l : List α) where
  list : List α
  length_lt : list.length < l.length

/-- A list no longer than `l`: what is left of `l` when perhaps nothing has been read. -/
structure NoLonger {α : Type} (l : List α) where
  list : List α
  length_le : list.length ≤ l.length

grind_pattern Shorter.length_lt => self.list

grind_pattern NoLonger.length_le => self.list

namespace NoLonger

variable {α : Type} {a : α} {l : List α}

/-- All of a list: nothing has been read. -/
def all (l : List α) : NoLonger l := ⟨l, Nat.le_refl _⟩

/-- What is left behind the longest front whose items have a property. -/
def dropWhile (p : α → Bool) (l : List α) : NoLonger l :=
  ⟨l.dropWhile p, (List.dropWhile_suffix p).length_le⟩

/-- What is left of what is left. -/
def trans (r : NoLonger l) (s : NoLonger r.list) : NoLonger l :=
  ⟨s.list, Nat.le_trans s.length_le r.length_le⟩

/-- What is left when something has been read of what is left. -/
def transShorter (r : NoLonger l) (s : Shorter r.list) : Shorter l :=
  ⟨s.list, Nat.lt_of_lt_of_le s.length_lt r.length_le⟩

/-- What is left of a list, as what is left of the list behind one more item. -/
def cons (r : NoLonger l) : Shorter (a :: l) := ⟨r.list, Nat.lt_succ_of_le r.length_le⟩

@[simp] theorem list_all : (all l).list = l := rfl

@[simp] theorem list_dropWhile (p : α → Bool) : (dropWhile p l).list = l.dropWhile p := rfl

@[simp] theorem list_trans (r : NoLonger l) (s : NoLonger r.list) :
    (r.trans s).list = s.list := rfl

@[simp] theorem list_transShorter (r : NoLonger l) (s : Shorter r.list) :
    (r.transShorter s).list = s.list := rfl

@[simp] theorem list_cons (r : NoLonger l) : (r.cons : Shorter (a :: l)).list = r.list := rfl

end NoLonger

namespace Shorter

variable {α : Type} {a : α} {l : List α}

/-- A shorter list is no longer. -/
def toNoLonger (r : Shorter l) : NoLonger l := ⟨r.list, Nat.le_of_lt r.length_lt⟩

instance : Coe (Shorter l) (NoLonger l) := ⟨toNoLonger⟩

/-- All but the first item. -/
def tail : Shorter (a :: l) := ⟨l, Nat.lt_succ_self _⟩

/-- What is left of what is left. -/
def trans (r : Shorter l) (s : NoLonger r.list) : Shorter l :=
  ⟨s.list, Nat.lt_of_le_of_lt s.length_le r.length_lt⟩

/-- What is left of a list, as what is left of the list behind one more item. -/
def cons (r : Shorter l) : Shorter (a :: l) := r.toNoLonger.cons

/-- What is left with one item put back in front of it. -/
def putBack (r : Shorter l) (b : α) : NoLonger l := ⟨b :: r.list, r.length_lt⟩

@[simp] theorem list_toNoLonger (r : Shorter l) : r.toNoLonger.list = r.list := rfl

@[simp] theorem list_tail : (tail : Shorter (a :: l)).list = l := rfl

@[simp] theorem list_trans (r : Shorter l) (s : NoLonger r.list) :
    (r.trans s).list = s.list := rfl

@[simp] theorem list_cons (r : Shorter l) : (r.cons : Shorter (a :: l)).list = r.list := rfl

@[simp] theorem list_putBack (r : Shorter l) (b : α) : (r.putBack b).list = b :: r.list := rfl

end Shorter

/-! ## Readers -/

/-- Something read off the front of `l`, and what is left. -/
abbrev Read {β : Type} (α : Type) (l : List β) : Type := Option (α × Shorter l)

/-- Something that may take up nothing of `l`, and what is left. -/
abbrev ReadMaybe {β : Type} (α : Type) (l : List β) : Type := Option (α × NoLonger l)

section Readers

variable {α : Type}

/-- The first item. -/
def readOne : (l : List α) → Read α l
  | [] => none
  | a :: _ => some (a, .tail)

variable [DecidableEq α]

/-- A given item. -/
def readThis (a : α) : (l : List α) → Read Unit l
  | [] => none
  | b :: _ => if a = b then some ((), .tail) else none

/-- Given items, one after the other. -/
def readThese : (front l : List α) → ReadMaybe Unit l
  | [], l => some ((), .all l)
  | _ :: _, [] => none
  | a :: front, b :: l =>
    if a = b then do
      let ((), after) ← readThese front l
      return ((), after.cons.toNoLonger)
    else none

/-- Whether a given item is first; it is read if so. -/
def readMark (a : α) (l : List α) : Bool × NoLonger l :=
  match readThis a l with
  | some ((), after) => (true, after.toNoLonger)
  | none => (false, .all l)

end Readers

end Almanac
