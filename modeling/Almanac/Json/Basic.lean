/-!
# JSON values

The values that JSON text stands for. The members of an object keep the order in
which they are written, repetitions included.
-/

namespace Almanac

/-- A JSON value. -/
inductive Json where
  | null
  | bool (value : Bool)
  /-- A number, as it is written. -/
  | number (text : String)
  | string (text : String)
  | array (items : List Json)
  | object (members : List (String × Json))
  /-- Well-formed text that stands for no value: a number beyond the range of
  numbers, or a string or key with half a surrogate pair. It does no harm where
  it is ignored. -/
  | unreadable
  deriving Repr, Inhabited

namespace Json

mutual

/-- Whether a value can be read with at most `depth` arrays and objects inside one
another. -/
def fits (depth : Nat) : Json → Bool
  | null | bool _ | number _ | string _ => true
  | array items => depth != 0 && allFit (depth - 1) items
  | object members => depth != 0 && allMembersFit (depth - 1) members
  | unreadable => false

/-- Whether every item can be read. -/
def allFit (depth : Nat) : List Json → Bool
  | [] => true
  | item :: rest => item.fits depth && allFit depth rest

/-- Whether the value of every member can be read. -/
def allMembersFit (depth : Nat) : List (String × Json) → Bool
  | [] => true
  | (_, value) :: rest => value.fits depth && allMembersFit depth rest

end

end Json

end Almanac
