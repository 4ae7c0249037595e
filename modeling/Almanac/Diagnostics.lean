import Almanac.Text.Search

/-!
# Diagnostics

Messages about what went wrong on a page without stopping the work on it. They
are kept in the order in which they were first recorded, each message once.
-/

namespace Almanac

/-- Recorded messages. -/
structure Diagnostics where
  messages : List String := []
  deriving Repr, DecidableEq, Inhabited

namespace Diagnostics

/-- No messages. -/
def empty : Diagnostics := {}

/-- Whether a message has been recorded. -/
def contains (d : Diagnostics) (message : String) : Bool := d.messages.contains message

/-- Records a message unless it has been recorded already. -/
def push (d : Diagnostics) (message : String) : Diagnostics :=
  if d.contains message then d else ⟨d.messages ++ [message]⟩

/-- Records messages in order. -/
def pushAll (d : Diagnostics) (messages : List String) : Diagnostics := messages.foldl push d

/-- How many messages there are. -/
def size (d : Diagnostics) : Nat := d.messages.length

/-- Whether there is no message. -/
def isEmpty (d : Diagnostics) : Bool := d.messages.isEmpty

/-- The messages, one on a line. -/
def text (d : Diagnostics) : String := Text.join "\n" d.messages

end Diagnostics

end Almanac
