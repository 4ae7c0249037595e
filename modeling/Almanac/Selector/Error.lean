import Almanac.Selector.Token

/-!
# Why a selector does not compile

Each cause holds the place it was found at, counted in characters from the start
of the expression.
-/

namespace Almanac.Selector

/-- A cause for rejecting a selector expression. -/
inductive Error where
  /-- The expression has no token. -/
  | empty
  /-- The character starts no token. -/
  | unexpectedChar (char : Char) (position : Nat)
  /-- The quote at the position is never closed. -/
  | unterminatedLiteral (position : Nat)
  /-- The token cannot follow the tokens before it. -/
  | unexpectedToken (found : Token) (position : Nat)
  /-- The expression stops where a token is needed. -/
  | unexpectedEnd (position : Nat)
  /-- The name called is no function. -/
  | unknownFunction (name : String) (position : Nat)
  /-- The function takes another number of arguments. -/
  | wrongArity (name : String) (found : Nat)
  /-- The name before the double colon is no axis. -/
  | unknownAxis (name : String) (position : Nat)
  deriving Repr, DecidableEq

/-- The text that tells a template's author about the cause. -/
def Error.message : Error → String
  | empty => "empty expression"
  | unexpectedChar char position =>
    "unexpected character '" ++ String.ofList [char] ++ "' at " ++ toString position
  | unterminatedLiteral position =>
    "unterminated string literal starting at " ++ toString position
  | unexpectedToken found position =>
    "unexpected " ++ found.describe ++ " at " ++ toString position
  | unexpectedEnd position => "unexpected end of expression at " ++ toString position
  | unknownFunction name position =>
    "unsupported function '" ++ name ++ "' at " ++ toString position
  | wrongArity name found =>
    "function '" ++ name ++ "' does not take " ++ toString found ++ " argument(s)"
  | unknownAxis name position => "unsupported axis '" ++ name ++ "' at " ++ toString position

end Almanac.Selector
