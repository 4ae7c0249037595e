import Almanac.Number.Decimal

/-!
# Tokens of selector expressions

The words that a selector expression is made of, and how a message names one.
-/

namespace Almanac.Selector

/-- A word of a selector expression. -/
inductive Token where
  | slash
  | doubleSlash
  | dot
  | doubleDot
  | atSign
  | comma
  | openParen
  | closeParen
  | openBracket
  | closeBracket
  | bar
  | star
  | doubleColon
  | equal
  | notEqual
  | less
  | lessEqual
  | greater
  | greaterEqual
  | name (text : String)
  | literal (text : String)
  | number (value : Number)
  deriving Repr, DecidableEq, Inhabited

namespace Token

/-- The characters of an operator or bracket; the other tokens have none. -/
def symbol : Token → String
  | slash => "/"
  | doubleSlash => "//"
  | dot => "."
  | doubleDot => ".."
  | atSign => "@"
  | comma => ","
  | openParen => "("
  | closeParen => ")"
  | openBracket => "["
  | closeBracket => "]"
  | bar => "|"
  | star => "*"
  | doubleColon => "::"
  | equal => "="
  | notEqual => "!="
  | less => "<"
  | lessEqual => "<="
  | greater => ">"
  | greaterEqual => ">="
  | name _ => ""
  | literal _ => ""
  | number _ => ""

/-- How a message names a token. -/
def describe : Token → String
  | name text => "name '" ++ text ++ "'"
  | literal text => "string '" ++ text ++ "'"
  | number value => "number " ++ value.text
  | token => "'" ++ token.symbol ++ "'"

end Token

/-- A token and the number of characters before it in the expression. -/
structure Lexeme where
  token : Token
  position : Nat
  deriving Repr, DecidableEq

end Almanac.Selector
