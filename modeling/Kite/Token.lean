import Kite.Kind
import Kite.Position

/-!
# Tokens

A token is a stretch of source text with its kind and the place where it begins. Two
flags come from the surroundings: whether an operator piece ends there or could still
be extended, and whether the token lies inside a quoted literal.
-/

set_option autoImplicit false

namespace Kite

/-- A stretch of source text, sorted and placed. -/
structure Token where
  kind : Kind
  /-- The text of the token. -/
  lexeme : String
  /-- The place of its first character. -/
  position : Position
  /-- For an operator piece: whether the next character cannot extend it. -/
  closed : Option Bool := none
  /-- Whether the token is part of the content of a quoted literal. -/
  internal : Bool := false
  deriving DecidableEq, Repr

namespace Token

/-- The token that ends every token sequence. -/
def endOfInput (position : Position) : Token where
  kind := .endOfInput
  lexeme := "EOF"
  position := position

/-- Whether the token is an operator piece that the next character may extend. -/
def isGlued (token : Token) : Bool :=
  token.closed = some false

instance : ToString Token where
  toString token := s!"{token.kind} `{token.lexeme}` at {token.position}"

end Token

end Kite
