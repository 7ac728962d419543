import Kite.Stream.Literals
import Kite.Stream.Operators
import Kite.Stream.Raw

/-!
# The tidy stream

A grammar reads the raw tokens only after they have been tidied: literals are joined,
operators are joined, and blanks go. Blanks go last, since they are content inside a
literal and keep operators apart outside.
-/

set_option autoImplicit false

namespace Kite.Stream

/-- Leaves the blanks out. -/
def dropBlanks (tokens : List Token) : List Token :=
  tokens.filter fun token => token.kind ≠ .whitespace

/-- Joins literals and operators and leaves the blanks out. -/
def tidy (lexicon : Lexicon) (tokens : List Token) : List Token :=
  dropBlanks (joinOperators lexicon (joinLiterals tokens))

end Kite.Stream

namespace Kite

/-- The tidy tokens of a source text. -/
def lex (lexicon : Lexicon) (text : String) : Except LexicalError (List Token) :=
  (tokenize lexicon text).map (Stream.tidy lexicon)

end Kite
