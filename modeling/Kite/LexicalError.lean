import Kite.Kind
import Kite.Position

/-!
# Errors of scanning

Scanning a text fails at the token that it cannot finish. An error holds the cause and
the place where that token begins.
-/

set_option autoImplicit false

namespace Kite

/-- Why a token cannot be finished. -/
inductive LexicalError.Cause where
  /-- The text ends before the closing delimiter of a literal. -/
  | unterminatedLiteral (kind : Kind)
  /-- A number has more than one decimal point. -/
  | multipleDecimalPoints (lexeme : String)
  /-- The lexicon lets a token end before its first character. -/
  | noProgress
  deriving DecidableEq, Repr

/-- A token that cannot be finished. -/
structure LexicalError where
  cause : LexicalError.Cause
  /-- The place where the token begins. -/
  position : Position
  deriving DecidableEq, Repr

/-- The message of an error. -/
def LexicalError.message (error : LexicalError) : String :=
  let position := error.position
  match error.cause with
  | .unterminatedLiteral kind =>
    s!"LexError: unterminated {kind} literal starting at {position}"
  | .multipleDecimalPoints lexeme =>
    s!"LexError: invalid number `{lexeme}` with multiple decimal points at {position}"
  | .noProgress => s!"LexError: empty token at {position}"

instance : ToString LexicalError := ⟨LexicalError.message⟩

end Kite
