import Kite.Token

/-!
# Errors of the grammar

Reading tokens fails at a token that no rule accepts. An error holds the cause and the
tokens it is about: the offending token first and, where it helps, an earlier one, such
as the bracket that was never closed.
-/

set_option autoImplicit false

namespace Kite

/-- Why a sequence of tokens is refused. -/
inductive GrammarError.Cause where
  | unrecognizedStatement
  /-- The input ends inside brackets of the given shape. -/
  | unclosed (shape : Bracket)
  | malformedParameter
  | expected (kind : Kind)
  | expectedArrow
  | invalidElement
  | invalidNumber
  | unrecognizedPrimary
  | nestingTooDeep
  deriving DecidableEq, Repr

/-- A refusal of a sequence of tokens. -/
structure GrammarError where
  cause : GrammarError.Cause
  /-- The offending token, and the tokens that explain the refusal. -/
  tokens : List Token
  deriving DecidableEq, Repr

namespace GrammarError

/-- What a cause says in a message. -/
def Cause.description : Cause → String
  | .unrecognizedStatement => "Unrecognized statement"
  | .unclosed .curly => "Unclosed scope"
  | .unclosed .round => "Unclosed parenthesis"
  | .unclosed .square => "Unclosed bracket"
  | .malformedParameter => "Malformed parameter definition"
  | .expected kind => s!"Expected {kind}"
  | .expectedArrow => "Expected arrow after parameter definitions"
  | .invalidElement => "Invalid array element"
  | .invalidNumber => "Invalid number literal"
  | .unrecognizedPrimary => "Unrecognized primary expression"
  | .nestingTooDeep => "Nesting too deep"

/-- The place of the offending token. -/
def position? (error : GrammarError) : Option Position :=
  error.tokens.head?.map Token.position

/-- The message of an error: the cause, then each of its tokens on a line of its own. -/
def message (error : GrammarError) : String :=
  String.join
    (s!"ParseError: {error.cause.description}" :: error.tokens.map fun token => s!"\n  {token}")

end GrammarError

instance : ToString GrammarError := ⟨GrammarError.message⟩

end Kite
