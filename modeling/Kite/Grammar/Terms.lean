import Kite.Grammar.Parse
import Kite.Number.Numeral
import Kite.SyntaxTree

/-!
# The parts of an expression without brackets inside

Literals, names, array elements and parameters hold no further expression, so their
rules need no account of nesting.
-/

set_option autoImplicit false

namespace Kite

/-- The value that a literal token spells. -/
def Literal.ofToken? (token : Token) : Option Literal :=
  match token.kind with
  | .number => (Binary64.ofNumeral? token.lexeme).map .number
  | .quoted style => some (.quoted style token.lexeme)
  | _ => none

namespace Parse

/-- The value of a literal token that has been read or is under the cursor. -/
def literalValue (token : Token) : Parse Literal :=
  match Literal.ofToken? token with
  | some value => pure value
  | none => failWith .invalidNumber [token]

/-- Reads a literal. Its token is read before its value is known. -/
def literal : Parse Expression := do
  let token ← take
  return .literal (← literalValue token)

/-- Reads a name. -/
def name : Parse Expression := do
  let token ← take
  return .name token.lexeme

/-- Reads an element of the array that `opener` opens. A literal is read after its value is
known. -/
def element (opener : Token) : Parse Element := do
  let token ← current
  match ← kindAt 0 with
  | .identifier =>
    skip
    return .name token.lexeme
  | .number | .quoted _ =>
    let value ← literalValue token
    skip
    return .literal value
  | .endOfInput => failSince (.unclosed .square) opener
  | _ => fail .invalidElement

/-- Reads a parameter: a name, a colon and the name of a type. -/
def parameter : Parse Parameter := do
  if (← kindAt 0) ≠ .identifier then fail .malformedParameter
  else
    let name ← take
    if (← kindAt 0) ≠ .colon then failSince .malformedParameter name
    else
      skip
      if (← kindAt 0) ≠ .identifier then failSince .malformedParameter name
      else
        let annotation ← take
        return { name := name.lexeme, annotation := some annotation.lexeme }

/-- Whether a parameter list begins at the cursor, and not an expression in parentheses. -/
def parametersAhead : Parse Bool := do
  -- a name before a comma cannot be a group, so it is a parameter that lacks its type
  match ← kindAt 1, ← kindAt 2 with
  | .closing .round, _ | .identifier, .colon | .identifier, .comma => return true
  | _, _ => return false

end Parse

end Kite
