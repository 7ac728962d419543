import Kite.Grammar.Terms

/-!
# The rules of the grammar

Scopes and primary expressions open a nesting level, and at most a given number of
levels may be open at once. The rules therefore speak of the scopes and primaries one
level further in, which come in a `Level`; `Level.within` closes the circle by recursion
on the number of levels that may still be opened.
-/

set_option autoImplicit false

namespace Kite

/-- The rules that open a nesting level. -/
structure Level where
  primary : Parse Expression
  scope : Parse (List Statement)

namespace Parse

/-- Reads an operator and its right operand, if an operator is next. -/
def operation (level : Level) : Parse (Option (String × Expression)) := do
  match ← kindAt 0 with
  | .operator | .hyphen =>
    let operator ← take
    return some (operator.lexeme, ← level.primary)
  | _ => return none

/-- Reads an expression: primaries with operators between them, which group to the left. -/
def expression (level : Level) : Parse Expression := do
  let first ← level.primary
  let operations ← many (operation level)
  return operations.foldl (fun left (operator, right) => .binary left operator right) first

/-- Reads a bare scope or an expression. -/
def body (level : Level) : Parse Body := do
  if (← kindAt 0) = .opening .curly then return .scope (← level.scope)
  else return .expression (← expression level)

/-- Reads an argument of the call that `opener` opens. -/
def argument (level : Level) (opener : Token) : Parse Body := do
  if (← kindAt 0) = .endOfInput then failSince (.unclosed .round) opener else body level

/-- Reads a call: a name and its arguments in parentheses. -/
def call (level : Level) : Parse Expression := do
  let callee ← expect .identifier
  return .call callee.lexeme (← enclosed .round (argument level))

/-- Reads a function: its parameters in parentheses, an arrow and its body. -/
def function (level : Level) : Parse Expression := do
  let parameters ← enclosed .round fun _ => parameter
  if (← kindAt 0) ≠ .arrow then fail .expectedArrow
  else
    skip
    return .function parameters (← body level)

/-- Reads an expression in parentheses. An arrow after it shows that it was meant as a parameter
without a type. -/
def group (level : Level) : Parse Expression := do
  let opener ← take
  let inner ← expression level
  close .round opener
  if (← kindAt 0) = .arrow then failSince .malformedParameter opener else return inner

/-- Reads a primary expression; `level` is the level inside it. -/
def primary (level : Level) : Parse Expression := do
  match ← kindAt 0 with
  | .opening .round => if ← parametersAhead then function level else group level
  | .identifier => if (← kindAt 1) = .opening .round then call level else name
  | .number | .quoted _ => literal
  | .opening .curly => return .scope (← level.scope)
  | .opening .square => return .array (← enclosed .square element)
  | _ => fail .unrecognizedPrimary

/-- Reads an assignment: a name, a colon and an expression. -/
def assignment (level : Level) : Parse Statement := do
  let target ← expect .identifier
  let _ ← expect .colon
  return .assignment target.lexeme (← expression level)

/-- Reads a statement without the semicolon after it. -/
def bareStatement (level : Level) : Parse Statement := do
  match ← kindAt 0 with
  | .opening .curly => return .scope (← level.scope)
  | .identifier =>
    if (← kindAt 1) = .colon then assignment level else return .expression (← expression level)
  | .opening .round | .number | .quoted _ => return .expression (← expression level)
  | _ => fail .unrecognizedStatement

/-- Reads a statement and a semicolon after it, if there is one. A semicolon alone is the empty
statement, which is `none`. -/
def statement (level : Level) : Parse (Option Statement) := do
  if ← accept .semicolon then return none
  else
    let statement ← bareStatement level
    let _ ← accept .semicolon
    return some statement

/-- Reads the statements before a token that ends them; `ended` tells whether it is next. -/
def statementsUntil (level : Level) (ended : Parse Bool) : Parse (List Statement) := do
  let statements ← many do
    if ← ended then return none else return some (← statement level)
  return statements.filterMap id

/-- Whether the scope that `opener` opens ends here. -/
def scopeEnds (opener : Token) : Parse Bool := do
  match ← kindAt 0 with
  | .closing .curly => return true
  | .endOfInput => failSince (.unclosed .curly) opener
  | _ => return false

/-- Reads a scope; `level` is the level inside it. -/
def scope (level : Level) : Parse (List Statement) := do
  let opener ← expect (.opening .curly)
  let statements ← statementsUntil level (scopeEnds opener)
  skip
  return statements

/-- Reads statements to the end of the input and marks the end. -/
def program (level : Level) : Parse (List Statement) := do
  let statements ← statementsUntil level (return (← kindAt 0) = .endOfInput)
  return statements ++ [.endOfInput]

end Parse

/-- The rules where the given number of levels may still be opened. -/
def Level.within : Nat → Level
  | 0 => { primary := Parse.fail .nestingTooDeep, scope := Parse.fail .nestingTooDeep }
  | levels + 1 =>
    { primary := Parse.primary (Level.within levels), scope := Parse.scope (Level.within levels) }

/-- How many levels may be open at once. -/
def nestingLimit : Nat := 128

end Kite
