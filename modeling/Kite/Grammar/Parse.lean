import Kite.Grammar.Cursor
import Kite.GrammarError

/-!
# Parsing actions

A parsing action reads tokens from a cursor and answers a value or an error; the cursor
is left where the action stopped, after an error too. Actions decide by the kind of the
token under the cursor and of the two tokens after it, and they never go back.
-/

set_option autoImplicit false

namespace Kite

/-- An action that reads tokens and may fail. -/
abbrev Parse := EStateM GrammarError Cursor

namespace Parse

variable {α : Type}

/-- The token under the cursor. -/
def current : Parse Token := fun cursor => .ok cursor.token cursor

/-- The kind of the token that stands `distance` tokens ahead. -/
def kindAt (distance : Nat) : Parse Kind := fun cursor => .ok (cursor.kindAt distance) cursor

/-- Reads the token under the cursor. -/
def take : Parse Token := fun cursor => .ok cursor.token cursor.next

/-- Passes over the token under the cursor. -/
def skip : Parse Unit := fun cursor => .ok () cursor.next

/-- Fails because of the given tokens. -/
def failWith (cause : GrammarError.Cause) (tokens : List Token) : Parse α := fun cursor =>
  .error { cause, tokens } cursor

/-- Fails because of the token under the cursor. -/
def fail (cause : GrammarError.Cause) : Parse α := fun cursor =>
  failWith cause [cursor.token] cursor

/-- Fails because of the token under the cursor and an earlier one that explains it. -/
def failSince (cause : GrammarError.Cause) (earlier : Token) : Parse α := fun cursor =>
  failWith cause [cursor.token, earlier] cursor

/-- Reads the token under the cursor if it is of the given kind, and answers whether it was. -/
def accept (kind : Kind) : Parse Bool := do
  if (← kindAt 0) = kind then
    skip
    return true
  else return false

/-- Reads a token of the given kind. -/
def expect (kind : Kind) : Parse Token := do
  if (← kindAt 0) = kind then take else fail (.expected kind)

/-- Reads the bracket that closes `opener`. -/
def close (shape : Bracket) (opener : Token) : Parse Unit := do
  let kind ← kindAt 0
  if kind = .closing shape then skip
  else if kind = .endOfInput then failSince (.unclosed shape) opener
  else failSince (.expected (.closing shape)) opener

/-- Repeats an action until it answers `none`, one round at most for each token of `rounds`. -/
def manyWithin (item : Parse (Option α)) : (rounds : List Token) → Parse (List α)
  | [] => pure []
  | _ :: rounds => do
    match ← item with
    | none => return []
    | some value => return value :: (← manyWithin item rounds)

/-- Repeats an action until it answers `none`. The action has to read a token whenever it answers
`some`, so there are at most as many rounds as tokens, the end token included. -/
def many (item : Parse (Option α)) : Parse (List α) := fun cursor =>
  manyWithin item (cursor.stop :: cursor.rest) cursor

/-- Reads one or more items with commas between them. -/
def separated (item : Parse α) : Parse (List α) := do
  let first ← item
  let others ← many do
    if ← accept .comma then return some (← item) else return none
  return first :: others

/-- Reads a bracket, items with commas between them if there are any, and the closing bracket. An
item may refer to the opening bracket. -/
def enclosed (shape : Bracket) (item : Token → Parse α) : Parse (List α) := do
  let opener ← expect (.opening shape)
  let items ← if (← kindAt 0) = .closing shape then pure [] else separated (item opener)
  close shape opener
  return items

end Parse

end Kite
