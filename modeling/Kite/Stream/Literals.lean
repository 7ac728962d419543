import Kite.Token

/-!
# Joining the tokens of quoted literals

In the raw stream a quoted literal is a run of tokens: its delimiters and its content.
`joinLiterals` makes one token of each run and takes the delimiters off. A literal
begins at a token of a quoted kind and ends at the next token of the same kind, and
every token in between belongs to it whatever its own kind.
-/

set_option autoImplicit false

namespace Kite.Stream

/-- Joins the tokens of each literal, delimiters included. The first argument is the literal that
is being joined. -/
def gatherLiterals : Option Token → List Token → List Token
  | none, [] => []
  | some literal, [] => [literal]
  | none, token :: tokens =>
    if token.kind.isQuoted then
      -- the joined token stands for the whole literal, so it lies in no other one
      gatherLiterals (some { token with internal := false }) tokens
    else token :: gatherLiterals none tokens
  | some literal, token :: tokens =>
    let longer := { literal with lexeme := literal.lexeme ++ token.lexeme }
    if token.kind = literal.kind then longer :: gatherLiterals none tokens
    else gatherLiterals (some longer) tokens

/-- Takes the delimiters off a gathered literal. A literal of a single character has no closing
delimiter and vanishes; tokens of other kinds stay as they are. -/
def stripDelimiters? (token : Token) : Option Token :=
  if token.kind.isQuoted then
    if token.lexeme.length = 1 then none
    else some { token with lexeme := String.ofList token.lexeme.toList.tail.dropLast }
  else some token

/-- Makes one token of each quoted literal and takes its delimiters off. -/
def joinLiterals (tokens : List Token) : List Token :=
  (gatherLiterals none tokens).filterMap stripDelimiters?

/-- The opening token of the literal that is still open after the given tokens. -/
def openLiteral? (tokens : List Token) : Option Token :=
  tokens.foldl (fun opening? token =>
    match opening? with
    | none => if token.kind.isQuoted then some token else none
    | some opening => if token.kind = opening.kind then none else some opening) none

end Kite.Stream
