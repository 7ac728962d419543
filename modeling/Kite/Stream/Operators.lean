import Kite.Lexicon
import Kite.Token

/-!
# Joining the pieces of operators

Any run of operator characters is an operator, but the scanner only knows the compound
ones. `joinOperators` makes one token of each run of pieces that touch each other. A
hyphen that touches a lone compound operator stays apart, so that `a==-1` compares `a`
with a negative number.
-/

set_option autoImplicit false

namespace Kite.Stream

/-- Whether a token may be part of an operator: operators, hyphens, and characters outside
literals that the lexicon lets into operators. -/
def isOperatorPiece (lexicon : Lexicon) (token : Token) : Bool :=
  match token.kind with
  | .operator | .hyphen => true
  | .unknown => !token.internal && lexicon.isOperatorText token.lexeme
  | _ => false

/-- Whether a piece continues the run before it, given latest piece first: the latest piece must
touch it, and a hyphen does not continue a lone operator. -/
def continuesRun (run : List Token) (piece : Token) : Bool :=
  match run with
  | [] => false
  | [only] =>
    -- the scanner makes an operator token of compound operators only
    only.isGlued && !(piece.kind = .hyphen && only.kind = .operator)
  | last :: _ => last.isGlued

/-- The operator that a run of pieces makes, given latest piece first. It stands where the run
begins and is closed if the run's end is; only a lone hyphen remains a hyphen. -/
def operatorOfRun (run : List Token) : List Token :=
  match run, run.reverse with
  | [only], _ => [{ only with kind := if only.kind = .hyphen then .hyphen else .operator }]
  | last :: _, first :: _ =>
    [{ first with
        kind := .operator
        lexeme := String.join (run.reverse.map Token.lexeme)
        closed := last.closed }]
  | _, _ => []

/-- Joins operator pieces, given the run of pieces just before the tokens, latest first. -/
def gatherOperators (lexicon : Lexicon) (run : List Token) : List Token → List Token
  | [] => operatorOfRun run
  | token :: tokens =>
    if isOperatorPiece lexicon token then
      if continuesRun run token then gatherOperators lexicon (token :: run) tokens
      else operatorOfRun run ++ gatherOperators lexicon [token] tokens
    else operatorOfRun run ++ token :: gatherOperators lexicon [] tokens

/-- Makes one operator of each run of operator pieces that touch each other. -/
def joinOperators (lexicon : Lexicon) (tokens : List Token) : List Token :=
  gatherOperators lexicon [] tokens

end Kite.Stream
