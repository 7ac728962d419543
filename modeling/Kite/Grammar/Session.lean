import Kite.Grammar.Rules

/-!
# Reading request by request

A token sequence can be read as a whole program, or request by request: each request
names a rule and reads from where the one before it stopped, whether that succeeded or
failed. Every request starts with all nesting levels free.
-/

set_option autoImplicit false

namespace Kite

/-- A rule that a caller may ask for. -/
inductive Request where
  | program
  | statement
  | expression
  | scope
  deriving DecidableEq, Repr

/-- What a request reads. -/
inductive Answer where
  | program (statements : List Statement)
  /-- A statement; the empty statement is `none`. -/
  | statement (statement : Option Statement)
  | expression (expression : Expression)
  | scope (statements : List Statement)

namespace Request

/-- The action of a request where the rules of `level` may be used. -/
def action (level : Level) : Request → Parse Answer
  | .program => return .program (← Parse.program level)
  | .statement => return .statement (← Parse.statement level)
  | .expression => return .expression (← Parse.expression level)
  | .scope => return .scope (← level.scope)

/-- Answers a request with at most `limit` levels open at once. -/
def runWithin (limit : Nat) (request : Request) (cursor : Cursor) :
    Except GrammarError Answer × Cursor :=
  match request.action (Level.within limit) cursor with
  | .ok answer cursor => (.ok answer, cursor)
  | .error error cursor => (.error error, cursor)

/-- Answers a request. -/
def run (request : Request) (cursor : Cursor) : Except GrammarError Answer × Cursor :=
  request.runWithin nestingLimit cursor

/-- Answers requests one after the other. -/
def runAll : List Request → Cursor → List (Except GrammarError Answer) × Cursor
  | [], cursor => ([], cursor)
  | request :: requests, cursor =>
    let (answer, cursor) := request.run cursor
    let (answers, cursor) := runAll requests cursor
    (answer :: answers, cursor)

end Request

/-- The program that a token sequence spells. -/
def parseTokens (tokens : List Token) : Except GrammarError (List Statement) :=
  match Parse.program (Level.within nestingLimit) (Cursor.ofTokens tokens) with
  | .ok statements _ => .ok statements
  | .error error _ => .error error

end Kite
