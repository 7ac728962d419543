import Kite.Program

/-!
# The journal of a run

Each stage on the way from a source text to a program can be run so that it notes what
happened. The notes come in the order in which the stages ran. A stage answers the same
with and without its notes, as `run_lex_fst` and `run_parseSource_fst` say.
-/

set_option autoImplicit false

namespace Kite

/-- How much detail a note belongs to. -/
inductive Event.Severity where
  | debug
  | trace
  deriving DecidableEq, Repr

/-- Something that a stage notes. -/
inductive Event where
  /-- The reading of a source text begins. -/
  | sourceEntered (bytes : Nat)
  /-- A text was cut into tokens, the end token among them. -/
  | scanned (tokens : Nat)
  /-- The tokens ended inside a quoted literal. -/
  | literalLeftOpen (opening : Position)
  /-- Tokens were tidied. -/
  | tidied (raw remaining : Nat)
  /-- A program was read, its end mark among the statements. -/
  | programParsed (statements : Nat)
  | lexingFailed (error : LexicalError)
  | parsingFailed (error : GrammarError)
  | sourceParsed (tokens statements : Nat)
  deriving DecidableEq, Repr

namespace Event

/-- The severity of an event. -/
def severity : Event → Severity
  | .scanned _ | .literalLeftOpen _ | .tidied _ _ | .programParsed _ => .trace
  | .sourceEntered _ | .lexingFailed _ | .parsingFailed _ | .sourceParsed _ _ => .debug

/-- What an event says; the beginning of a reading says nothing. -/
def message? : Event → Option String
  | .sourceEntered _ => none
  | .scanned _ => some "scanned source"
  | .literalLeftOpen _ => some "literal left open at end of token stream"
  | .tidied _ _ => some "normalized token stream"
  | .programParsed _ => some "parsed program"
  | .lexingFailed _ => some "lexing failed"
  | .parsingFailed _ => some "parsing failed"
  | .sourceParsed _ _ => some "parsed source"

/-- The particulars of an event, by name. -/
def details : Event → List (String × String)
  | .sourceEntered bytes => [("len", toString bytes)]
  | .scanned tokens => [("tokens", toString tokens)]
  | .literalLeftOpen opening =>
    [("line", toString opening.line), ("column", toString opening.column)]
  | .tidied raw remaining => [("raw", toString raw), ("normalized", toString remaining)]
  | .programParsed statements => [("statements", toString statements)]
  | .lexingFailed error => [("err", toString error)]
  | .parsingFailed error => [("err", toString error)]
  | .sourceParsed tokens statements =>
    [("tokens", toString tokens), ("statements", toString statements)]

end Event

/-- A computation that notes events. -/
abbrev Journal := StateM (List Event)

namespace Journal

/-- Notes an event after those noted before. -/
def note (event : Event) : Journal Unit :=
  modify (· ++ [event])

/-- The answer of a computation and the events that it noted. -/
def recorded {α : Type} (computation : Journal α) : α × List Event :=
  computation.run []

/-- Cuts a text into tokens. -/
def tokenize (lexicon : Lexicon) (text : String) : Journal (Except LexicalError (List Token)) := do
  let result := Kite.tokenize lexicon text
  if let .ok tokens := result then note (.scanned tokens.length)
  return result

/-- Joins literals. -/
def joinLiterals (tokens : List Token) : Journal (List Token) := do
  if let some opening := Stream.openLiteral? tokens then note (.literalLeftOpen opening.position)
  return Stream.joinLiterals tokens

/-- Tidies tokens. -/
def tidy (lexicon : Lexicon) (tokens : List Token) : Journal (List Token) := do
  let joined ← joinLiterals tokens
  let tidied := Stream.dropBlanks (Stream.joinOperators lexicon joined)
  note (.tidied tokens.length tidied.length)
  return tidied

/-- Cuts a text into tokens and tidies them. -/
def lex (lexicon : Lexicon) (text : String) : Journal (Except LexicalError (List Token)) := do
  match ← tokenize lexicon text with
  | .error error => return .error error
  | .ok tokens => return .ok (← tidy lexicon tokens)

/-- Answers a request. -/
def answer (request : Request) (cursor : Cursor) :
    Journal (Except GrammarError Answer × Cursor) := do
  let result := request.run cursor
  if let .ok (.program statements) := result.1 then note (.programParsed statements.length)
  return result

/-- Answers requests one after the other. -/
def answerAll : List Request → Cursor → Journal (List (Except GrammarError Answer) × Cursor)
  | [], cursor => return ([], cursor)
  | request :: requests, cursor => do
    let (first, cursor) ← answer request cursor
    let (others, cursor) ← answerAll requests cursor
    return (first :: others, cursor)

/-- Reads the program that tokens spell. -/
def parseTokens (tokens : List Token) : Journal (Except GrammarError (List Statement)) := do
  let result := Kite.parseTokens tokens
  if let .ok statements := result then note (.programParsed statements.length)
  return result

/-- Reads the program that a source text spells, noting only what its stages note. -/
def parseQuietly (lexicon : Lexicon) (text : String) :
    Journal (Except SourceError (List Statement)) := do
  match ← lex lexicon text with
  | .error error => return .error (.lexical error)
  | .ok tokens => return (← parseTokens tokens).mapError .grammatical

/-- Reads the program that a source text spells, and notes the beginning and the outcome too. -/
def parseSource (lexicon : Lexicon) (text : String) :
    Journal (Except SourceError (List Statement)) := do
  note (.sourceEntered text.utf8ByteSize)
  match ← lex lexicon text with
  | .error error =>
    note (.lexingFailed error)
    return .error (.lexical error)
  | .ok tokens =>
    match ← parseTokens tokens with
    | .error error =>
      note (.parsingFailed error)
      return .error (.grammatical error)
    | .ok statements =>
      note (.sourceParsed tokens.length statements.length)
      return .ok statements

/-- A computation that goes on from an answer sees the answer and the notes so far. -/
theorem run_bind_fst {α β : Type} {first : Journal α} {answer : α} {events : List Event}
    (answered : (first.run events).fst = answer) (next : α → Journal β) :
    ((first >>= next).run events).fst = ((next answer).run (first.run events).snd).fst := by
  subst answered
  rfl

theorem run_tokenize_fst (lexicon : Lexicon) (text : String) (events : List Event) :
    ((tokenize lexicon text).run events).fst = Kite.tokenize lexicon text := by
  unfold tokenize
  cases Kite.tokenize lexicon text <;> rfl

theorem run_tidy_fst (lexicon : Lexicon) (tokens : List Token) (events : List Event) :
    ((tidy lexicon tokens).run events).fst = Stream.tidy lexicon tokens := by
  unfold tidy joinLiterals
  cases Stream.openLiteral? tokens <;> rfl

theorem run_lex_fst (lexicon : Lexicon) (text : String) (events : List Event) :
    ((lex lexicon text).run events).fst = Kite.lex lexicon text := by
  unfold lex Kite.lex
  rw [run_bind_fst (run_tokenize_fst lexicon text events)]
  cases Kite.tokenize lexicon text with
  | error error => rfl
  | ok tokens =>
    change (((tidy lexicon tokens) >>= _).run _).fst = _
    rw [run_bind_fst (run_tidy_fst lexicon tokens _)]
    rfl

theorem run_parseTokens_fst (tokens : List Token) (events : List Event) :
    ((parseTokens tokens).run events).fst = Kite.parseTokens tokens := by
  unfold parseTokens
  cases Kite.parseTokens tokens <;> rfl

/-- Reading a source text answers the same with its notes as without them. -/
theorem run_parseSource_fst (lexicon : Lexicon) (text : String) (events : List Event) :
    ((parseSource lexicon text).run events).fst = Kite.parseSource lexicon text := by
  unfold parseSource Kite.parseSource
  rw [run_bind_fst rfl, run_bind_fst (run_lex_fst lexicon text _)]
  cases Kite.lex lexicon text with
  | error error => rfl
  | ok tokens =>
    change ((parseTokens tokens >>= _).run _).fst = (Kite.parseTokens tokens).mapError _
    rw [run_bind_fst (run_parseTokens_fst tokens _)]
    cases Kite.parseTokens tokens <;> rfl

/-- Reading a source text answers the same whether or not its outcome is noted. -/
theorem run_parseQuietly_fst (lexicon : Lexicon) (text : String) (events : List Event) :
    ((parseQuietly lexicon text).run events).fst = Kite.parseSource lexicon text := by
  unfold parseQuietly Kite.parseSource
  rw [run_bind_fst (run_lex_fst lexicon text events)]
  cases Kite.lex lexicon text with
  | error error => rfl
  | ok tokens =>
    change ((parseTokens tokens >>= _).run _).fst = (Kite.parseTokens tokens).mapError _
    rw [run_bind_fst (run_parseTokens_fst tokens _)]
    rfl

end Journal

end Kite
