import Kite.Proofs.Grammar.Likeness

/-!
# Two token sequences that read the same

Of a token the parser reads the kind and the text (`Token.reading`). Its place and its flags
go into errors at most. So on two sequences that agree in what is read at every index,
the same requests get the same answers one by one, where the tokens of an error stand at
the same indices of both (`Request.runAll_of_reading`). The relation of tokens that `Alike`
carries through the parser is here that of the tokens at one index (`SharePlace`).
-/

set_option autoImplicit false

namespace Kite

/-! ## Requests before alike cursors -/

/-- Answers that are the same value, or errors of the same cause with alike tokens. -/
inductive Answer.Alike (alike : Token → Token → Prop) :
    Except GrammarError Answer → Except GrammarError Answer → Prop where
  | ok (answer : Answer) : Answer.Alike alike (.ok answer) (.ok answer)
  | error {error other : GrammarError} (errors : error.Alike alike other) :
      Answer.Alike alike (.error error) (.error other)

namespace Request

variable {alike : Token → Token → Prop} {cursor other : Cursor}

theorem alike_action (likeness : Token.Likeness alike) {level : Level}
    (inner : level.Alike alike) (request : Request) :
    Parse.Alike alike Eq (request.action level) (request.action level) := by
  cases request with
  | program => exact (Parse.alike_program likeness inner).map Answer.program
  | statement => exact (Parse.alike_statement likeness inner).map Answer.statement
  | expression => exact (Parse.alike_expression likeness inner).map Answer.expression
  | scope => exact inner.scope.map Answer.scope

/-- A request is answered alike before alike cursors, and it leaves them alike. -/
theorem alike_run (likeness : Token.Likeness alike) (request : Request)
    (cursors : cursor.Alike alike other) :
    Answer.Alike alike (request.run cursor).1 (request.run other).1 ∧
      (request.run cursor).2.Alike alike (request.run other).2 := by
  have results := alike_action likeness (Level.alike_within likeness nestingLimit) request
    cursor other cursors
  unfold run runWithin
  simp only [EStateM.run] at results
  generalize request.action (Level.within nestingLimit) cursor = result at results
  generalize request.action (Level.within nestingLimit) other = result' at results
  cases results with
  | ok same after =>
    obtain rfl := same
    exact ⟨.ok _, after⟩
  | error errors after => exact ⟨.error errors, after⟩

theorem alike_runAll (likeness : Token.Likeness alike) (requests : List Request)
    (cursors : cursor.Alike alike other) :
    List.Forall₂ (Answer.Alike alike) (runAll requests cursor).1 (runAll requests other).1 := by
  induction requests generalizing cursor other with
  | nil => exact .nil
  | cons request requests ih =>
    obtain ⟨answers, after⟩ := alike_run likeness request cursors
    exact .cons answers (ih after)

end Request

/-! ## Tokens at the same index -/

/-- What the parser reads of a token. -/
def Token.reading (token : Token) : Kind × String :=
  (token.kind, token.lexeme)

/-- Tokens that stand at the same index of two sequences, or that are put behind sequences without an
end token to end them. -/
inductive SharePlace (tokens others : List Token) : Token → Token → Prop where
  | index {index : Nat} {token other : Token} (left : tokens[index]? = some token)
      (right : others[index]? = some other) : SharePlace tokens others token other
  | missing (left : ∀ token ∈ tokens, token.kind ≠ .endOfInput)
      (right : ∀ token ∈ others, token.kind ≠ .endOfInput) : SharePlace tokens others
        (Cursor.missingStop (tokens.filter fun token => token.kind ≠ .comment))
        (Cursor.missingStop (others.filter fun token => token.kind ≠ .comment))

section Places

variable {tokens others : List Token}

theorem SharePlace.reading_eq (same : tokens.map Token.reading = others.map Token.reading)
    {token other : Token} (place : SharePlace tokens others token other) :
    token.reading = other.reading := by
  cases place with
  | @index index _ _ left right =>
    have readings : (tokens.map Token.reading)[index]? = (others.map Token.reading)[index]? := by
      rw [same]
    simpa [List.getElem?_map, left, right] using readings
  | missing => rfl

theorem SharePlace.likeness (same : tokens.map Token.reading = others.map Token.reading) :
    Token.Likeness (SharePlace tokens others) where
  kind place := congrArg Prod.fst (place.reading_eq same)
  lexeme place := congrArg Prod.snd (place.reading_eq same)

theorem SharePlace.forall₂ (length : tokens.length = others.length) :
    List.Forall₂ (SharePlace tokens others) tokens others := by
  apply List.forall₂_iff_get.mpr
  refine ⟨length, fun index left right => ?_⟩
  exact .index (List.getElem?_eq_getElem left) (List.getElem?_eq_getElem right)

theorem SharePlace.alike_ofTokens (same : tokens.map Token.reading = others.map Token.reading) :
    (Cursor.ofTokens tokens).Alike (SharePlace tokens others) (Cursor.ofTokens others) := by
  have length : tokens.length = others.length := by
    simpa using congrArg List.length same
  refine Cursor.alike_ofTokens (likeness same) (forall₂ length) fun plain => .missing plain ?_
  intro other member ended
  obtain ⟨token, listed, kind⟩ : ∃ token ∈ tokens, token.kind = other.kind := by
    have read : other.reading ∈ tokens.map Token.reading :=
      same ▸ List.mem_map.mpr ⟨other, member, rfl⟩
    obtain ⟨token, listed, reading⟩ := List.mem_map.mp read
    exact ⟨token, listed, congrArg Prod.fst reading⟩
  exact plain token listed (kind.trans ended)

end Places

/-- Requests get the same answers on sequences that agree in the kinds and the texts of their tokens:
the same values, or errors of the same cause whose tokens stand at the same indices. -/
theorem Request.runAll_of_reading {tokens others : List Token}
    (same : tokens.map Token.reading = others.map Token.reading) (requests : List Request) :
    List.Forall₂ (Answer.Alike (SharePlace tokens others))
      (runAll requests (.ofTokens tokens)).1 (runAll requests (.ofTokens others)).1 :=
  alike_runAll (SharePlace.likeness same) requests (SharePlace.alike_ofTokens same)

/-- A call, and then a bracket that begins no expression; in the second sequence the tokens stand
elsewhere and bear flags. -/
theorem Request.runAll_of_reading_call :
    let texts : List (Kind × String) := [(.identifier, "f"), (.opening .round, "("),
      (.closing .round, ")"), (.semicolon, ";"), (.closing .round, ")")]
    let tokens := texts.map fun (kind, lexeme) => ({ kind, lexeme, position := .start } : Token)
    let others := texts.map fun (kind, lexeme) =>
      ({ kind, lexeme, position := ⟨2, 7⟩, closed := some false, internal := true } : Token)
    tokens.map Token.reading = others.map Token.reading ∧
      (runAll [.statement, .expression] (.ofTokens tokens)).1 =
        [.ok (.statement (some (.expression (.call "f" [])))),
          .error { cause := .unrecognizedPrimary, tokens := tokens.drop 4 }] ∧
      List.Forall₂ (Answer.Alike (SharePlace tokens others))
        (runAll [.statement, .expression] (.ofTokens tokens)).1
        (runAll [.statement, .expression] (.ofTokens others)).1 := by
  intro texts tokens others
  have same : tokens.map Token.reading = others.map Token.reading := rfl
  exact ⟨same, rfl, Request.runAll_of_reading same _⟩

end Kite
