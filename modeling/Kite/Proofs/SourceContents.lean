import Kite.Proofs.Concatenation
import Kite.Proofs.Grammar.Explanations
import Kite.Proofs.Grammar.Provenance
import Kite.Proofs.Stream.Lexemes
import Kite.Proofs.SyntaxTree.OperatorForm

/-!
# What a source text can spell

What stands in a program comes from the tokens of its source text, and these spell what the
scanner takes. So the operators of a program are told from its names by their first
character, and the call form of a program tells which program it was
(`parseSource_callForms_inj`). And where the lexicon keeps the kind of numbers for the
scanner, every number has a value, which is not negative (`parseSource_numbers`).
-/

set_option autoImplicit false

namespace Kite

theorem parseSource_eq_ok_iff {lexicon : Lexicon} {text : String} {program : List Statement} :
    parseSource lexicon text = .ok program ↔
      ∃ tokens, lex lexicon text = .ok tokens ∧ parseTokens tokens = .ok program := by
  rw [parseSource_eq_of_lex]
  cases lex lexicon text with
  | error error => simp
  | ok tokens => cases parsed : parseTokens tokens <;> simp [parsed, Except.mapError]

theorem parseSource_eq_grammatical_iff {lexicon : Lexicon} {text : String} {error : GrammarError} :
    parseSource lexicon text = .error (.grammatical error) ↔
      ∃ tokens, lex lexicon text = .ok tokens ∧ parseTokens tokens = .error error := by
  rw [parseSource_eq_of_lex]
  cases lex lexicon text with
  | error error => simp
  | ok tokens => cases parsed : parseTokens tokens <;> simp [parsed, Except.mapError]

/-! ## Names and operators -/

theorem Token.provides_of_lex_standard {text : String} {tokens : List Token}
    (lexed : lex .standard text = .ok tokens) :
    ∀ token ∈ tokens, token.Provides (.toldApart isWord) :=
  fun _ member => {
    name := isWord_of_lex lexed member
    operator := not_isWord_of_lex lexed member
    literal := fun _ _ => trivial }

theorem toldApart_of_parseSource {text : String} {program : List Statement}
    (parsed : parseSource .standard text = .ok program) :
    Statement.AllMeet (.toldApart isWord) program := by
  obtain ⟨tokens, lexed, read⟩ := parseSource_eq_ok_iff.mp parsed
  exact allMeet_of_parseTokens read (Token.provides_of_lex_standard lexed)

/-- Source texts under the standard lexicon whose programs have the same call form have the same
program: no operator that is written as a call is confused with a real one. -/
theorem parseSource_callForms_inj {first second : String} {program other : List Statement}
    (parsed : parseSource .standard first = .ok program)
    (parsedOther : parseSource .standard second = .ok other)
    (same : Statement.callForms program = Statement.callForms other) : program = other :=
  Statement.callForms_inj_of_allMeet (toldApart_of_parseSource parsed)
    (toldApart_of_parseSource parsedOther) same

/-- An operator between calls, once with and once without brackets around its operand. -/
theorem parseSource_callForms_inj_grouped :
    let program : List Statement :=
      [.expression (.binary (.call "f" [.expression (.name "a")]) "<=" (.name "b")), .endOfInput]
    parseSource .standard "f(a) <= b" = .ok program ∧
      ∀ other, parseSource .standard "(f(a))<=b;" = .ok other →
        Statement.callForms program = Statement.callForms other → program = other := by
  intro program
  have parsed : parseSource .standard "f(a) <= b" = .ok program := rfl
  exact ⟨parsed, fun other parsedOther => parseSource_callForms_inj parsed parsedOther⟩

/-! ## Numbers -/

/-- Literals among which every number is a number that is not negative. -/
def Contents.nonnegative : Contents where
  name _ := True
  operator _ := True
  literal value := ∀ number, value = .number number →
    ∃ magnitude, number = .signed false magnitude

variable {lexicon : Lexicon}

theorem Literal.exists_ofToken? {text : String} {tokens : List Token}
    (reserves : lexicon.ReservesNumber) (lexed : lex lexicon text = .ok tokens) {token : Token}
    (member : token ∈ tokens) (kind : token.kind = .number) :
    ∃ magnitude, Literal.ofToken? token = some (.number (.signed false magnitude)) := by
  obtain ⟨magnitude, value⟩ :=
    Binary64.exists_ofNumeral? (numberText_of_lex reserves lexed member kind)
  exact ⟨magnitude, by simp [Literal.ofToken?, kind, value]⟩

theorem Token.provides_nonnegative {text : String} {tokens : List Token}
    (reserves : lexicon.ReservesNumber) (lexed : lex lexicon text = .ok tokens) :
    ∀ token ∈ tokens, token.Provides .nonnegative := by
  refine fun token member => ⟨fun _ => trivial, fun _ => trivial, ?_⟩
  rintro _ spelled number rfl
  have kind : token.kind = .number := by
    unfold Literal.ofToken? at spelled
    split at spelled <;> simp_all
  obtain ⟨magnitude, value⟩ := Literal.exists_ofToken? reserves lexed member kind
  rw [value] at spelled
  obtain rfl := Literal.number.inj (Option.some.inj spelled)
  exact ⟨magnitude, rfl⟩

/-- A literal token of a source text has a value. -/
theorem Literal.ofToken?_ne_none {text : String} {tokens : List Token}
    (reserves : lexicon.ReservesNumber) (lexed : lex lexicon text = .ok tokens) {token : Token}
    (member : token ∈ tokens) (kind : token.kind.isLiteral = true) :
    Literal.ofToken? token ≠ none := by
  cases isNumber : token.kind with
  | number =>
    obtain ⟨magnitude, value⟩ := Literal.exists_ofToken? reserves lexed member isNumber
    simp [value]
  | quoted style => simp [Literal.ofToken?, isNumber]
  | _ => simp [isNumber, Kind.isLiteral] at kind

/-- What has been passed or is under the cursor is one of the tokens that are read, unless it is the
end token. -/
theorem Cursor.Passes.mem_tokens {tokens passed : List Token} {after : Cursor} {token : Token}
    (passes : (Cursor.ofTokens tokens).Passes passed after)
    (member : token ∈ passed ++ [after.token]) (notEnd : token.kind ≠ .endOfInput) :
    token ∈ tokens := by
  refine (Cursor.rest_sublist tokens).subset ?_
  rw [passes.rest]
  rcases List.mem_append.mp member with earlier | last
  · exact List.mem_append_left _ earlier
  · obtain rfl := List.mem_singleton.mp last
    refine List.mem_append_right _ ?_
    have ends : after.stop.kind = .endOfInput := passes.stop ▸ (Cursor.standsAt_ofTokens tokens).ends
    obtain ⟨rest, stop⟩ := after
    cases rest with
    | nil => exact absurd ends notEnd
    | cons first rest => exact List.mem_cons_self

theorem invalidNumber_ne_of_lex {text : String} {tokens : List Token} {error : GrammarError}
    (reserves : lexicon.ReservesNumber) (lexed : lex lexicon text = .ok tokens)
    (refused : parseTokens tokens = .error error) : error.cause ≠ .invalidNumber := by
  obtain ⟨passed, after, passes, refusal⟩ := refusal_of_parseTokens refused
  cases refusal with
  | @number token member kind valueless =>
    have notEnd : token.kind ≠ .endOfInput := by
      intro ended
      simp [ended, Kind.isLiteral] at kind
    have listed := passes.mem_tokens member notEnd
    exact absurd valueless (Literal.ofToken?_ne_none reserves lexed listed kind)
  | _ => simp

/-- Under an extension of the standard lexicon without the kind of numbers, no text is refused because
of a number, and every number in a program is a number that is not negative. -/
theorem parseSource_numbers {entries : List Lexicon.Entry}
    (words : ∀ text, .word text .number ∉ entries)
    (punctuation : ∀ c, .punctuation c .number ∉ entries)
    (quotes : ∀ c, .quote c .number ∉ entries) (text : String) :
    (∀ error, parseSource (Lexicon.standard.extend entries) text = .error (.grammatical error) →
        error.cause ≠ .invalidNumber) ∧
      ∀ program, parseSource (Lexicon.standard.extend entries) text = .ok program →
        Statement.AllMeet .nonnegative program := by
  have reserves := Lexicon.reservesNumber_standard.extend words punctuation quotes
  constructor
  · intro error refused
    obtain ⟨tokens, lexed, failed⟩ := parseSource_eq_grammatical_iff.mp refused
    exact invalidNumber_ne_of_lex reserves lexed failed
  · intro program parsed
    obtain ⟨tokens, lexed, read⟩ := parseSource_eq_ok_iff.mp parsed
    exact allMeet_of_parseTokens read (Token.provides_nonnegative reserves lexed)

/-- Numbers with a point at either end, under a lexicon with a keyword and a new delimiter. -/
theorem parseSource_numbers_points :
    let entries := [Lexicon.Entry.word "is" .colon, .quote '|' (.quoted .string)]
    (∀ text, Lexicon.Entry.word text .number ∉ entries) ∧
      (∀ c, Lexicon.Entry.punctuation c .number ∉ entries) ∧
      (∀ c, Lexicon.Entry.quote c .number ∉ entries) ∧
      ∃ program, parseSource (Lexicon.standard.extend entries) "x is f([.5, 1.])-007" =
          .ok program ∧ Statement.AllMeet .nonnegative program := by
  intro entries
  have words : ∀ text, Lexicon.Entry.word text .number ∉ entries := by simp [entries]
  have punctuation : ∀ c, Lexicon.Entry.punctuation c .number ∉ entries := by simp [entries]
  have quotes : ∀ c, Lexicon.Entry.quote c .number ∉ entries := by simp [entries]
  have accepted :
      (parseSource (Lexicon.standard.extend entries) "x is f([.5, 1.])-007").isOk = true := by
    decide +kernel
  cases parsed : parseSource (Lexicon.standard.extend entries) "x is f([.5, 1.])-007" with
  | error error =>
    rw [parsed] at accepted
    exact Bool.noConfusion accepted
  | ok program =>
    exact ⟨words, punctuation, quotes, program, rfl,
      (parseSource_numbers words punctuation quotes _).2 program parsed⟩

end Kite
