import Kite.Program
import Kite.Proofs.Grammar.Continuation
import Kite.Proofs.Grammar.Likeness
import Kite.Proofs.Scanning.Progress
import Kite.Proofs.Scanning.Separation
import Kite.Proofs.Stream.Ending
import Kite.Proofs.Stream.Relocation

/-!
# Programs one after the other

Two source texts with a semicolon on a line of its own between them spell the program of
the first text, followed by that of the second. If the second text is refused, then so is
the whole, for the same reason, so many lines further down (`parseSource_parted`). Nothing
passes from one text to the other: the newline ends what the scanner takes from the first
text (`Scan.ofText_parted`), the semicolon ends its last operator (`lex_parted`), and the
grammar reads the second text from the beginning (`parseTokens_append`).
-/

set_option autoImplicit false

namespace Kite

/-- The same error in a text that begins so many lines further down. -/
def LexicalError.lowered (error : LexicalError) (lines : Nat) : LexicalError :=
  { error with position := error.position.lowered lines }

/-- The same error about tokens so many lines further down. -/
def GrammarError.lowered (error : GrammarError) (lines : Nat) : GrammarError :=
  { error with tokens := error.tokens.map (Token.relocated (·.lowered lines)) }

/-- The same error so many lines further down. -/
def SourceError.lowered (error : SourceError) (lines : Nat) : SourceError :=
  match error with
  | .lexical error => .lexical (error.lowered lines)
  | .grammatical error => .grammatical (error.lowered lines)

/-! ## Scanning -/

namespace Scan

/-- The segments of a semicolon on a line of its own, with the newlines around it. -/
def separator : List Segment :=
  [.plain { kind := .whitespace, source := ['\n'] },
    .plain { kind := .semicolon, source := [';'] },
    .plain { kind := .whitespace, source := ['\n'] }]

theorem run_separator (text : List Char) :
    Run .standard ('\n' :: ';' :: '\n' :: text) separator text := by
  have newline : Lexicon.standard.isBlank '\n' = true := by decide
  have role : Lexicon.standard.punctuation? ';' = some .semicolon := by decide
  have unquoted : Segment.Unquoted .standard ';' ('\n' :: text) := by
    refine ⟨⟨by decide, by decide, ?_⟩, rfl, by decide⟩
    simp [Lexicon.compoundAt?, Lexicon.standard]
  have semicolon := Segment.Taken.punctuation unquoted role
  exact .step (.blank newline) (.step semicolon (.step (.blank newline) (.done text)))

/-- A text that is scanned to its end is scanned in the same way before a semicolon on a line of its
own, and behind that the scan goes on with the other text. -/
theorem ofText_parted {first : List Char} (finished : (ofText .standard first).failure = none)
    (second : List Char) :
    ofText .standard (first ++ '\n' :: ';' :: '\n' :: second) =
      { segments := (ofText .standard first).segments ++ separator ++
          (ofText .standard second).segments
        failure := (ofText .standard second).failure } := by
  have apart : Lexicon.standard.Separates '\n' :=
    Lexicon.separates_of_isBlank_standard (by decide)
  have run := ((run_ofText finished).append apart (fun _ _ _ => rfl) (';' :: '\n' :: second)).trans
    (run_separator second)
  have moves := Lexicon.not_stallsAtNewline_standard
  rw [ofText_of_run moves Lexicon.legible_standard.compound run]

/-- Up to its end or its failure, the scan covers the first text, the semicolon and what it covers
of the other text. -/
theorem source_parted {first : List Char} (finished : (ofText .standard first).failure = none)
    (second : List Char) :
    (ofText .standard (first ++ '\n' :: ';' :: '\n' :: second)).source =
      first ++ '\n' :: ';' :: '\n' :: (ofText .standard second).source := by
  have covers : (ofText .standard first).segments.flatMap Segment.source = first := by
    simpa using (run_ofText finished).source_append
  rw [ofText_parted finished]
  simp [Scan.source, separator, Segment.source, covers]

end Scan

/-! ## Tidy tokens -/

/-- What scanning a text leads to, if quote characters can be told from their kinds. -/
theorem lex_eq_of_scan {lexicon : Lexicon} (distinct : lexicon.DistinctQuotes) (text : String) :
    lex lexicon text =
      match (Scan.ofText lexicon text.toList).failure with
      | some cause =>
        .error { cause, position := .past .start (Scan.ofText lexicon text.toList).source }
      | none =>
        .ok (Stream.dropBlanks (Stream.joinOperators lexicon (Piece.place .start
            ((Scan.ofText lexicon text.toList).segments.map Segment.joined))) ++
          [Token.endOfInput (Position.behind text.toList)]) := by
  cases failure : (Scan.ofText lexicon text.toList).failure with
  | some cause => simp [lex, tokenize, failure, Except.map]
  | none =>
    have lexed : ∃ tokens, lex lexicon text = .ok tokens :=
      ⟨_, by simp only [lex, tokenize, failure]; rfl⟩
    obtain ⟨tokens, lexed⟩ := lexed
    obtain ⟨-, rfl⟩ := tokens_of_lex_of_distinct distinct lexed
    exact lexed

/-- A newline between tokens. -/
def newlineAt (position : Position) : Token where
  kind := .whitespace
  lexeme := "\n"
  position := position

/-- The semicolon on a line of its own behind a text. -/
def semicolonBehind (text : List Char) : Token where
  kind := .semicolon
  lexeme := ";"
  position := (Position.start.past text).after '\n'

/-- Behind a text and a semicolon on a line of its own, a text begins in the first column, two lines
below the end of the first text. -/
theorem Position.start_past_separator (first second : List Char) :
    start.past (first ++ '\n' :: ';' :: '\n' :: second) =
      (start.past second).lowered (first.count '\n' + 2) := by
  have split : first ++ '\n' :: ';' :: '\n' :: second =
      (first ++ ['\n', ';'] ++ ['\n']) ++ second := by simp
  rw [split, past_append, start_past_newline, lowered_past]
  simp

/-- The tokens on both sides of a semicolon on a line of its own. -/
theorem Piece.place_separator (first second : List Piece) :
    place .start (first ++ (Scan.separator.map Segment.joined ++ second)) =
      place .start first ++
        newlineAt (Position.start.past (first.flatMap source)) ::
        semicolonBehind (first.flatMap source) ::
        newlineAt (((Position.start.past (first.flatMap source)).after '\n').after ';') ::
        (place .start second).map
          (Token.relocated (·.lowered ((first.flatMap source).count '\n' + 2))) := by
  have finish := Position.start_past_separator (first.flatMap source) []
  rw [← place_lowered, ← Position.past_nil Position.start, ← finish, place_append]
  simp [Scan.separator, Segment.joined, Piece.token, semicolonBehind, newlineAt,
    Position.past_append]

/-- Newlines are blank and part operators. -/
theorem Stream.tidy_separator {lexicon : Lexicon} (before after : List Token)
    (text : List Char) (first second : Position) :
    dropBlanks (joinOperators lexicon
        (before ++ newlineAt first :: semicolonBehind text :: newlineAt second :: after)) =
      dropBlanks (joinOperators lexicon before) ++
        semicolonBehind text :: dropBlanks (joinOperators lexicon after) := by
  rw [joinOperators_append_cons rfl, joinOperators_cons rfl, joinOperators_cons rfl, dropBlanks,
    List.filter_append]
  rfl

/-- The tidy tokens of two texts with a semicolon on a line of its own between them. -/
theorem lex_parted {first : String} {tokens : List Token}
    (lexed : lex .standard first = .ok tokens) :
    ∃ body, tokens = body ++ [Token.endOfInput (Position.behind first.toList)] ∧
      (∀ token ∈ body, token.kind ≠ .endOfInput) ∧
      ∀ second, lex .standard (first ++ "\n;\n" ++ second) =
        match lex .standard second with
        | .ok others =>
          .ok (body ++ semicolonBehind first.toList :: others.map
            (Token.relocated (·.lowered (first.toList.count '\n' + 2))))
        | .error error => .error (error.lowered (first.toList.count '\n' + 2)) := by
  have distinct := Lexicon.distinctQuotes_standard
  have plain := Lexicon.plain_standard
  rw [lex_eq_of_scan distinct] at lexed
  cases finished : (Scan.ofText .standard first.toList).failure with
  | some cause => simp [finished] at lexed
  | none =>
    rw [finished] at lexed
    obtain rfl := Except.ok.inj lexed
    have run := Scan.run_ofText finished
    have marks := marks_of_run plain.reservesQuoted plain.reservesEnd run .start
    refine ⟨_, rfl, fun token member => (marks token member).1, fun second => ?_⟩
    have text : (first ++ "\n;\n" ++ second).toList =
        first.toList ++ '\n' :: ';' :: '\n' :: second.toList := by
      simp
    have covers : ((Scan.ofText .standard first.toList).segments.map Segment.joined).flatMap
        Piece.source = first.toList := by
      simpa [List.flatMap_map, Segment.joined_source] using run.source_append
    rw [lex_eq_of_scan distinct, lex_eq_of_scan distinct, text,
      Scan.source_parted finished second.toList, Scan.ofText_parted finished second.toList,
      Position.start_past_separator]
    cases failure : (Scan.ofText .standard second.toList).failure with
    | some cause => rfl
    | none =>
      simp only [List.append_assoc, List.map_append]
      rw [Piece.place_separator, Stream.tidy_separator, Stream.joinOperators_map,
        Stream.dropBlanks_map, covers, ← Position.start_past, Position.start_past_separator,
        Position.start_past]
      simp [Token.relocated, Token.endOfInput]

/-! ## Programs -/

theorem parseSource_eq_of_lex (lexicon : Lexicon) (text : String) :
    parseSource lexicon text =
      match lex lexicon text with
      | .ok tokens => (parseTokens tokens).mapError .grammatical
      | .error error => .error (.lexical error) := by
  unfold parseSource
  cases lex lexicon text <;> rfl

theorem Token.likeness_relocated (move : Position → Position) :
    Token.Likeness fun token other => token.relocated move = other where
  kind := by
    rintro token _ rfl
    rfl
  lexeme := by
    rintro token _ rfl
    rfl

/-- A program goes on behind a semicolon with the program of tokens from so many lines further
down. -/
theorem parseTokens_parted {first second : List Token} {stop semicolon finish : Token}
    (plain : ∀ token ∈ first, token.kind ≠ .endOfInput) (stops : stop.kind = .endOfInput)
    (kind : semicolon.kind = .semicolon)
    (plainSecond : ∀ token ∈ second, token.kind ≠ .endOfInput)
    (finishes : finish.kind = .endOfInput) {statements : List Statement}
    (parsed : parseTokens (first ++ [stop]) = .ok (statements ++ [.endOfInput])) {lines : Nat} :
    parseTokens (first ++ semicolon ::
        (second ++ [finish]).map (Token.relocated (·.lowered lines))) =
      ((parseTokens (second ++ [finish])).mapError (·.lowered lines)).map (statements ++ ·) := by
  have ended : ∃ token ∈ second ++ [finish], token.kind = .endOfInput :=
    ⟨finish, List.mem_append_right _ (List.mem_singleton_self _), finishes⟩
  have moved := parseTokens_map (Token.likeness_relocated (·.lowered lines)) ended
  have plainMoved : ∀ token ∈ second.map (Token.relocated (·.lowered lines)),
      token.kind ≠ .endOfInput := by
    simpa using plainSecond
  have finishesMoved : (finish.relocated (·.lowered lines)).kind = .endOfInput := finishes
  have onward := parseTokens_append plain stops kind plainMoved finishesMoved parsed
  rw [List.map_append, List.map_singleton] at moved ⊢
  rw [onward, moved]
  rfl

/-- If a text spells a program, then with a semicolon on a line of its own and another text behind
it, it spells the statements of that program followed by the program of the other text. If the
other text is refused, then the whole is refused with the same error, so many lines further down as
the other text begins. -/
theorem parseSource_parted {first : String} {program : List Statement}
    (parsed : parseSource .standard first = .ok program) :
    ∃ statements, program = statements ++ [.endOfInput] ∧
      ∀ second, parseSource .standard (first ++ "\n;\n" ++ second) =
        match parseSource .standard second with
        | .ok others => .ok (statements ++ others)
        | .error error => .error (error.lowered (first.toList.count '\n' + 2)) := by
  simp only [parseSource_eq_of_lex] at parsed ⊢
  cases lexed : lex .standard first with
  | error error => simp [lexed] at parsed
  | ok tokens =>
    rw [lexed] at parsed
    obtain ⟨body, rfl, plain, parted⟩ := lex_parted lexed
    cases read : parseTokens (body ++ [Token.endOfInput (Position.behind first.toList)]) with
    | error error => simp [read, Except.mapError] at parsed
    | ok found =>
      obtain rfl : found = program := by simpa [read, Except.mapError] using parsed
      obtain ⟨statements, rfl⟩ := exists_statements_of_parseTokens read
      refine ⟨statements, rfl, fun second => ?_⟩
      rw [parted second]
      cases lexedSecond : lex .standard second with
      | error error => rfl
      | ok others =>
        obtain ⟨bodySecond, rfl, plainSecond, -⟩ := lex_parted lexedSecond
        have ends (text : String) :
            (Token.endOfInput (Position.behind text.toList)).kind = .endOfInput := rfl
        have kind : (semicolonBehind first.toList).kind = .semicolon := rfl
        simp only [parseTokens_parted plain (ends first) kind plainSecond (ends second) read]
        cases parseTokens (bodySecond ++ [Token.endOfInput (Position.behind second.toList)]) <;> rfl

/-- A text that ends in a comment, before a text whose scope is never closed. -/
theorem parseSource_parted_unclosed :
    parseSource .standard "f(x) # +" =
        .ok [.expression (.call "f" [.expression (.name "x")]), .endOfInput] ∧
      parseSource .standard ("f(x) # +" ++ "\n;\n" ++ "y: \x7b") =
        .error (.grammatical {
          cause := .unclosed .curly
          tokens := [Token.endOfInput ⟨3, 5⟩,
            { kind := .opening .curly, lexeme := "\x7b", position := ⟨3, 4⟩ }] }) := by
  have parsed : parseSource .standard "f(x) # +" =
      .ok [.expression (.call "f" [.expression (.name "x")]), .endOfInput] := rfl
  have refused : parseSource .standard "y: \x7b" =
      .error (.grammatical {
        cause := .unclosed .curly
        tokens := [Token.endOfInput ⟨1, 5⟩,
          { kind := .opening .curly, lexeme := "\x7b", position := ⟨1, 4⟩ }] }) := rfl
  obtain ⟨_, -, parted⟩ := parseSource_parted parsed
  have whole := parted "y: \x7b"
  rw [refused] at whole
  exact ⟨parsed, whole⟩

end Kite
