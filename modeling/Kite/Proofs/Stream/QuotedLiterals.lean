import Kite.Proofs.Stream.Raw
import Kite.Stream.Literals

/-!
# Quoted literals are put together as they were taken apart

The scanner ends a literal at its delimiter character, `joinLiterals` at the next token of
its kind. The two agree where a quote character can be told from its kind
(`Lexicon.DistinctQuotes`): no token inside a literal then has the kind of the literal.
`joinLiterals_tokenize` says that joining turns the tokens of each literal of the source
into one token that holds the text between the delimiters, and changes nothing else.
-/

set_option autoImplicit false

namespace Kite

/-- A lexicon whose quote characters differ in the kinds of their literals, and which gives those
kinds to nothing else. -/
structure Lexicon.DistinctQuotes (lexicon : Lexicon) : Prop where
  quoted : ∀ c kind, lexicon.quote? c = some kind → kind.isQuoted = true
  distinct : ∀ c d kind, lexicon.quote? c = some kind → lexicon.quote? d = some kind → c = d
  word : ∀ word, (lexicon.kindOfWord word).isQuoted = false
  punctuation : ∀ c kind, lexicon.punctuation? c = some kind → kind.isQuoted = false

/-- A lexicon that gives the kinds of quoted literals to quote characters and to nothing else. -/
structure Lexicon.ReservesQuoted (lexicon : Lexicon) : Prop where
  quoted : ∀ c kind, lexicon.quote? c = some kind → kind.isQuoted = true
  word : ∀ word, (lexicon.kindOfWord word).isQuoted = false
  punctuation : ∀ c kind, lexicon.punctuation? c = some kind → kind.isQuoted = false

theorem Lexicon.DistinctQuotes.reservesQuoted {lexicon : Lexicon}
    (distinct : lexicon.DistinctQuotes) : lexicon.ReservesQuoted where
  quoted := distinct.quoted
  word := distinct.word
  punctuation := distinct.punctuation

/-- Whether a role has a quoted kind exactly if it is that of a quote character. -/
def Lexicon.Role.isPlain : Lexicon.Role → Bool
  | .punctuation kind => !kind.isQuoted
  | .quote kind => kind.isQuoted

theorem Lexicon.isPlain_of_mem_standard_roles :
    ∀ entry ∈ Lexicon.standard.roles, entry.2.isPlain = true := by
  decide

/-- The standard lexicon has one quote character for each style of literal. -/
theorem Lexicon.distinctQuotes_standard : Lexicon.standard.DistinctQuotes where
  quoted _ _ role :=
    isPlain_of_mem_standard_roles _ (mem_roles_of_lookup (quote?_eq_some_iff.mp role))
  distinct c d kind first second := by
    have listedFirst := mem_roles_of_lookup (quote?_eq_some_iff.mp first)
    have listedSecond := mem_roles_of_lookup (quote?_eq_some_iff.mp second)
    simp [standard] at listedFirst listedSecond
    rcases listedFirst with ⟨rfl, rfl⟩ | ⟨rfl, rfl⟩ | ⟨rfl, rfl⟩ <;> simp_all
  word word := rfl
  punctuation _ _ role := by
    have plain :=
      isPlain_of_mem_standard_roles _ (mem_roles_of_lookup (punctuation?_eq_some_iff.mp role))
    simpa [Role.isPlain] using plain

namespace Segment

/-- The one piece that a segment becomes when literals are joined: a literal reports the text
between its delimiters. -/
def joined : Segment → Piece
  | .plain piece => piece
  | .literal kind delimiter content =>
    { kind, source := delimiter :: content ++ [delimiter], lexeme := String.ofList content }

theorem joined_source (segment : Segment) : segment.joined.source = segment.source := by
  cases segment <;> rfl

/-- A segment that is a token outside literals or a whole literal: an opening delimiter, content
that the delimiter does not end early, and the closing delimiter. -/
inductive Delimited (lexicon : Lexicon) : Segment → Prop where
  | plain {piece : Piece} (unquoted : piece.kind.isQuoted = false)
      (outside : piece.internal = false) : Delimited lexicon (.plain piece)
  | literal {kind : Kind} {delimiter : Char} {content : List Char}
      (role : lexicon.quote? delimiter = some kind) (free : Content delimiter content)
      (inside : ∀ piece ∈ contentPieces lexicon [] content, piece.internal = true) :
      Delimited lexicon (.literal kind delimiter content)

theorem Taken.delimited_of_reservesQuoted {lexicon : Lexicon} {text after : List Char}
    {segment : Segment} (reserves : lexicon.ReservesQuoted)
    (taken : Taken lexicon text segment after) : segment.Delimited lexicon := by
  cases taken with
  | blank blank => exact .plain rfl rfl
  | comment notBlank role => exact .plain rfl rfl
  | compound notBlank notComment longest => exact .plain rfl rfl
  | number ordinary starts points => exact .plain rfl rfl
  | quoted ordinary noNumber role free =>
    exact .literal role free fun piece member => (contentPiece_of_mem free member).internal
  | punctuation unquoted role =>
    unfold Segment.punctuation
    split
    · split <;> exact .plain rfl rfl
    · exact .plain (reserves.punctuation _ _ role) rfl
  | word unquoted noRole letter => exact .plain (reserves.word _) rfl
  | unknown unquoted noRole noLetter => exact .plain rfl rfl

theorem Taken.delimited {lexicon : Lexicon} {text after : List Char} {segment : Segment}
    (distinct : lexicon.DistinctQuotes) (taken : Taken lexicon text segment after) :
    segment.Delimited lexicon :=
  taken.delimited_of_reservesQuoted distinct.reservesQuoted

theorem Delimited.joined_internal {lexicon : Lexicon} {segment : Segment}
    (delimited : segment.Delimited lexicon) : segment.joined.internal = false := by
  cases delimited with
  | plain unquoted outside => exact outside
  | literal role free inside => rfl

/-- No piece inside a literal has the kind of the literal. -/
theorem ContentPiece.kind_ne {lexicon : Lexicon} {delimiter : Char} {kind : Kind} {piece : Piece}
    (distinct : lexicon.DistinctQuotes) (role : lexicon.quote? delimiter = some kind)
    (inside : ContentPiece lexicon delimiter piece) : piece.kind ≠ kind := by
  have quoted : kind.isQuoted = true := distinct.quoted delimiter kind role
  cases inside with
  | run nonempty => rintro rfl; simp [Kind.isQuoted] at quoted
  | escape c => rintro rfl; simp [Kind.isQuoted] at quoted
  | blank blank => rintro rfl; simp [Kind.isQuoted] at quoted
  | quote notDelimiter foreign =>
    rintro rfl
    exact notDelimiter (distinct.distinct _ _ _ foreign role)

/-- A segment that is not a literal, or a literal that holds no other character of its own kind:
between its delimiters no piece has the kind of the literal. -/
def Unmixed (lexicon : Lexicon) : Segment → Prop
  | .plain _ => True
  | .literal kind _ content => ∀ piece ∈ contentPieces lexicon [] content, piece.kind ≠ kind

instance (lexicon : Lexicon) : (segment : Segment) → Decidable (segment.Unmixed lexicon)
  | .plain _ => inferInstanceAs (Decidable True)
  | .literal kind _ content =>
    inferInstanceAs (Decidable (∀ piece ∈ contentPieces lexicon [] content, piece.kind ≠ kind))

theorem Delimited.unmixed {lexicon : Lexicon} {segment : Segment}
    (distinct : lexicon.DistinctQuotes) (delimited : segment.Delimited lexicon) :
    segment.Unmixed lexicon := by
  cases delimited with
  | plain unquoted outside => trivial
  | literal role free inside =>
    exact fun piece member => (contentPiece_of_mem free member).kind_ne distinct role

end Segment

namespace Stream

/-- Tokens of other kinds are gathered into the open literal. -/
theorem gatherLiterals_some_append (literal : Token) {inner : List Token}
    (foreign : ∀ token ∈ inner, token.kind ≠ literal.kind) (rest : List Token) :
    gatherLiterals (some literal) (inner ++ rest) =
      gatherLiterals
        (some { literal with lexeme := literal.lexeme ++ String.join (inner.map Token.lexeme) })
        rest := by
  induction inner generalizing literal with
  | nil => simp
  | cons token inner ih =>
    obtain ⟨other, others⟩ := List.forall_mem_cons.mp foreign
    rw [List.cons_append, gatherLiterals, if_neg other]
    rw [ih { literal with lexeme := literal.lexeme ++ token.lexeme } others]
    simp [String.append_assoc]

theorem joinLiterals_cons_of_unquoted {token : Token} (unquoted : token.kind.isQuoted = false)
    (tokens : List Token) : joinLiterals (token :: tokens) = token :: joinLiterals tokens := by
  simp [joinLiterals, gatherLiterals, stripDelimiters?, unquoted]

/-- The token of a delimiter. -/
def mark (kind : Kind) (delimiter : Char) (position : Position) : Token :=
  { kind, lexeme := String.ofList [delimiter], position }

/-- The tokens of a literal become one token with the lexemes between the delimiters. -/
theorem joinLiterals_literal {kind : Kind} {inner : List Token}
    (quoted : kind.isQuoted = true) (foreign : ∀ token ∈ inner, token.kind ≠ kind)
    (delimiter : Char) (start finish : Position) (rest : List Token) :
    joinLiterals (mark kind delimiter start :: (inner ++ mark kind delimiter finish :: rest)) =
      { kind, lexeme := String.join (inner.map Token.lexeme), position := start } ::
        joinLiterals rest := by
  have gathered :
      gatherLiterals none
          (mark kind delimiter start :: (inner ++ mark kind delimiter finish :: rest)) =
        { mark kind delimiter start with
          lexeme := String.ofList [delimiter] ++ String.join (inner.map Token.lexeme) ++
            String.ofList [delimiter] } :: gatherLiterals none rest := by
    rw [gatherLiterals, if_pos (by exact quoted)]
    rw [gatherLiterals_some_append { mark kind delimiter start with internal := false } foreign]
    simp [gatherLiterals, mark]
  have stripped : stripDelimiters?
      { mark kind delimiter start with
        lexeme := String.ofList [delimiter] ++ String.join (inner.map Token.lexeme) ++
          String.ofList [delimiter] } =
      some { kind, lexeme := String.join (inner.map Token.lexeme), position := start } := by
    have between : String.ofList ((inner.map Token.lexeme).flatMap String.toList) =
        String.join (inner.map Token.lexeme) := by
      rw [← String.toList_join, String.ofList_toList]
    simp [stripDelimiters?, mark, quoted, between]
  rw [joinLiterals, gathered, List.filterMap_cons, stripped]
  rfl

/-- The literal that is open after one more token. -/
def openAfter (opening? : Option Token) (token : Token) : Option Token :=
  match opening? with
  | none => if token.kind.isQuoted then some token else none
  | some opening => if token.kind = opening.kind then none else some opening

theorem openLiteral?_eq_foldl (tokens : List Token) :
    openLiteral? tokens = tokens.foldl openAfter none := rfl

theorem openLiteral?_cons_of_unquoted {token : Token} (unquoted : token.kind.isQuoted = false)
    (tokens : List Token) : openLiteral? (token :: tokens) = openLiteral? tokens := by
  simp [openLiteral?_eq_foldl, openAfter, unquoted]

/-- A literal that is closed again is not open after its closing delimiter. -/
theorem openLiteral?_literal {kind : Kind} {inner : List Token}
    (quoted : kind.isQuoted = true) (foreign : ∀ token ∈ inner, token.kind ≠ kind)
    (delimiter : Char) (start finish : Position) (rest : List Token) :
    openLiteral? (mark kind delimiter start :: (inner ++ mark kind delimiter finish :: rest)) =
      openLiteral? rest := by
  have inside : inner.foldl openAfter (some (mark kind delimiter start)) =
      some (mark kind delimiter start) := by
    induction inner with
    | nil => rfl
    | cons token inner ih =>
      obtain ⟨other, others⟩ := List.forall_mem_cons.mp foreign
      simpa [openAfter, mark, other] using ih others
  have opens : openAfter none (mark kind delimiter start) = some (mark kind delimiter start) :=
    if_pos quoted
  have closes : openAfter (some (mark kind delimiter start)) (mark kind delimiter finish) = none :=
    if_pos rfl
  simp [openLiteral?_eq_foldl, opens, inside, closes]

variable {lexicon : Lexicon}

variable (lexicon) in
theorem join_lexeme_contentPieces {delimiter : Char} {content : List Char}
    (free : Segment.Content delimiter content) (position : Position) :
    String.join
      ((Piece.place position (Segment.contentPieces lexicon [] content)).map Token.lexeme) =
        String.ofList content := by
  have spelled : ∀ piece ∈ Segment.contentPieces lexicon [] content, piece.Spelled :=
    fun piece inside => (Segment.contentPiece_of_mem free inside).spelled
  rw [Piece.join_lexeme_place spelled, Segment.flatMap_source_contentPieces]
  rfl

/-- Joining makes one token of the tokens of each literal that holds no other character of its own
kind, and leaves none open. -/
theorem joinLiterals_place_of_unmixed (reserves : lexicon.ReservesQuoted)
    {segments : List Segment} (delimited : ∀ segment ∈ segments, segment.Delimited lexicon)
    (unmixed : ∀ segment ∈ segments, segment.Unmixed lexicon) (position : Position)
    (rest : List Token) :
    joinLiterals (Piece.place position (segments.flatMap (Segment.pieces lexicon)) ++ rest) =
        Piece.place position (segments.map Segment.joined) ++ joinLiterals rest ∧
      openLiteral? (Piece.place position (segments.flatMap (Segment.pieces lexicon)) ++ rest) =
        openLiteral? rest := by
  induction segments generalizing position with
  | nil => exact ⟨rfl, rfl⟩
  | cons segment segments ih =>
    obtain ⟨first, others⟩ := List.forall_mem_cons.mp delimited
    obtain ⟨firstUnmixed, othersUnmixed⟩ := List.forall_mem_cons.mp unmixed
    cases first with
    | @plain piece unquoted outside =>
      have kept : (piece.token position).kind.isQuoted = false := unquoted
      obtain ⟨joins, opens⟩ := ih others othersUnmixed (position.past piece.source)
      simp [Segment.pieces, Segment.joined, joinLiterals_cons_of_unquoted kept,
        openLiteral?_cons_of_unquoted kept, joins, opens]
    | @literal kind delimiter content role free inside =>
      have quoted := reserves.quoted delimiter kind role
      have foreign : ∀ token ∈ Piece.place (position.after delimiter)
          (Segment.contentPieces lexicon [] content), token.kind ≠ kind := by
        intro token member
        obtain ⟨piece, inner, place, rfl⟩ := Piece.exists_of_mem_place member
        exact firstUnmixed piece inner
      have lexemes := join_lexeme_contentPieces lexicon free (position.after delimiter)
      have placed : Piece.place position
            ((Segment.literal kind delimiter content :: segments).flatMap
              (Segment.pieces lexicon)) ++ rest =
          mark kind delimiter position ::
            (Piece.place (position.after delimiter) (Segment.contentPieces lexicon [] content) ++
              mark kind delimiter ((position.after delimiter).past content) ::
              (Piece.place (position.past (delimiter :: content ++ [delimiter]))
                (segments.flatMap (Segment.pieces lexicon)) ++ rest)) := by
        simp [Segment.pieces, Piece.token, mark, Piece.place_append, Position.past_append,
          Segment.flatMap_source_contentPieces]
      obtain ⟨joins, opens⟩ :=
        ih others othersUnmixed (position.past (delimiter :: content ++ [delimiter]))
      constructor
      · rw [placed, joinLiterals_literal quoted foreign, joins, lexemes]
        rfl
      · rw [placed, openLiteral?_literal quoted foreign, opens]

/-- Joining makes one token of the tokens of each literal, and leaves none open. -/
theorem joinLiterals_place (distinct : lexicon.DistinctQuotes) {segments : List Segment}
    (delimited : ∀ segment ∈ segments, segment.Delimited lexicon) (position : Position)
    (rest : List Token) :
    joinLiterals (Piece.place position (segments.flatMap (Segment.pieces lexicon)) ++ rest) =
        Piece.place position (segments.map Segment.joined) ++ joinLiterals rest ∧
      openLiteral? (Piece.place position (segments.flatMap (Segment.pieces lexicon)) ++ rest) =
        openLiteral? rest :=
  joinLiterals_place_of_unmixed distinct.reservesQuoted delimited
    (fun segment member => (delimited segment member).unmixed distinct) position rest

/-- Where quote characters can be told from their kinds, joining the raw tokens of a text turns the
tokens of each quoted literal into one token of its kind, which stands where the opening delimiter
stands and holds the text strictly between the delimiters. All other tokens stay as they are, no
token is internal any more, and no literal is left open. -/
theorem joinLiterals_tokenize (distinct : lexicon.DistinctQuotes) {text : String}
    {tokens : List Token} (scanned : tokenize lexicon text = .ok tokens) :
    ∃ segments : List Segment,
      segments.flatMap Segment.source = text.toList ∧
      (∀ segment ∈ segments, segment.Delimited lexicon) ∧
      tokens = Piece.place Position.start (segments.flatMap (Segment.pieces lexicon)) ++
        [Token.endOfInput (Position.behind text.toList)] ∧
      joinLiterals tokens = Piece.place Position.start (segments.map Segment.joined) ++
        [Token.endOfInput (Position.behind text.toList)] ∧
      (∀ token ∈ joinLiterals tokens, token.internal = false) ∧
      openLiteral? tokens = none := by
  obtain ⟨segments, run, rfl⟩ := run_of_tokenize scanned
  have delimited : ∀ segment ∈ segments, segment.Delimited lexicon :=
    run.forall_mem fun taken => taken.delimited distinct
  obtain ⟨joins, opens⟩ := joinLiterals_place distinct delimited Position.start
    [Token.endOfInput (Position.behind text.toList)]
  have joined : joinLiterals
      (Piece.place Position.start (segments.flatMap (Segment.pieces lexicon)) ++
        [Token.endOfInput (Position.behind text.toList)]) =
      Piece.place Position.start (segments.map Segment.joined) ++
        [Token.endOfInput (Position.behind text.toList)] := joins
  refine ⟨segments, by simpa using run.source_append, delimited, rfl, joined, ?_, opens⟩
  intro token member
  rw [joined, List.mem_append] at member
  rcases member with placed | last
  · obtain ⟨piece, listed, place, rfl⟩ := Piece.exists_of_mem_place placed
    obtain ⟨segment, source, rfl⟩ := List.mem_map.mp listed
    cases delimited segment source with
    | plain unquoted outside => exact outside
    | literal role free inside => rfl
  · obtain rfl := List.mem_singleton.mp last
    rfl

/-- A literal with an escaped delimiter and a foreign quote character. -/
theorem joinLiterals_tokenize_escaped_delimiter :
    Lexicon.standard.DistinctQuotes ∧
    ∃ tokens, tokenize Lexicon.standard "x\"a\\\"b\x27\"" = .ok tokens ∧
      joinLiterals tokens =
        [{ kind := .identifier, lexeme := "x", position := ⟨1, 1⟩ },
          { kind := .quoted .string, lexeme := "a\\\"b\x27", position := ⟨1, 2⟩ },
          Token.endOfInput ⟨1, 9⟩] ∧
      (∀ token ∈ joinLiterals tokens, token.internal = false) ∧ openLiteral? tokens = none := by
  have scanned : tokenize Lexicon.standard "x\"a\\\"b\x27\"" =
      .ok [
        { kind := .identifier, lexeme := "x", position := ⟨1, 1⟩ },
        { kind := .quoted .string, lexeme := "\"", position := ⟨1, 2⟩ },
        { kind := .unknown, lexeme := "a", position := ⟨1, 3⟩, internal := true },
        { kind := .escape, lexeme := "\\\"", position := ⟨1, 4⟩, internal := true },
        { kind := .unknown, lexeme := "b", position := ⟨1, 6⟩, internal := true },
        { kind := .quoted .char, lexeme := "\x27", position := ⟨1, 7⟩, internal := true },
        { kind := .quoted .string, lexeme := "\"", position := ⟨1, 8⟩ },
        Token.endOfInput ⟨1, 9⟩] := by
    decide +kernel
  obtain ⟨segments, -, -, -, -, outside, closed⟩ :=
    joinLiterals_tokenize Lexicon.distinctQuotes_standard scanned
  exact ⟨Lexicon.distinctQuotes_standard, _, scanned, by decide +kernel, outside, closed⟩

end Stream

end Kite
