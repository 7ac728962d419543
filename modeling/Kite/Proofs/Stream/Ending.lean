import Kite.Proofs.Stream.OperatorRuns
import Kite.Proofs.Stream.QuotedLiterals
import Kite.Stream.Tidy

/-!
# The end of the tidy stream

The raw stream ends with the end token, and tidying keeps it if it keeps the literals
apart (`tokens_of_lex`). Several characters may delimit literals of one kind. The scanner
ends a literal at its own delimiter, and the tokens of a literal are joined up to the next
token of its kind, so a literal that holds another delimiter of its kind is joined wrongly:
`lex_mixed_delimiters` shows a text that loses its end in this way. By
`lex_ends_of_unmixed` no other text does.
-/

set_option autoImplicit false

namespace Kite

/-! ## Lexicons that leave the end alone -/

namespace Lexicon

/-- A lexicon that gives the kind of the end token to nothing in a text. -/
structure ReservesEnd (lexicon : Lexicon) : Prop where
  word : ∀ word, lexicon.kindOfWord word ≠ .endOfInput
  punctuation : ∀ c, lexicon.punctuation? c ≠ some .endOfInput

/-- A lexicon without keywords in which quote characters have quoted kinds, and punctuation has
other kinds, but not that of the end token. -/
structure Plain (lexicon : Lexicon) : Prop where
  words : lexicon.words = []
  roles : ∀ entry ∈ lexicon.roles,
    entry.2.isPlain = true ∧ entry.2 ≠ .punctuation .endOfInput

theorem plain_standard : standard.Plain := ⟨rfl, by decide⟩

theorem Plain.add_quote {lexicon : Lexicon} (plain : lexicon.Plain) (c : Char)
    (style : QuoteStyle) : (lexicon.add (.quote c (.quoted style))).Plain where
  words := plain.words
  roles := List.forall_mem_cons.mpr ⟨⟨rfl, by simp⟩, plain.roles⟩

/-- Quote characters of quoted kinds leave an extension of the standard lexicon plain. -/
theorem plain_extend_standard {entries : List Entry}
    (quotes : ∀ entry ∈ entries, ∃ c style, entry = .quote c (.quoted style)) :
    (standard.extend entries).Plain := by
  refine extend_preserves plain_standard fun lexicon entry member plain => ?_
  obtain ⟨c, style, rfl⟩ := quotes entry member
  exact plain.add_quote c style

theorem Plain.kindOfWord {lexicon : Lexicon} (plain : lexicon.Plain) (word : String) :
    lexicon.kindOfWord word = .identifier := by
  simp [Lexicon.kindOfWord, plain.words]

theorem Plain.reservesQuoted {lexicon : Lexicon} (plain : lexicon.Plain) :
    lexicon.ReservesQuoted where
  quoted _ _ role := (plain.roles _ (mem_roles_of_lookup (quote?_eq_some_iff.mp role))).1
  word word := by
    rw [plain.kindOfWord]
    rfl
  punctuation _ _ role := by
    have listed := plain.roles _ (mem_roles_of_lookup (punctuation?_eq_some_iff.mp role))
    simpa [Role.isPlain] using listed.1

theorem Plain.reservesEnd {lexicon : Lexicon} (plain : lexicon.Plain) : lexicon.ReservesEnd where
  word word := by simp [plain.kindOfWord]
  punctuation c role :=
    (plain.roles _ (mem_roles_of_lookup (punctuation?_eq_some_iff.mp role))).2 rfl

end Lexicon

variable {lexicon : Lexicon}

/-- No step takes an end token. -/
theorem Segment.Taken.joined_kind_ne (quoted : lexicon.ReservesQuoted)
    (ends : lexicon.ReservesEnd) {text after : List Char} {segment : Segment}
    (taken : Taken lexicon text segment after) : segment.joined.kind ≠ .endOfInput := by
  cases taken with
  | blank blank => simp [joined]
  | comment notBlank role => simp [joined, Segment.comment]
  | compound notBlank notComment longest => simp [joined, Segment.compound]
  | number ordinary starts points => simp [joined]
  | @quoted c content after kind ordinary noNumber role free =>
    have isQuoted := quoted.quoted c kind role
    rintro rfl
    simp [Kind.isQuoted] at isQuoted
  | @punctuation c rest kind unquoted role =>
    unfold Segment.punctuation
    split
    · split <;> simp [joined]
    · rintro rfl
      exact ends.punctuation c role
  | word unquoted noRole letter => exact ends.word _
  | unknown unquoted noRole noLetter => simp [joined, Segment.unknown]

/-! ## Tidying -/

theorem lex_eq_ok_iff {text : String} {tokens : List Token} :
    lex lexicon text = .ok tokens ↔
      ∃ raw, tokenize lexicon text = .ok raw ∧ Stream.tidy lexicon raw = tokens := by
  unfold lex
  cases tokenize lexicon text <;> simp [Except.map]

/-- The tidy tokens of a text are its segments, each as one token, with operators joined and blanks
left out, and the end token. -/
theorem tokens_of_lex (quoted : lexicon.ReservesQuoted) {text : String} {tokens : List Token}
    (lexed : lex lexicon text = .ok tokens)
    (unmixed : ∀ segment ∈ (Scan.ofText lexicon text.toList).segments,
      segment.Unmixed lexicon) :
    Scan.Run lexicon text.toList (Scan.ofText lexicon text.toList).segments [] ∧
      tokens = Stream.dropBlanks (Stream.joinOperators lexicon
          (Piece.place .start ((Scan.ofText lexicon text.toList).segments.map Segment.joined))) ++
        [Token.endOfInput (Position.behind text.toList)] := by
  obtain ⟨raw, scanned, rfl⟩ := lex_eq_ok_iff.mp lexed
  obtain ⟨run, rfl⟩ := scan_of_tokenize scanned
  have delimited := run.forall_mem fun taken => taken.delimited_of_reservesQuoted quoted
  obtain ⟨joins, -⟩ := Stream.joinLiterals_place_of_unmixed quoted delimited unmixed .start
    [Token.endOfInput (Position.behind text.toList)]
  refine ⟨run, ?_⟩
  have apart : Stream.isOperatorPiece lexicon
      (Token.endOfInput (Position.behind text.toList)) = false := rfl
  have last : Stream.joinLiterals [Token.endOfInput (Position.behind text.toList)] =
      [Token.endOfInput (Position.behind text.toList)] := rfl
  rw [Stream.tidy, Scan.pieces, joins, last, Stream.joinOperators_append_cons apart,
    Stream.dropBlanks, List.filter_append]
  rfl

/-- Where quote characters can be told from their kinds, no literal is joined wrongly. -/
theorem tokens_of_lex_of_distinct (distinct : lexicon.DistinctQuotes) {text : String}
    {tokens : List Token} (lexed : lex lexicon text = .ok tokens) :
    Scan.Run lexicon text.toList (Scan.ofText lexicon text.toList).segments [] ∧
      tokens = Stream.dropBlanks (Stream.joinOperators lexicon
          (Piece.place .start ((Scan.ofText lexicon text.toList).segments.map Segment.joined))) ++
        [Token.endOfInput (Position.behind text.toList)] := by
  obtain ⟨raw, scanned, -⟩ := lex_eq_ok_iff.mp lexed
  have unmixed := (scan_of_tokenize scanned).1.forall_mem
    fun taken => (taken.delimited distinct).unmixed distinct
  exact tokens_of_lex distinct.reservesQuoted lexed unmixed

/-- No tidy token of a text is an end token or lies inside a literal. -/
theorem marks_of_run (quoted : lexicon.ReservesQuoted) (ends : lexicon.ReservesEnd)
    {text rest : List Char} {segments : List Segment} (run : Scan.Run lexicon text segments rest)
    (position : Position) :
    ∀ token ∈ Stream.dropBlanks (Stream.joinOperators lexicon
        (Piece.place position (segments.map Segment.joined))),
      token.kind ≠ .endOfInput ∧ token.internal = false := by
  have marks := run.forall_mem fun taken => And.intro (taken.joined_kind_ne quoted ends)
    (taken.delimited_of_reservesQuoted quoted).joined_internal
  intro token member
  -- operators inherit their marks from pieces, and leaving out blanks only drops tokens
  obtain ⟨source, placed, inherits⟩ :=
    Stream.exists_of_mem_joinOperators (List.mem_filter.mp member).1
  obtain ⟨piece, listed, place, rfl⟩ := Piece.exists_of_mem_place placed
  obtain ⟨segment, scanned, rfl⟩ := List.mem_map.mp listed
  obtain ⟨notEnd, outside⟩ := marks segment scanned
  refine ⟨?_, inherits.internal.trans outside⟩
  rcases inherits.kind with same | operator
  · rw [same]
    exact notEnd
  · simp [operator]

/-- Under an extension of the standard lexicon by quote characters, a text none of whose literals
holds another quote character of its own kind has tidy tokens that end with the one end token, just
past the text, and none of them is internal. -/
theorem lex_ends_of_unmixed {entries : List Lexicon.Entry}
    (quotes : ∀ entry ∈ entries, ∃ c style, entry = .quote c (.quoted style))
    {text : String} {tokens : List Token}
    (lexed : lex (Lexicon.standard.extend entries) text = .ok tokens)
    (unmixed : ∀ segment ∈ (Scan.ofText (Lexicon.standard.extend entries) text.toList).segments,
      segment.Unmixed (Lexicon.standard.extend entries)) :
    ∃ body, tokens = body ++ [Token.endOfInput (Position.behind text.toList)] ∧
      (∀ token ∈ body, token.kind ≠ .endOfInput) ∧ ∀ token ∈ tokens, token.internal = false := by
  have plain := Lexicon.plain_extend_standard quotes
  obtain ⟨run, rfl⟩ := tokens_of_lex plain.reservesQuoted lexed unmixed
  have body := marks_of_run plain.reservesQuoted plain.reservesEnd run .start
  refine ⟨_, rfl, fun token member => (body token member).1, ?_⟩
  intro token member
  rcases List.mem_append.mp member with inner | last
  · exact (body token inner).2
  · obtain rfl := List.mem_singleton.mp last
    rfl

/-- Two characters delimit literals of one kind, and a third one stands in one of them. -/
theorem lex_ends_of_unmixed_shared_kind :
    (∀ entry ∈ [Lexicon.Entry.quote '|' (.quoted .char)],
        ∃ c style, entry = .quote c (.quoted style)) ∧
      (∀ segment ∈ (Scan.ofText (Lexicon.standard.extend [.quote '|' (.quoted .char)])
          "|a \"| \x27b\x27".toList).segments,
        segment.Unmixed (Lexicon.standard.extend [.quote '|' (.quoted .char)])) ∧
      ∃ tokens,
        lex (Lexicon.standard.extend [.quote '|' (.quoted .char)]) "|a \"| \x27b\x27" =
            .ok tokens ∧
          (∃ body, tokens = body ++ [Token.endOfInput ⟨1, 10⟩] ∧
            ∀ token ∈ body, token.kind ≠ .endOfInput) ∧
          ∀ token ∈ tokens, token.internal = false := by
  have quotes : ∀ entry ∈ [Lexicon.Entry.quote '|' (.quoted .char)],
      ∃ c style, entry = .quote c (.quoted style) := by
    simp
  have unmixed : ∀ segment ∈ (Scan.ofText (Lexicon.standard.extend [.quote '|' (.quoted .char)])
      "|a \"| \x27b\x27".toList).segments,
      segment.Unmixed (Lexicon.standard.extend [.quote '|' (.quoted .char)]) := by
    decide +kernel
  have lexed : lex (Lexicon.standard.extend [.quote '|' (.quoted .char)]) "|a \"| \x27b\x27" =
      .ok [
        { kind := .quoted .char, lexeme := "a \"", position := ⟨1, 1⟩ },
        { kind := .quoted .char, lexeme := "b", position := ⟨1, 7⟩ },
        Token.endOfInput ⟨1, 10⟩] := by
    decide +kernel
  have finish : Position.behind "|a \"| \x27b\x27".toList = ⟨1, 10⟩ := by decide +kernel
  obtain ⟨body, tokens, once, outside⟩ := lex_ends_of_unmixed quotes lexed unmixed
  rw [finish] at tokens
  exact ⟨quotes, unmixed, _, lexed, ⟨body, tokens, once⟩, outside⟩

/-- A literal that holds another delimiter of its kind ends early when its tokens are joined. Its
own delimiter then begins a literal that takes in the end token, so the stream has no end. -/
theorem lex_mixed_delimiters :
    ∃ tokens, lex (Lexicon.standard.extend [.quote '|' (.quoted .string)]) "\"|\"" = .ok tokens ∧
      tokens =
        [{ kind := .quoted .string, lexeme := "", position := ⟨1, 1⟩ },
          { kind := .quoted .string, lexeme := "EO", position := ⟨1, 3⟩ }] ∧
      ∀ token ∈ tokens, token.kind ≠ .endOfInput :=
  ⟨_, by decide +kernel, rfl, by decide⟩

end Kite
