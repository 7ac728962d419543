import Kite.Proofs.Concatenation

/-!
# Gaps between tokens

How much blank space stands between two tokens, and of which kind, does not matter: a gap
of blanks may be replaced by any other one, and the tokens of the text and its program
stay the same, places apart (`parseSource_respaced`). The scanner takes each blank of a
gap on its own, so the texts on both sides of the gap are scanned as if they stood alone
(`exists_runs_of_tokenize`, `Scan.run_spaced`). Blanks end every operator and are then left
out (`Stream.tidy_gap`), and the grammar does not look at places.
-/

set_option autoImplicit false

namespace Kite

variable {lexicon : Lexicon}

/-! ## Tokens and errors without their places -/

/-- The token without its place. -/
def Token.unplaced : Token → Token :=
  Token.relocated fun _ => .start

/-- The error about tokens without their places. -/
def GrammarError.unplaced (error : GrammarError) : GrammarError :=
  { error with tokens := error.tokens.map Token.unplaced }

/-- The error without its place. -/
def SourceError.unplaced : SourceError → SourceError
  | .lexical error => .lexical { error with position := .start }
  | .grammatical error => .grammatical error.unplaced

theorem Piece.place_unplaced (position : Position) (pieces : List Piece) :
    (place position pieces).map Token.unplaced = pieces.map fun piece => piece.token .start := by
  induction pieces generalizing position with
  | nil => rfl
  | cons piece pieces ih => rw [place_cons, List.map_cons, ih]; rfl

/-! ## Blanks under the scanner -/

/-- The segment of a blank. -/
def Segment.ofBlank (c : Char) : Segment :=
  .plain { kind := .whitespace, source := [c] }

/-- At a blank a step takes just the blank. -/
theorem Segment.Taken.of_isBlank {c : Char} {rest after : List Char} {segment : Segment}
    (blank : lexicon.isBlank c = true) (taken : Taken lexicon (c :: rest) segment after) :
    segment = ofBlank c ∧ after = rest := by
  have next := (next_of_taken taken).symm.trans (next_of_taken (Taken.blank blank))
  exact Prod.ext_iff.mp (Except.ok.inj next)

/-- No piece of a literal is a blank outside literals. -/
theorem Segment.Delimited.not_mem_pieces {kind : Kind} {delimiter : Char} {content : List Char}
    {piece : Piece} (delimited : (Segment.literal kind delimiter content).Delimited .standard)
    (blank : piece.kind = .whitespace) (outside : piece.internal = false) :
    piece ∉ (Segment.literal kind delimiter content).pieces .standard := by
  intro member
  cases delimited with
  | literal role free inside =>
    have quoted := Lexicon.distinctQuotes_standard.quoted delimiter kind role
    simp only [pieces, List.mem_append, List.mem_cons, List.not_mem_nil, or_false] at member
    rcases member with (rfl | inner) | rfl
    · simp_all [Kind.isQuoted]
    · simp [inside piece inner] at outside
    · simp_all [Kind.isQuoted]

/-- A piece outside literals that has the kind of blanks covers blanks only. -/
theorem Segment.Taken.isBlank_of_kind {text after : List Char} {segment : Segment}
    (taken : Taken .standard text segment after) :
    ∀ piece ∈ segment.pieces .standard, piece.kind = .whitespace → piece.internal = false →
      ∀ c ∈ piece.source, Lexicon.standard.isBlank c = true := by
  intro piece member kind outside
  have delimited := taken.delimited Lexicon.distinctQuotes_standard
  cases taken with
  | @blank c rest blank =>
    obtain rfl := List.mem_singleton.mp member
    simpa using blank
  | quoted ordinary noNumber role free =>
    exact absurd member (delimited.not_mem_pieces kind outside)
  | @punctuation c rest punctuationKind unquoted role =>
    have listed := Lexicon.mem_roles_of_lookup (Lexicon.punctuation?_eq_some_iff.mp role)
    unfold Segment.punctuation at member
    split at member
    · split at member <;> obtain rfl := List.mem_singleton.mp member <;> simp at kind
    · obtain rfl := List.mem_singleton.mp member
      obtain rfl : punctuationKind = .whitespace := kind
      simp [Lexicon.standard] at listed
  | comment | compound | number | word | unknown =>
    obtain rfl := List.mem_singleton.mp member
    simp [Lexicon.kindOfWord, Lexicon.standard] at kind

namespace Scan

/-- Blanks are taken one by one. -/
theorem run_blanks {gap : List Char} (blank : ∀ c ∈ gap, lexicon.isBlank c = true)
    (text : List Char) : Run lexicon (gap ++ text) (gap.map Segment.ofBlank) text := by
  induction gap with
  | nil => exact .done text
  | cons c gap ih =>
    obtain ⟨first, others⟩ := List.forall_mem_cons.mp blank
    exact .step (.blank first) (ih others)

/-- A run over blanks takes them one by one and goes on behind them. -/
theorem Run.of_blanks {gap text : List Char} {segments : List Segment}
    (blank : ∀ c ∈ gap, lexicon.isBlank c = true) (run : Run lexicon (gap ++ text) segments []) :
    ∃ others, segments = gap.map Segment.ofBlank ++ others ∧ Run lexicon text others [] := by
  induction gap generalizing segments with
  | nil => exact ⟨segments, rfl, run⟩
  | cons c gap ih =>
    obtain ⟨first, others⟩ := List.forall_mem_cons.mp blank
    rw [List.cons_append] at run
    cases run with
    | step taken run =>
      obtain ⟨rfl, rfl⟩ := taken.of_isBlank first
      obtain ⟨later, rfl, onward⟩ := ih others run
      exact ⟨later, rfl, onward⟩

/-- The segments of a run in two groups are those of two runs, one after the other. -/
theorem Run.exists_middle {text rest : List Char} {segments others : List Segment}
    (run : Run lexicon text (segments ++ others) rest) :
    ∃ middle, Run lexicon text segments middle ∧ Run lexicon middle others rest := by
  induction segments generalizing text with
  | nil => exact ⟨text, .done text, run⟩
  | cons segment segments ih =>
    cases run with
    | step taken run =>
      obtain ⟨middle, one, two⟩ := ih run
      exact ⟨middle, .step taken one, two⟩

theorem Run.isBlank_of_mem {text rest : List Char} {segments : List Segment} {piece : Piece}
    (run : Run .standard text segments rest)
    (member : piece ∈ segments.flatMap (Segment.pieces .standard))
    (kind : piece.kind = .whitespace) (outside : piece.internal = false) :
    ∀ c ∈ piece.source, Lexicon.standard.isBlank c = true := by
  obtain ⟨segment, listed, inside⟩ := List.mem_flatMap.mp member
  have covers := run.forall_mem fun taken => taken.isBlank_of_kind
  exact covers segment listed piece inside kind outside

/-- Two texts that are scanned to their ends are scanned in the same way with blanks between them. A
comment at the end of the first text has to end before the blanks. -/
theorem run_spaced {first second gap : List Char} {segments others : List Segment}
    (one : Run .standard first segments []) (two : Run .standard second others [])
    (nonempty : gap ≠ []) (blank : ∀ c ∈ gap, Lexicon.standard.isBlank c = true)
    (newline : ∀ segment ∈ segments.getLast?, segment.joined.kind = .comment →
      gap.head? = some '\n') :
    Run .standard (first ++ (gap ++ second)) (segments ++ (gap.map Segment.ofBlank ++ others))
      [] := by
  obtain ⟨d, gap, rfl⟩ := List.exists_cons_of_ne_nil nonempty
  have apart := Lexicon.separates_of_isBlank_standard (blank d List.mem_cons_self)
  have parted : ∀ segment ∈ segments.getLast?, segment.joined.kind = .comment → d = '\n' :=
    fun segment last comment => Option.some.inj (newline segment last comment)
  exact (one.append apart parted (gap ++ second)).trans ((run_blanks blank second).trans two)

end Scan

/-! ## The gap in the raw tokens -/

/-- Where the pieces of segments split at a blank outside literals, the segments do. -/
theorem Segment.exists_of_pieces_eq {segments : List Segment} {earlier later : List Piece}
    {piece : Piece} (delimited : ∀ segment ∈ segments, segment.Delimited .standard)
    (split : segments.flatMap (Segment.pieces .standard) = earlier ++ piece :: later)
    (blank : piece.kind = .whitespace) (outside : piece.internal = false) :
    ∃ first others, segments = first ++ .plain piece :: others ∧
      first.flatMap (Segment.pieces .standard) = earlier := by
  induction segments generalizing earlier with
  | nil => simp at split
  | cons segment segments ih =>
    obtain ⟨here, others⟩ := List.forall_mem_cons.mp delimited
    rw [List.flatMap_cons] at split
    rcases List.append_eq_append_iff.mp split with ⟨behind, rfl, onward⟩ | ⟨inner, parts, rest⟩
    · obtain ⟨first, second, rfl, rfl⟩ := ih others onward
      exact ⟨segment :: first, second, rfl, rfl⟩
    · cases inner with
      | nil =>
        have starts : segments.flatMap (Segment.pieces .standard) = [] ++ piece :: later := rest.symm
        obtain ⟨first, second, rfl, none⟩ := ih others starts
        exact ⟨segment :: first, second, rfl, by simp [none, parts]⟩
      | cons head tail =>
        obtain rfl : head = piece := (List.cons.inj rest).1.symm
        cases segment with
        | literal kind delimiter content =>
          exact absurd (by simp [parts]) (here.not_mem_pieces blank outside)
        | plain only =>
          obtain ⟨rfl, only, rfl⟩ : earlier = [] ∧ only = head ∧ tail = [] := by
            cases earlier <;> simp_all [pieces]
          exact ⟨[], segments, by rw [only, List.nil_append], rfl⟩

/-- Where the last segment is a comment, the last token is one. -/
theorem exists_comment_of_getLast? {segments : List Segment}
    (delimited : ∀ segment ∈ segments, segment.Delimited .standard) (position : Position)
    {segment : Segment} (last : segment ∈ segments.getLast?)
    (comment : segment.joined.kind = .comment) :
    ∃ token ∈ (Piece.place position (segments.flatMap (Segment.pieces .standard))).getLast?,
      token.kind = .comment := by
  obtain ⟨earlier, rfl⟩ := List.getLast?_eq_some_iff.mp last
  cases delimited segment (by simp) with
  | @plain piece unquoted outside =>
    refine ⟨piece.token (position.past
      ((earlier.flatMap (Segment.pieces .standard)).flatMap Piece.source)), ?_, comment⟩
    simp [Piece.place_append, Segment.pieces]
  | @literal kind delimiter content role free inside =>
    have quoted := Lexicon.distinctQuotes_standard.quoted delimiter kind role
    obtain rfl : kind = .comment := comment
    simp [Kind.isQuoted] at quoted

/-- What follows blanks in the raw tokens goes on to the end token. -/
theorem exists_of_append_endOfInput {tokens blanks others placed : List Token} {position : Position}
    (whole : tokens ++ blanks ++ others = placed ++ [Token.endOfInput position])
    (nonempty : blanks ≠ []) (blank : ∀ token ∈ blanks, token.kind = .whitespace) :
    ∃ inner, placed = tokens ++ (blanks ++ inner) := by
  rcases List.eq_nil_or_concat others with rfl | ⟨inner, last, rfl⟩
  · -- the end token is no blank
    rw [List.append_nil, ← List.dropLast_concat_getLast nonempty, ← List.append_assoc] at whole
    have ends := blank _ (List.getLast_mem nonempty)
    rw [List.singleton_inj.mp (List.append_inj' whole rfl).2] at ends
    exact Kind.noConfusion ends
  · rw [List.concat_eq_append, ← List.append_assoc] at whole
    exact ⟨inner, by rw [← (List.append_inj' whole rfl).1, List.append_assoc]⟩

section Gap

variable {before gap after : String} {tokens blanks others : List Token}

/-- The pieces of a text with a gap of blanks outside literals. -/
theorem exists_pieces_of_tokenize
    (scanned : tokenize .standard (before ++ gap ++ after) = .ok (tokens ++ blanks ++ others))
    (spells : String.join (tokens.map Token.lexeme) = before)
    (spellsGap : String.join (blanks.map Token.lexeme) = gap) (nonempty : blanks ≠ [])
    (blank : ∀ token ∈ blanks, token.kind = .whitespace ∧ token.internal = false) :
    ∃ segments earlier middle later,
      Scan.Run .standard (before ++ gap ++ after).toList segments [] ∧
      segments.flatMap (Segment.pieces .standard) = earlier ++ (middle ++ later) ∧
      tokens = Piece.place .start earlier ∧ before.toList = earlier.flatMap Piece.source ∧
      middle ≠ [] ∧ gap.toList = middle.flatMap Piece.source ∧
      ∀ piece ∈ middle, piece.kind = .whitespace ∧ piece.internal = false := by
  obtain ⟨segments, run, raw⟩ := run_of_tokenize scanned
  obtain ⟨inner, placed⟩ :=
    exists_of_append_endOfInput raw nonempty fun token member => (blank token member).1
  obtain ⟨earlier, rest, split, rfl, placedRest⟩ := Piece.exists_of_place_append placed
  obtain ⟨middle, later, rfl, rfl, rfl⟩ := Piece.exists_of_place_append placedRest.symm
  have spelled := run.spelled Lexicon.legible_standard
  rw [split] at spelled
  refine ⟨segments, earlier, middle, later, run, split, rfl, ?_, ?_, ?_, ?_⟩
  · rw [← spells, Piece.join_lexeme_place fun piece member => spelled piece (by simp [member]),
      String.toList_ofList]
  · rintro rfl
    exact nonempty rfl
  · rw [← spellsGap, Piece.join_lexeme_place fun piece member => spelled piece (by simp [member]),
      String.toList_ofList]
  · intro piece member
    obtain ⟨place, placed⟩ := Piece.exists_mem_place member
      (Position.start.past (earlier.flatMap Piece.source))
    exact blank _ placed

/-- The texts before and behind a gap of blanks outside literals are scanned as if they stood
alone. -/
theorem exists_runs_of_tokenize
    (scanned : tokenize .standard (before ++ gap ++ after) = .ok (tokens ++ blanks ++ others))
    (spells : String.join (tokens.map Token.lexeme) = before)
    (spellsGap : String.join (blanks.map Token.lexeme) = gap) (nonempty : gap ≠ "")
    (blank : ∀ token ∈ blanks, token.kind = .whitespace ∧ token.internal = false) :
    ∃ first second,
      Scan.Run .standard (before ++ gap ++ after).toList
        (first ++ (gap.toList.map Segment.ofBlank ++ second)) [] ∧
      Scan.Run .standard before.toList first [] ∧ Scan.Run .standard after.toList second [] ∧
      ∀ segment ∈ first.getLast?, segment.joined.kind = .comment →
        ∃ token ∈ tokens.getLast?, token.kind = .comment := by
  have some : blanks ≠ [] := by
    rintro rfl
    exact nonempty spellsGap.symm
  obtain ⟨segments, earlier, middle, later, run, split, rfl, source, someMiddle, sourceGap, space⟩ :=
    exists_pieces_of_tokenize scanned spells spellsGap some blank
  have delimited := run.forall_mem fun taken => taken.delimited Lexicon.distinctQuotes_standard
  have gapBlank : ∀ c ∈ gap.toList, Lexicon.standard.isBlank c = true := by
    rw [sourceGap]
    intro c member
    obtain ⟨piece, listed, covered⟩ := List.mem_flatMap.mp member
    have inside : piece ∈ segments.flatMap (Segment.pieces .standard) := by simp [split, listed]
    exact run.isBlank_of_mem inside (space piece listed).1 (space piece listed).2 c covered
  obtain ⟨piece, middle, rfl⟩ := List.exists_cons_of_ne_nil someMiddle
  obtain ⟨kind, outside⟩ := space piece List.mem_cons_self
  obtain ⟨first, second, rfl, pieces⟩ := Segment.exists_of_pieces_eq delimited split kind outside
  obtain ⟨remaining, one, two⟩ := run.exists_middle
  obtain rfl : remaining = gap.toList ++ after.toList := by
    have covers := one.source_pieces_append
    simpa [pieces, ← source] using covers
  obtain ⟨second, behind, three⟩ := two.of_blanks gapBlank
  refine ⟨first, second, behind ▸ run, ?_, three, fun segment last comment => ?_⟩
  · obtain ⟨d, spaces, starts⟩ :=
      List.exists_cons_of_ne_nil (show gap.toList ≠ [] by simpa using nonempty)
    have apart := Lexicon.separates_of_isBlank_standard (gapBlank d (by simp [starts]))
    have stops : Scan.Run .standard (before.toList ++ d :: (spaces ++ after.toList)) first
        ([] ++ d :: (spaces ++ after.toList)) := by
      simpa [starts] using one
    exact stops.of_append Lexicon.not_stallsAtNewline_standard Lexicon.legible_standard.compound
      (apart.closedBefore_cons _)
  · rw [← pieces]
    exact exists_comment_of_getLast? (fun segment member => delimited segment (by simp [member]))
      .start last comment

end Gap

/-! ## Tidy tokens without their places -/

/-- What a text is turned into by a run to its end. -/
theorem lex_of_run {text : String} {segments : List Segment}
    (run : Scan.Run .standard text.toList segments []) :
    lex .standard text = .ok (Stream.dropBlanks (Stream.joinOperators .standard
        (Piece.place .start (segments.map Segment.joined))) ++
      [Token.endOfInput (Position.behind text.toList)]) := by
  rw [lex_eq_of_scan Lexicon.distinctQuotes_standard,
    Scan.ofText_of_finished Lexicon.not_stallsAtNewline_standard Lexicon.legible_standard.compound
      run]

theorem Stream.tidy_unplaced (tokens : List Token) :
    (dropBlanks (joinOperators lexicon tokens)).map Token.unplaced =
      dropBlanks (joinOperators lexicon (tokens.map Token.unplaced)) := by
  rw [Token.unplaced, joinOperators_map, dropBlanks_map]

theorem Stream.isOperatorPiece_of_blank {token : Token} (blank : token.kind = .whitespace) :
    isOperatorPiece lexicon token = false := by
  simp [isOperatorPiece, blank]

/-- Blanks at the beginning are left out. -/
theorem Stream.tidy_blanks {gap : List Token} (blank : ∀ token ∈ gap, token.kind = .whitespace)
    (after : List Token) :
    dropBlanks (joinOperators lexicon (gap ++ after)) =
      dropBlanks (joinOperators lexicon after) := by
  induction gap with
  | nil => rfl
  | cons token gap ih =>
    obtain ⟨first, others⟩ := List.forall_mem_cons.mp blank
    rw [List.cons_append, joinOperators_cons (isOperatorPiece_of_blank first), dropBlanks,
      List.filter_cons_of_neg (by simp [first])]
    exact ih others

/-- Blanks end the operators before them and are left out. -/
theorem Stream.tidy_gap {gap : List Token} (nonempty : gap ≠ [])
    (blank : ∀ token ∈ gap, token.kind = .whitespace) (before after : List Token) :
    dropBlanks (joinOperators lexicon (before ++ (gap ++ after))) =
      dropBlanks (joinOperators lexicon before) ++ dropBlanks (joinOperators lexicon after) := by
  obtain ⟨token, gap, rfl⟩ := List.exists_cons_of_ne_nil nonempty
  obtain ⟨first, others⟩ := List.forall_mem_cons.mp blank
  rw [List.cons_append, joinOperators_append_cons (isOperatorPiece_of_blank first), dropBlanks,
    List.filter_append, List.filter_cons_of_neg (by simp [first])]
  exact congrArg _ (tidy_blanks others after)

/-- The tidy tokens of a text with a gap do not depend on the gap, places apart. -/
theorem lex_spaced {text : String} {gap : List Char} {first second : List Segment}
    (run : Scan.Run .standard text.toList (first ++ (gap.map Segment.ofBlank ++ second)) [])
    (nonempty : gap ≠ []) :
    ∃ tokens, lex .standard text = .ok tokens ∧
      tokens.map Token.unplaced =
        Stream.dropBlanks (Stream.joinOperators .standard
            (first.map fun segment => segment.joined.token .start)) ++
          Stream.dropBlanks (Stream.joinOperators .standard
            (second.map fun segment => segment.joined.token .start)) ++
          [Token.endOfInput .start] := by
  refine ⟨_, lex_of_run run, ?_⟩
  rw [List.map_append, Stream.tidy_unplaced, Piece.place_unplaced, List.map_map, List.map_append,
    List.map_append, Stream.tidy_gap]
  · rfl
  · simpa using nonempty
  · simp [Segment.ofBlank, Segment.joined, Piece.token]

/-! ## Programs -/

/-- The program of a text, or its error without places, is that of the tokens without places. -/
theorem parseSource_unplaced {text : String} {tokens : List Token}
    (lexed : lex .standard text = .ok tokens) :
    (parseSource .standard text).mapError SourceError.unplaced =
      (parseTokens (tokens.map Token.unplaced)).mapError .grammatical := by
  obtain ⟨body, rfl, -, -⟩ := lex_parted lexed
  have ended : ∃ token ∈ body ++ [Token.endOfInput (Position.behind text.toList)],
      token.kind = .endOfInput :=
    ⟨_, List.mem_append_right _ (List.mem_singleton_self _), rfl⟩
  have moved := parseTokens_map (Token.likeness_relocated fun _ => .start) ended
  have read : parseSource .standard text =
      (parseTokens (body ++ [Token.endOfInput (Position.behind text.toList)])).mapError
        .grammatical := by
    rw [parseSource_eq_of_lex, lexed]
  rw [Token.unplaced, moved, read]
  cases parseTokens (body ++ [Token.endOfInput (Position.behind text.toList)]) <;> rfl

/-- A gap of blanks outside literals and comments may be replaced by any other one, which has to
begin with a newline if the token before it is a comment. The tidy tokens stay the same, places
apart, and so does the program or the error. -/
theorem parseSource_respaced {before gap after newGap : String} {tokens blanks others : List Token}
    (scanned : tokenize .standard (before ++ gap ++ after) = .ok (tokens ++ blanks ++ others))
    (spells : String.join (tokens.map Token.lexeme) = before)
    (spellsGap : String.join (blanks.map Token.lexeme) = gap) (nonempty : gap ≠ "")
    (blank : ∀ token ∈ blanks, token.kind = .whitespace ∧ token.internal = false)
    (newNonempty : newGap ≠ "") (newBlank : ∀ c ∈ newGap.toList, Lexicon.standard.isBlank c = true)
    (newline : ∀ token ∈ tokens.getLast?, token.kind = .comment →
      newGap.toList.head? = some '\n') :
    (∃ lexed relexed, lex .standard (before ++ gap ++ after) = .ok lexed ∧
        lex .standard (before ++ newGap ++ after) = .ok relexed ∧
        relexed.map Token.unplaced = lexed.map Token.unplaced) ∧
      (parseSource .standard (before ++ newGap ++ after)).mapError SourceError.unplaced =
        (parseSource .standard (before ++ gap ++ after)).mapError SourceError.unplaced := by
  obtain ⟨first, second, run, one, two, comment⟩ :=
    exists_runs_of_tokenize scanned spells spellsGap nonempty blank
  have parted : ∀ segment ∈ first.getLast?, segment.joined.kind = .comment →
      newGap.toList.head? = some '\n' := by
    intro segment last kind
    obtain ⟨token, lastToken, tokenKind⟩ := comment segment last kind
    exact newline token lastToken tokenKind
  have rerun : Scan.Run .standard (before ++ newGap ++ after).toList
      (first ++ (newGap.toList.map Segment.ofBlank ++ second)) [] := by
    simpa using Scan.run_spaced one two (by simpa using newNonempty) newBlank parted
  obtain ⟨lexed, lexing, shape⟩ := lex_spaced run (by simpa using nonempty)
  obtain ⟨relexed, relexing, reshape⟩ := lex_spaced rerun (by simpa using newNonempty)
  have same := reshape.trans shape.symm
  refine ⟨⟨lexed, relexed, lexing, relexing, same⟩, ?_⟩
  rw [parseSource_unplaced relexing, parseSource_unplaced lexing, same]

/-- A comment before the gap, and an error at the token behind it. -/
theorem parseSource_respaced_comment :
    let tokens := [
      { kind := .identifier, lexeme := "a", position := ⟨1, 1⟩ },
      { kind := .operator, lexeme := "==", position := ⟨1, 2⟩, closed := some true },
      { kind := .comment, lexeme := "# c", position := ⟨1, 4⟩ : Token }]
    let blanks := [
      { kind := .whitespace, lexeme := "\n", position := ⟨1, 7⟩ : Token },
      { kind := .whitespace, lexeme := " ", position := ⟨2, 1⟩ }]
    let others := [
      { kind := .hyphen, lexeme := "-", position := ⟨2, 2⟩, closed := some true : Token },
      Token.endOfInput ⟨2, 3⟩]
    tokenize .standard ("a==# c" ++ "\n " ++ "-") = .ok (tokens ++ blanks ++ others) ∧
      String.join (tokens.map Token.lexeme) = "a==# c" ∧
      String.join (blanks.map Token.lexeme) = "\n " ∧
      (∀ token ∈ blanks, token.kind = .whitespace ∧ token.internal = false) ∧
      (∀ c ∈ "\n\t\n".toList, Lexicon.standard.isBlank c = true) ∧
      (∀ token ∈ tokens.getLast?, token.kind = .comment → "\n\t\n".toList.head? = some '\n') ∧
      (parseSource .standard ("a==# c" ++ "\n\t\n" ++ "-")).mapError SourceError.unplaced =
        .error (.grammatical {
          cause := .unrecognizedPrimary
          tokens := [{
            kind := .hyphen, lexeme := "-", position := .start, closed := some true }] }) := by
  intro tokens blanks others
  have scanned : tokenize .standard ("a==# c" ++ "\n " ++ "-") =
      .ok (tokens ++ blanks ++ others) := by
    decide +kernel
  have spells : String.join (tokens.map Token.lexeme) = "a==# c" := by decide +kernel
  have spellsGap : String.join (blanks.map Token.lexeme) = "\n " := by decide +kernel
  have blank : ∀ token ∈ blanks, token.kind = .whitespace ∧ token.internal = false := by decide
  have newBlank : ∀ c ∈ "\n\t\n".toList, Lexicon.standard.isBlank c = true :=
    List.all_eq_true.mp (by decide +kernel)
  have newline : ∀ token ∈ tokens.getLast?, token.kind = .comment →
      "\n\t\n".toList.head? = some '\n' := by
    decide +kernel
  have respaced := parseSource_respaced scanned spells spellsGap (by decide) blank (by decide)
    newBlank newline
  exact ⟨scanned, spells, spellsGap, blank, newBlank, newline, respaced.2⟩

end Kite
