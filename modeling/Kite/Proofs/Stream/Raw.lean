import Kite.Proofs.Positions
import Kite.Proofs.Scanning.Run
import Kite.Stream.Raw

/-!
# The raw stream loses nothing

Raw tokens are the pieces of a run of the scanner at their places (`run_of_tokenize`).
If every piece spells the text that it covers, the lexemes make up the source text, and
the lexemes before a token tell where the token stands. `lossless_tokenize` states this
for every lexicon that extends the standard one without new punctuation.
-/

set_option autoImplicit false

namespace Kite

/-- Raw tokens are the pieces of the scan, which runs to the end of the text, followed by the end
token. -/
theorem scan_of_tokenize {lexicon : Lexicon} {text : String} {tokens : List Token}
    (scanned : tokenize lexicon text = .ok tokens) :
    Scan.Run lexicon text.toList (Scan.ofText lexicon text.toList).segments [] ∧
      tokens = Piece.place Position.start ((Scan.ofText lexicon text.toList).pieces lexicon) ++
        [Token.endOfInput (Position.behind text.toList)] := by
  unfold tokenize at scanned
  cases failure : (Scan.ofText lexicon text.toList).failure with
  | some cause => simp [failure] at scanned
  | none =>
    have run := Scan.run_ofText failure
    have covered : (Scan.ofText lexicon text.toList).source = text.toList := by
      simpa [Scan.source] using run.source_append
    refine ⟨run, ?_⟩
    simpa [failure, covered, Position.start_past] using scanned.symm

/-- Raw tokens are the pieces of a run to the end of the text, followed by the end token. -/
theorem run_of_tokenize {lexicon : Lexicon} {text : String} {tokens : List Token}
    (scanned : tokenize lexicon text = .ok tokens) :
    ∃ segments, Scan.Run lexicon text.toList segments [] ∧
      tokens = Piece.place Position.start (segments.flatMap (Segment.pieces lexicon)) ++
        [Token.endOfInput (Position.behind text.toList)] :=
  ⟨_, scan_of_tokenize scanned⟩

namespace Piece

theorem exists_of_mem_place {pieces : List Piece} {position : Position} {token : Token}
    (member : token ∈ place position pieces) :
    ∃ piece ∈ pieces, ∃ place, token = piece.token place := by
  induction pieces generalizing position with
  | nil => simp at member
  | cons piece pieces ih =>
    rcases List.mem_cons.mp member with rfl | later
    · exact ⟨piece, List.mem_cons_self, position, rfl⟩
    · obtain ⟨found, listed, place, rfl⟩ := ih later
      exact ⟨found, List.mem_cons_of_mem _ listed, place, rfl⟩

theorem exists_mem_place {pieces : List Piece} {piece : Piece} (member : piece ∈ pieces)
    (position : Position) : ∃ place, piece.token place ∈ Piece.place position pieces := by
  obtain ⟨earlier, later, rfl⟩ := List.append_of_mem member
  exact ⟨position.past (earlier.flatMap source), by simp [place_append]⟩

/-- Where placed pieces split, the pieces do. -/
theorem exists_of_place_append {pieces : List Piece} {position : Position}
    {before after : List Token} (split : place position pieces = before ++ after) :
    ∃ earlier later, pieces = earlier ++ later ∧ before = place position earlier ∧
      after = place (position.past (earlier.flatMap source)) later := by
  induction before generalizing pieces position with
  | nil => exact ⟨[], pieces, rfl, rfl, split.symm⟩
  | cons first before ih =>
    cases pieces with
    | nil => simp at split
    | cons piece pieces =>
      obtain ⟨rfl, others⟩ := List.cons.inj split
      obtain ⟨earlier, later, rfl, rfl, rfl⟩ := ih others
      exact ⟨piece :: earlier, later, rfl, rfl, by simp [Position.past_append]⟩

/-- A token among placed pieces is one of these pieces, and the tokens before and after it are the
pieces before and after it. -/
theorem exists_of_place_eq {pieces : List Piece} {position : Position} {before after : List Token}
    {token : Token} (split : place position pieces = before ++ token :: after) :
    ∃ earlier piece later, pieces = earlier ++ piece :: later ∧ before = place position earlier ∧
      token = piece.token (position.past (earlier.flatMap source)) ∧
      after = place (position.past ((earlier ++ [piece]).flatMap source)) later := by
  obtain ⟨earlier, rest, rfl, rfl, found⟩ := exists_of_place_append split
  cases rest with
  | nil => simp at found
  | cons piece later =>
    obtain ⟨rfl, rfl⟩ := List.cons.inj found
    exact ⟨earlier, piece, later, rfl, rfl, rfl, by simp [Position.past_append]⟩

/-- The lexemes of spelled pieces make up the text that the pieces cover. -/
theorem join_lexeme_place {pieces : List Piece} (spelled : ∀ piece ∈ pieces, piece.Spelled)
    (position : Position) :
    String.join ((place position pieces).map Token.lexeme) =
      String.ofList (pieces.flatMap Piece.source) := by
  induction pieces generalizing position with
  | nil => rfl
  | cons piece pieces ih =>
    obtain ⟨first, others⟩ := List.forall_mem_cons.mp spelled
    simp [token, ih others, first.lexeme_eq]

theorem position_of_place {pieces : List Piece} (spelled : ∀ piece ∈ pieces, piece.Spelled)
    {position : Position} {before after : List Token} {token : Token}
    (split : place position pieces = before ++ token :: after) :
    token.position = position.past (String.join (before.map Token.lexeme)).toList := by
  obtain ⟨earlier, piece, later, rfl, rfl, rfl, -⟩ := exists_of_place_eq split
  have spelledEarlier : ∀ piece ∈ earlier, piece.Spelled :=
    fun piece member => spelled piece (List.mem_append_left _ member)
  rw [join_lexeme_place spelledEarlier, String.toList_ofList]
  rfl

end Piece

/-- Under an extension of the standard lexicon without new punctuation, the lexemes of the raw
tokens are nonempty and make up the source text, every token has the line and the column that
counting the characters before it gives, and the last token is the end token just past the
text. -/
theorem lossless_tokenize {entries : List Lexicon.Entry}
    (others : ∀ c kind, .punctuation c kind ∉ entries) {text : String} {tokens : List Token}
    (scanned : tokenize (Lexicon.standard.extend entries) text = .ok tokens) :
    ∃ body, tokens = body ++ [Token.endOfInput (Position.behind text.toList)] ∧
      String.join (body.map Token.lexeme) = text ∧
      (∀ token ∈ body, token.lexeme ≠ "") ∧
      ∀ before token after, body = before ++ token :: after →
        token.position = Position.behind (String.join (before.map Token.lexeme)).toList := by
  obtain ⟨segments, run, rfl⟩ := run_of_tokenize scanned
  have spelled := run.spelled (Lexicon.legible_extend_standard others)
  refine ⟨_, rfl, ?_, ?_, ?_⟩
  · have covered := run.source_pieces_append
    rw [List.append_nil] at covered
    rw [Piece.join_lexeme_place spelled, covered, String.ofList_toList]
  · intro token member
    obtain ⟨piece, listed, place, rfl⟩ := Piece.exists_of_mem_place member
    exact (spelled piece listed).lexeme_ne_empty
  · intro before token after split
    rw [Piece.position_of_place spelled split, Position.start_past]

/-- Two lines with a literal between custom delimiters. -/
theorem lossless_tokenize_custom_quote :
    (∀ c kind, .punctuation c kind ∉ [Lexicon.Entry.quote '|' (.quoted .string)]) ∧
    ∃ body,
      tokenize (Lexicon.standard.extend [.quote '|' (.quoted .string)]) "x\n|y z|" =
        .ok (body ++ [Token.endOfInput ⟨2, 6⟩]) ∧
      String.join (body.map Token.lexeme) = "x\n|y z|" ∧ body.length = 7 := by
  have others : ∀ c kind, .punctuation c kind ∉ [Lexicon.Entry.quote '|' (.quoted .string)] := by
    simp
  have scanned : tokenize (Lexicon.standard.extend [.quote '|' (.quoted .string)]) "x\n|y z|" =
      .ok [
        { kind := .identifier, lexeme := "x", position := ⟨1, 1⟩ },
        { kind := .whitespace, lexeme := "\n", position := ⟨1, 2⟩ },
        { kind := .quoted .string, lexeme := "|", position := ⟨2, 1⟩ },
        { kind := .unknown, lexeme := "y", position := ⟨2, 2⟩, internal := true },
        { kind := .whitespace, lexeme := " ", position := ⟨2, 3⟩, internal := true },
        { kind := .unknown, lexeme := "z", position := ⟨2, 4⟩, internal := true },
        { kind := .quoted .string, lexeme := "|", position := ⟨2, 5⟩ },
        Token.endOfInput ⟨2, 6⟩] := by
    decide +kernel
  obtain ⟨body, tokens, spelled, -, -⟩ := lossless_tokenize others scanned
  have finish : Position.behind "x\n|y z|".toList = ⟨2, 6⟩ := by decide +kernel
  rw [finish] at tokens
  refine ⟨others, body, by rw [← tokens]; exact scanned, spelled, ?_⟩
  have length := congrArg List.length tokens
  simpa using length.symm

end Kite
