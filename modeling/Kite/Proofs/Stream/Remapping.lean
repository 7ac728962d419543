import Kite.Proofs.Scanning.Progress
import Kite.Proofs.Stream.Raw

/-!
# Which tokens keep their text when roles change

A character may be given any role, and its token reports the character, with one
exception: a character with the role of the hyphen is reported as `-`, whatever character
it is. So the raw tokens of a text spell it exactly if each of them that is reported as a
hyphen, or as an arrow, stands at a hyphen of the text (`spell_tokenize_iff`). Where `~` has
the role of the hyphen, the text `~` is not spelled by its token (`tokenize_other_hyphen`).
-/

set_option autoImplicit false

namespace Kite

/-- The given characters stand in a text from a position on. -/
def Position.Shows (position : Position) (text shown : List Char) : Prop :=
  ∃ before after, text = before ++ shown ++ after ∧ position = Position.behind before

theorem Position.Shows.head_eq {position : Position} {text shown others : List Char} {c d : Char}
    (one : position.Shows text (c :: shown)) (two : position.Shows text (d :: others)) :
    c = d := by
  obtain ⟨before, after, rfl, rfl⟩ := one
  obtain ⟨other, rest, split, same⟩ := two
  rw [List.append_assoc, List.append_assoc] at split
  obtain rfl := Position.eq_of_behind_eq split same
  exact (List.cons.inj (List.append_cancel_left split)).1

/-- Every token stands in the text where its position says, and the tokens make up the text. -/
structure Token.Spell (tokens : List Token) (text : List Char) : Prop where
  shown : ∀ token ∈ tokens, token.position.Shows text token.lexeme.toList
  join : String.join (tokens.map Token.lexeme) = String.ofList text

/-- A token that is reported as a hyphen or as an arrow. -/
def Token.ReportsHyphen (token : Token) : Prop :=
  token.lexeme = "-" ∨ token.lexeme = "->"

namespace Piece

/-- The place of a piece shows the text that the piece covers. -/
theorem shows_of_append (earlier : List Piece) (piece : Piece) (later : List Piece) :
    (Position.start.past (earlier.flatMap source)).Shows
      ((earlier ++ piece :: later).flatMap source) piece.source :=
  ⟨earlier.flatMap source, later.flatMap source, by simp, Position.start_past _⟩

/-- Pieces that spell what they cover become tokens that spell the text. -/
theorem spell_place {pieces : List Piece} (spelled : ∀ piece ∈ pieces, piece.Spelled) :
    Token.Spell (place .start pieces) (pieces.flatMap source) where
  shown token member := by
    obtain ⟨before, after, split⟩ := List.append_of_mem member
    obtain ⟨earlier, piece, later, rfl, -, rfl, -⟩ := exists_of_place_eq split
    have own : piece.lexeme.toList = piece.source := (spelled piece (by simp)).lexeme
    simpa [Piece.token, own] using shows_of_append earlier piece later
  join := join_lexeme_place spelled .start

theorem ReportsHyphen.token {lexicon : Lexicon} {piece : Piece}
    (reports : piece.ReportsHyphen lexicon) (place : Position) :
    (piece.token place).ReportsHyphen := by
  obtain ⟨c, -, ⟨-, lexeme⟩ | ⟨-, lexeme⟩⟩ := reports
  · exact .inl lexeme
  · exact .inr lexeme

/-- A piece for a hyphen spells what it covers if a hyphen stands there. -/
theorem ReportsHyphen.spelled {lexicon : Lexicon} {piece : Piece}
    (reports : piece.ReportsHyphen lexicon)
    (hyphen : ∀ c ∈ piece.source.head?, lexicon.punctuation? c = some .hyphen → c = '-') :
    piece.Spelled := by
  obtain ⟨c, role, ⟨source, lexeme⟩ | ⟨source, lexeme⟩⟩ := reports
  · obtain rfl : c = '-' := hyphen c (by simp [source]) role
    exact ⟨by simp [source, lexeme], by simp [source]⟩
  · obtain rfl : c = '-' := hyphen c (by simp [source]) role
    exact ⟨by simp [source, lexeme], by simp [source]⟩

/-- If only hyphens and arrows may fail to spell what they cover, the tokens spell the text exactly
if hyphens and arrows stand at hyphens of the text. -/
theorem spell_place_iff {lexicon : Lexicon} {pieces : List Piece}
    (either : ∀ piece ∈ pieces, piece.Spelled ∨ piece.ReportsHyphen lexicon) :
    Token.Spell (place .start pieces) (pieces.flatMap source) ↔
      ∀ token ∈ place .start pieces, token.ReportsHyphen →
        token.position.Shows (pieces.flatMap source) ['-'] := by
  constructor
  · intro spell token member reports
    obtain ⟨before, after, text, place⟩ := spell.shown token member
    rcases reports with lexeme | lexeme
    · exact ⟨before, after, by simpa [lexeme] using text, place⟩
    · exact ⟨before, '>' :: after, by simpa [lexeme] using text, place⟩
  · intro kept
    refine spell_place fun piece member => ?_
    rcases either piece member with spelled | reports
    · exact spelled
    · obtain ⟨earlier, later, rfl⟩ := List.append_of_mem member
      have placed : piece.token (Position.start.past (earlier.flatMap source)) ∈
          place .start (earlier ++ piece :: later) := by
        simp [place_append]
      have hyphen := kept _ placed (reports.token _)
      have own := shows_of_append earlier piece later
      refine reports.spelled fun c first _ => ?_
      obtain ⟨others, covers⟩ := List.head?_eq_some_iff.mp first
      rw [covers] at own
      exact own.head_eq hyphen

end Piece

/-- Under every extension of the standard lexicon, the raw tokens of a text before the end token
spell the text exactly if those of them that are reported as hyphens or as arrows stand at hyphens
of the text. If no other character has the role of the hyphen, then they do. -/
theorem spell_tokenize_iff {entries : List Lexicon.Entry} {text : String} {tokens : List Token}
    (scanned : tokenize (Lexicon.standard.extend entries) text = .ok tokens) :
    ∃ body, tokens = body ++ [Token.endOfInput (Position.behind text.toList)] ∧
      (Token.Spell body text.toList ↔
        ∀ token ∈ body, token.ReportsHyphen → token.position.Shows text.toList ['-']) ∧
      ((∀ c, (Lexicon.standard.extend entries).punctuation? c = some .hyphen → c = '-') →
        Token.Spell body text.toList) := by
  obtain ⟨segments, run, rfl⟩ := run_of_tokenize scanned
  have newline : (Lexicon.standard.extend entries).isBlank '\n' = false →
      (Lexicon.standard.extend entries).punctuation? '\n' ≠ some .comment :=
    fun notBlank role =>
      Lexicon.not_stallsAtNewline_extend_standard entries ⟨notBlank, role⟩
  have named := (Lexicon.Built.standard.extend entries).empty_not_mem_compounds
  have either : ∀ piece ∈ segments.flatMap (Segment.pieces (Lexicon.standard.extend entries)),
      piece.Spelled ∨ piece.ReportsHyphen (Lexicon.standard.extend entries) := by
    intro piece member
    obtain ⟨segment, listed, inside⟩ := List.mem_flatMap.mp member
    exact run.forall_mem (P := fun segment => ∀ piece ∈ segment.pieces _, _)
      (fun taken _ member => taken.spelled_or_reportsHyphen newline named member)
      segment listed piece inside
  have covered := run.source_pieces_append
  rw [List.append_nil] at covered
  rw [← covered]
  refine ⟨_, rfl, Piece.spell_place_iff either, fun only => Piece.spell_place ?_⟩
  intro piece member
  rcases either piece member with spelled | reports
  · exact spelled
  · exact reports.spelled fun c _ role => only c role

/-- A character with the role of the hyphen stands in a literal only, and another character is a
comma. -/
theorem spell_tokenize_iff_in_literal :
    let entries := [Lexicon.Entry.punctuation '~' .hyphen, .punctuation '%' .comma]
    ∃ body,
      tokenize (Lexicon.standard.extend entries) "a->b%-1 \"~\"" =
        .ok (body ++ [Token.endOfInput ⟨1, 12⟩]) ∧
      (∀ token ∈ body, token.ReportsHyphen →
        token.position.Shows "a->b%-1 \"~\"".toList ['-']) ∧
      body.length = 10 ∧ Token.Spell body "a->b%-1 \"~\"".toList := by
  intro entries
  have scanned : tokenize (Lexicon.standard.extend entries) "a->b%-1 \"~\"" =
      .ok ([
        { kind := .identifier, lexeme := "a", position := ⟨1, 1⟩ },
        { kind := .arrow, lexeme := "->", position := ⟨1, 2⟩, closed := some true },
        { kind := .identifier, lexeme := "b", position := ⟨1, 4⟩ },
        { kind := .comma, lexeme := "%", position := ⟨1, 5⟩ },
        { kind := .hyphen, lexeme := "-", position := ⟨1, 6⟩, closed := some true },
        { kind := .number, lexeme := "1", position := ⟨1, 7⟩ },
        { kind := .whitespace, lexeme := " ", position := ⟨1, 8⟩ },
        { kind := .quoted .string, lexeme := "\"", position := ⟨1, 9⟩ },
        { kind := .unknown, lexeme := "~", position := ⟨1, 10⟩, internal := true },
        { kind := .quoted .string, lexeme := "\"", position := ⟨1, 11⟩ }] ++
        [Token.endOfInput ⟨1, 12⟩]) := by
    decide +kernel
  obtain ⟨body, tokens, spell, -⟩ := spell_tokenize_iff scanned
  obtain ⟨rfl, -⟩ := List.append_inj' tokens rfl
  refine ⟨_, scanned, ?kept, rfl, spell.mpr ?kept⟩
  simp only [List.forall_mem_cons, Token.ReportsHyphen]
  refine ⟨by simp, fun _ => ⟨"a".toList, ">b%-1 \"~\"".toList, rfl, by decide⟩, by simp, by simp,
    fun _ => ⟨"a->b%".toList, "1 \"~\"".toList, rfl, by decide⟩, by simp⟩

/-- A character with the role of the hyphen is reported as a hyphen, so the only token of the text
does not stand in the text, and it does not make it up. -/
theorem tokenize_other_hyphen :
    ∃ token,
      tokenize (Lexicon.standard.extend [.punctuation '~' .hyphen]) "~" =
        .ok [token, Token.endOfInput ⟨1, 2⟩] ∧
      token = { kind := .hyphen, lexeme := "-", position := ⟨1, 1⟩, closed := some true } ∧
      ¬ token.position.Shows "~".toList token.lexeme.toList ∧
      String.join ([token].map Token.lexeme) ≠ "~" := by
  refine ⟨_, by decide +kernel, rfl, fun shows => ?_, by decide⟩
  have tilde : Position.Shows ⟨1, 1⟩ "~".toList ['~'] := ⟨[], [], rfl, rfl⟩
  exact absurd (shows.head_eq tilde) (by decide)

end Kite
