import Kite.Lexicon
import Kite.Piece

/-!
# Segments of a source text

A segment is what one step of scanning takes from a text: a plain piece, or a whole
quoted literal from its opening to its closing delimiter. A literal falls into a piece
for each delimiter and pieces for its content, which keep escapes, blanks and other
quote characters apart from the runs of plain text between them. The pieces of a
segment cover exactly the text of the segment.
-/

set_option autoImplicit false

namespace Kite

/-- What one step of scanning takes from a text. -/
inductive Segment where
  /-- A piece outside quoted literals. -/
  | plain (piece : Piece)
  /-- A literal with its content between two equal delimiters. -/
  | literal (kind : Kind) (delimiter : Char) (content : List Char)
  deriving DecidableEq, Repr

namespace Segment

/-- The piece of a run of plain text inside a literal; the run is given backwards, and an empty
run has no piece. -/
def runPieces (run : List Char) : List Piece :=
  if run.isEmpty then [] else [{ kind := .unknown, source := run.reverse, internal := true }]

/-- The pieces of the content of a literal, with the run of plain text before it given
backwards. -/
def contentPieces (lexicon : Lexicon) (run : List Char) : List Char → List Piece
  | [] => runPieces run
  | '\\' :: c :: rest =>
    runPieces run ++
      { kind := .escape, source := ['\\', c], internal := true } :: contentPieces lexicon [] rest
  | c :: rest =>
    if lexicon.isBlank c then
      runPieces run ++
        { kind := .whitespace, source := [c], internal := true } :: contentPieces lexicon [] rest
    else
      match lexicon.quote? c with
      | some kind =>
        runPieces run ++
          { kind := kind, source := [c], internal := true } :: contentPieces lexicon [] rest
      | none => contentPieces lexicon (c :: run) rest

/-- The pieces of a segment. -/
def pieces (lexicon : Lexicon) : Segment → List Piece
  | .plain piece => [piece]
  | .literal kind delimiter content =>
    { kind := kind, source := [delimiter] } ::
      contentPieces lexicon [] content ++ [{ kind := kind, source := [delimiter] }]

/-- The source text that a segment covers. -/
def source : Segment → List Char
  | .plain piece => piece.source
  | .literal _ delimiter content => delimiter :: content ++ [delimiter]

theorem flatMap_source_runPieces (run : List Char) :
    (runPieces run).flatMap Piece.source = run.reverse := by
  cases run <;> simp [runPieces]

theorem flatMap_source_contentPieces (lexicon : Lexicon) (run content : List Char) :
    (contentPieces lexicon run content).flatMap Piece.source = run.reverse ++ content := by
  fun_induction contentPieces lexicon run content <;>
    simp_all [flatMap_source_runPieces]

/-- The pieces of a segment cover its text. -/
theorem flatMap_source_pieces (lexicon : Lexicon) (segment : Segment) :
    (segment.pieces lexicon).flatMap Piece.source = segment.source := by
  cases segment <;> simp [pieces, source, flatMap_source_contentPieces]

end Segment

end Kite
