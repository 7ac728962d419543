import Kite.Proofs.Positions
import Kite.Stream.Tidy

/-!
# Tokens at other places

No pass over the tidy stream looks at the places of tokens. Moving all tokens of a stream
therefore commutes with joining its operators (`joinOperators_map`) and with leaving out
its blanks (`dropBlanks_map`). Pieces of a text that begins some lines further down are
moved down by as many lines (`place_lowered`).
-/

set_option autoImplicit false

namespace Kite

/-- The token at another place. -/
def Token.relocated (move : Position → Position) (token : Token) : Token :=
  { token with position := move token.position }

variable (move : Position → Position)

@[simp] theorem Token.relocated_kind (token : Token) :
    (token.relocated move).kind = token.kind := rfl

@[simp] theorem Token.relocated_lexeme (token : Token) :
    (token.relocated move).lexeme = token.lexeme := rfl

@[simp] theorem Token.relocated_isGlued (token : Token) :
    (token.relocated move).isGlued = token.isGlued := rfl

/-- Pieces of a text further down become tokens further down. -/
theorem Piece.place_lowered (position : Position) (lines : Nat) (pieces : List Piece) :
    place (position.lowered lines) pieces =
      (place position pieces).map (Token.relocated (·.lowered lines)) := by
  induction pieces generalizing position with
  | nil => rfl
  | cons piece pieces ih =>
    rw [place_cons, place_cons, Position.lowered_past, ih, List.map_cons]
    rfl

namespace Stream

variable {lexicon : Lexicon}

theorem isOperatorPiece_relocated (token : Token) :
    isOperatorPiece lexicon (token.relocated move) = isOperatorPiece lexicon token := rfl

theorem continuesRun_relocated (run : List Token) (piece : Token) :
    continuesRun (run.map (Token.relocated move)) (piece.relocated move) =
      continuesRun run piece := by
  rcases run with _ | ⟨last, _ | ⟨second, others⟩⟩ <;> rfl

theorem operatorOfRun_map (run : List Token) :
    operatorOfRun (run.map (Token.relocated move)) =
      (operatorOfRun run).map (Token.relocated move) := by
  unfold operatorOfRun
  rw [← List.map_reverse]
  rcases run with _ | ⟨last, _ | ⟨second, others⟩⟩
  · rfl
  · simp [Token.relocated]
  · cases (last :: second :: others).reverse with
    | nil => simp
    | cons first rest =>
      simp [Token.relocated, Function.comp_def]

theorem gatherOperators_map (run tokens : List Token) :
    gatherOperators lexicon (run.map (Token.relocated move))
        (tokens.map (Token.relocated move)) =
      (gatherOperators lexicon run tokens).map (Token.relocated move) := by
  induction tokens generalizing run with
  | nil => exact operatorOfRun_map move run
  | cons token tokens ih =>
    rw [List.map_cons, gatherOperators, gatherOperators, isOperatorPiece_relocated,
      continuesRun_relocated, operatorOfRun_map]
    have onward := ih (token :: run)
    have started := ih [token]
    have apart := ih []
    simp only [List.map_cons, List.map_nil] at onward started apart
    rw [onward, started, apart]
    split
    · split
      · rfl
      · rw [List.map_append]
    · rw [List.map_append, List.map_cons]

theorem joinOperators_map (tokens : List Token) :
    joinOperators lexicon (tokens.map (Token.relocated move)) =
      (joinOperators lexicon tokens).map (Token.relocated move) :=
  gatherOperators_map move [] tokens

theorem dropBlanks_map (tokens : List Token) :
    dropBlanks (tokens.map (Token.relocated move)) =
      (dropBlanks tokens).map (Token.relocated move) := by
  rw [dropBlanks, List.filter_map]
  rfl

end Stream

end Kite
