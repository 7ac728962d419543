import Kite.Token

/-!
# Pieces

A piece is a token that does not know its place yet: it holds the source text that it
covers. Since the pieces of a text cover it from the first character on, their places
follow from the pieces alone, and `Piece.place` computes them.
-/

set_option autoImplicit false

namespace Kite

/-- A token before it is placed. -/
structure Piece where
  kind : Kind
  /-- The source text that the piece covers. -/
  source : List Char
  /-- The text that the token reports. -/
  lexeme : String := String.ofList source
  closed : Option Bool := none
  internal : Bool := false
  deriving DecidableEq, Repr

namespace Piece

/-- The token that a piece becomes at a place. -/
def token (piece : Piece) (position : Position) : Token where
  kind := piece.kind
  lexeme := piece.lexeme
  position := position
  closed := piece.closed
  internal := piece.internal

/-- The tokens of pieces that cover a text beginning at `position`. -/
def place (position : Position) : List Piece → List Token
  | [] => []
  | piece :: pieces => piece.token position :: place (position.past piece.source) pieces

@[simp] theorem place_nil (position : Position) : place position [] = [] := rfl

@[simp] theorem place_cons (position : Position) (piece : Piece) (pieces : List Piece) :
    place position (piece :: pieces) =
      piece.token position :: place (position.past piece.source) pieces := rfl

/-- Placing pieces in two groups puts the second group just past the text of the first. -/
theorem place_append (position : Position) (first second : List Piece) :
    place position (first ++ second) =
      place position first ++ place (position.past (first.flatMap Piece.source)) second := by
  induction first generalizing position with
  | nil => simp
  | cons piece pieces ih => simp [ih, Position.past_append]

end Piece

end Kite
