/-!
# Positions in a source text

A position names a line and a column, both counted from one, and a column counts
characters. `Position.after` steps over one character and `Position.past` over a
text; a newline ends its line, and no other character does.
-/

set_option autoImplicit false

namespace Kite

/-- A place in a source text. -/
structure Position where
  /-- The line, counted from one. -/
  line : Nat
  /-- The column, counted from one in characters. -/
  column : Nat
  deriving DecidableEq, Repr

namespace Position

/-- The place of the first character of a text. -/
def start : Position := ⟨1, 1⟩

/-- The place just past the character `c` that stands at `p`. -/
def after (p : Position) (c : Char) : Position :=
  if c = '\n' then ⟨p.line + 1, 1⟩ else ⟨p.line, p.column + 1⟩

/-- The place just past the text that begins at `p`. -/
def past (p : Position) (text : List Char) : Position :=
  text.foldl Position.after p

/-- Positions are ordered by line and, within a line, by column. -/
instance : LT Position where
  lt p q := p.line < q.line ∨ p.line = q.line ∧ p.column < q.column

instance (p q : Position) : Decidable (p < q) :=
  inferInstanceAs (Decidable (p.line < q.line ∨ p.line = q.line ∧ p.column < q.column))

instance : ToString Position where
  toString p := s!"line {p.line}, column {p.column}"

@[simp] theorem past_nil (p : Position) : p.past [] = p := rfl

@[simp] theorem past_cons (p : Position) (c : Char) (text : List Char) :
    p.past (c :: text) = (p.after c).past text := rfl

/-- Stepping over two texts one after the other is stepping over both at once. -/
theorem past_append (p : Position) (first second : List Char) :
    p.past (first ++ second) = (p.past first).past second := by
  simp [Position.past]

end Position

end Kite
