import Kite.Position
import Mathlib.Data.List.Induction

/-!
# Positions by counting

Stepping over a text from its beginning arrives at the place that counting gives: a line
for each newline passed, and a column for each character passed since the last of them
(`start_past`). A text that begins some lines further down takes every place along
(`lowered_past`). What stands later in a text has a greater position (`lt_past`), so
a position splits a text in one way only (`eq_of_behind_eq`).
-/

set_option autoImplicit false

namespace Kite.Position

/-- The place just past a text, found by counting its newlines and the characters after the last
one. -/
def behind (text : List Char) : Position where
  line := 1 + text.count '\n'
  column := 1 + (text.reverse.takeWhile (· ≠ '\n')).length

theorem behind_append_singleton (text : List Char) (c : Char) :
    behind (text ++ [c]) = (behind text).after c := by
  by_cases newline : c = '\n'
  · subst newline
    simp [behind, after, Nat.add_assoc]
  · simp [behind, after, newline, Nat.add_assoc]

/-- Stepping over a text from its beginning and counting lead to the same place. -/
theorem start_past (text : List Char) : start.past text = behind text := by
  -- the last character decides the column, so the induction takes characters off the end
  induction text using List.reverseRecOn with
  | nil => rfl
  | append_singleton text c ih =>
    rw [past_append, ih, behind_append_singleton, past_cons, past_nil]

/-- The same column so many lines further down. -/
def lowered (p : Position) (lines : Nat) : Position :=
  { p with line := p.line + lines }

theorem lowered_after (p : Position) (lines : Nat) (c : Char) :
    (p.lowered lines).after c = (p.after c).lowered lines := by
  by_cases newline : c = '\n'
  · simp [after, lowered, newline, Nat.add_right_comm]
  · simp [after, lowered, newline]

/-- Stepping over a text does not depend on the line where it begins. -/
theorem lowered_past (p : Position) (lines : Nat) (text : List Char) :
    (p.lowered lines).past text = (p.past text).lowered lines := by
  induction text generalizing p with
  | nil => rfl
  | cons c text ih => rw [past_cons, past_cons, lowered_after, ih]

/-- Behind a newline a new line begins, as many lines below the first one as newlines were
passed. -/
theorem start_past_newline (text : List Char) :
    start.past (text ++ ['\n']) = start.lowered (text.count '\n' + 1) := by
  rw [start_past, behind_append_singleton]
  simp [after, behind, lowered, start, Nat.add_assoc]

/-! ## The order of positions -/

theorem lt_trans {p q r : Position} (first : p < q) (second : q < r) : p < r := by
  rcases first with first | ⟨line, first⟩
  · rcases second with second | ⟨sameLine, -⟩
    · exact .inl (Nat.lt_trans first second)
    · exact .inl (sameLine ▸ first)
  · rcases second with second | ⟨sameLine, second⟩
    · exact .inl (line ▸ second)
    · exact .inr ⟨line.trans sameLine, Nat.lt_trans first second⟩

theorem lt_after (p : Position) (c : Char) : p < p.after c := by
  by_cases newline : c = '\n'
  · exact .inl (by simp [after, newline])
  · exact .inr (by simp [after, newline])

theorem lt_irrefl (p : Position) : ¬ p < p := by
  rintro (line | ⟨-, column⟩)
  · exact Nat.lt_irrefl _ line
  · exact Nat.lt_irrefl _ column

/-- Stepping over a text leads on. -/
theorem lt_past (p : Position) {text : List Char} (nonempty : text ≠ []) : p < p.past text := by
  induction text generalizing p with
  | nil => exact absurd rfl nonempty
  | cons c text ih =>
    rw [past_cons]
    by_cases last : text = []
    · rw [last, past_nil]
      exact p.lt_after c
    · exact lt_trans (p.lt_after c) (ih (p.after c) last)

theorem eq_nil_of_behind_append {before more : List Char}
    (same : behind (before ++ more) = behind before) : more = [] := by
  by_contra nonempty
  have onward := (behind before).lt_past nonempty
  rw [← start_past before, ← past_append, start_past, start_past, same] at onward
  exact lt_irrefl _ onward

/-- A place in a text splits it in one way only. -/
theorem eq_of_behind_eq {before after other rest : List Char}
    (split : before ++ after = other ++ rest) (same : behind before = behind other) :
    before = other := by
  rcases List.append_eq_append_iff.mp split with ⟨more, rfl, -⟩ | ⟨more, rfl, -⟩
  · rw [eq_nil_of_behind_append same.symm, List.append_nil]
  · rw [eq_nil_of_behind_append same, List.append_nil]

end Kite.Position
