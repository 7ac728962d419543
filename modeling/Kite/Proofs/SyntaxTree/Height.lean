import Kite.SyntaxTree

/-!
# How high trees are

The height of a tree is the length of its longest way from the root down, where the edge to
the left operand of an operator counts for `leftEdge` and every other edge for one. With
`leftEdge = 1` this is the usual height; with `leftEdge = 0` it is the height of the tree
with the operands of each chain of operators side by side. Names belong to the node that they
stand in, while parameters and array elements are nodes of their own.
-/

set_option autoImplicit false

namespace Kite

mutual

def Expression.height (leftEdge : Nat) : Expression → Nat
  | .name _ | .literal _ => 0
  | .array elements => if elements = [] then 0 else 1
  | .call _ arguments => Body.heightOfAll leftEdge arguments
  | .function parameters body =>
    max (if parameters = [] then 0 else 1) (body.height leftEdge + 1)
  | .binary left _ right => max (left.height leftEdge + leftEdge) (right.height leftEdge + 1)
  | .scope statements => Statement.heightOfAll leftEdge statements

def Body.height (leftEdge : Nat) : Body → Nat
  | .expression expression => expression.height leftEdge + 1
  | .scope statements => Statement.heightOfAll leftEdge statements

/-- The height of a node with these bodies as its children. -/
def Body.heightOfAll (leftEdge : Nat) : List Body → Nat
  | [] => 0
  | body :: bodies => max (body.height leftEdge + 1) (Body.heightOfAll leftEdge bodies)

def Statement.height (leftEdge : Nat) : Statement → Nat
  | .scope statements => Statement.heightOfAll leftEdge statements
  | .assignment _ value => value.height leftEdge + 1
  | .expression expression => expression.height leftEdge + 1
  | .endOfInput => 0

/-- The height of a node with these statements as its children. -/
def Statement.heightOfAll (leftEdge : Nat) : List Statement → Nat
  | [] => 0
  | statement :: statements =>
    max (statement.height leftEdge + 1) (Statement.heightOfAll leftEdge statements)

end

theorem Body.heightOfAll_le_iff {leftEdge bound : Nat} {bodies : List Body} :
    Body.heightOfAll leftEdge bodies ≤ bound ↔
      ∀ body ∈ bodies, body.height leftEdge + 1 ≤ bound := by
  induction bodies with
  | nil => simp [Body.heightOfAll]
  | cons body bodies ih => rw [Body.heightOfAll, Nat.max_le, ih, List.forall_mem_cons]

theorem Statement.heightOfAll_le_iff {leftEdge bound : Nat} {statements : List Statement} :
    Statement.heightOfAll leftEdge statements ≤ bound ↔
      ∀ statement ∈ statements, statement.height leftEdge + 1 ≤ bound := by
  induction statements with
  | nil => simp [Statement.heightOfAll]
  | cons statement statements ih =>
    rw [Statement.heightOfAll, Nat.max_le, ih, List.forall_mem_cons]

/-- A chain of so many operators, grouped to the left as the parser does it. -/
def Expression.chain : Nat → Expression
  | 0 => .name "x"
  | operators + 1 => .binary (chain operators) "+" (.name "x")

theorem Expression.le_height_chain (operators : Nat) :
    operators ≤ (chain operators).height 1 := by
  induction operators with
  | zero => exact Nat.zero_le _
  | succ operators ih =>
    rw [chain, height]
    omega

end Kite
