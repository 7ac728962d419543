import Kite.SyntaxTree

/-!
# Call form

A binary operator means the call of a function of its name with the two operands.
`Statement.callForm` writes every binary operator of a statement as that call, at any
depth, and changes nothing else.
-/

set_option autoImplicit false

namespace Kite

mutual

/-- Writes the binary operators of an expression as calls. -/
def Expression.callForm : Expression → Expression
  | .name name => .name name
  | .literal value => .literal value
  | .array elements => .array elements
  | .call callee arguments => .call callee (Body.callForms arguments)
  | .function parameters body => .function parameters body.callForm
  | .binary left operator right =>
    .call operator [.expression left.callForm, .expression right.callForm]
  | .scope statements => .scope (Statement.callForms statements)

/-- Writes the binary operators of an argument or a function body as calls. -/
def Body.callForm : Body → Body
  | .expression expression => .expression expression.callForm
  | .scope statements => .scope (Statement.callForms statements)

/-- Writes the binary operators of each argument as calls. -/
def Body.callForms : List Body → List Body
  | [] => []
  | body :: bodies => body.callForm :: Body.callForms bodies

/-- Writes the binary operators of a statement as calls. -/
def Statement.callForm : Statement → Statement
  | .scope statements => .scope (Statement.callForms statements)
  | .assignment target value => .assignment target value.callForm
  | .expression expression => .expression expression.callForm
  | .endOfInput => .endOfInput

/-- Writes the binary operators of each statement as calls. -/
def Statement.callForms : List Statement → List Statement
  | [] => []
  | statement :: statements => statement.callForm :: Statement.callForms statements

end

theorem Body.callForms_eq_map (bodies : List Body) :
    Body.callForms bodies = bodies.map Body.callForm := by
  induction bodies with
  | nil => simp [Body.callForms]
  | cons body bodies ih => simp [Body.callForms, ih]

theorem Statement.callForms_eq_map (statements : List Statement) :
    Statement.callForms statements = statements.map Statement.callForm := by
  induction statements with
  | nil => simp [Statement.callForms]
  | cons statement statements ih => simp [Statement.callForms, ih]

end Kite
