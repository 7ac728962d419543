import Mathlib.Algebra.GroupWithZero.Nat
import Kite.SyntaxTree.CallForm

/-!
# The call form is a normal form that keeps the meaning

A tree is in call form if no binary operator stands in it at any depth. The call form of
a tree is in call form, a tree in call form is left as it is, and both mean the same: an
`Interpretation` gives every node a meaning that it computes from the meanings of the parts
of the node, and if an operator means to it the call of its name with the two operands,
then it cannot tell a tree from its call form (`Statement.callForms_normalizes`). What all
these interpretations agree on is the call form itself (`Statement.callForms_eq_iff`).
-/

set_option autoImplicit false

namespace Kite

universe u

/-! ## Trees without binary operators -/

mutual

/-- Whether no binary operator stands in an expression, at any depth. -/
def Expression.isCallForm : Expression → Bool
  | .name _ | .literal _ | .array _ => true
  | .call _ arguments => Body.allCallForm arguments
  | .function _ body => body.isCallForm
  | .binary _ _ _ => false
  | .scope statements => Statement.allCallForm statements

def Body.isCallForm : Body → Bool
  | .expression expression => expression.isCallForm
  | .scope statements => Statement.allCallForm statements

def Body.allCallForm : List Body → Bool
  | [] => true
  | body :: bodies => body.isCallForm && Body.allCallForm bodies

def Statement.isCallForm : Statement → Bool
  | .scope statements => Statement.allCallForm statements
  | .assignment _ value => value.isCallForm
  | .expression expression => expression.isCallForm
  | .endOfInput => true

def Statement.allCallForm : List Statement → Bool
  | [] => true
  | statement :: statements => statement.isCallForm && Statement.allCallForm statements

end

mutual

/-- The call form of an expression is in call form. -/
theorem Expression.isCallForm_callForm (expression : Expression) :
    expression.callForm.isCallForm = true := by
  match expression with
  | .name _ | .literal _ | .array _ => rfl
  | .call _ arguments => exact Body.allCallForm_callForms arguments
  | .function _ body => exact body.isCallForm_callForm
  | .binary left _ right =>
    -- the operands become the arguments of the call
    have operands := And.intro left.isCallForm_callForm right.isCallForm_callForm
    simpa [Expression.callForm, Expression.isCallForm, Body.allCallForm, Body.isCallForm]
      using operands
  | .scope statements => exact Statement.allCallForm_callForms statements

theorem Body.isCallForm_callForm (body : Body) : body.callForm.isCallForm = true := by
  match body with
  | .expression expression => exact expression.isCallForm_callForm
  | .scope statements => exact Statement.allCallForm_callForms statements

theorem Body.allCallForm_callForms (bodies : List Body) :
    Body.allCallForm (Body.callForms bodies) = true := by
  match bodies with
  | [] => rfl
  | body :: bodies =>
    rw [Body.callForms, Body.allCallForm, Bool.and_eq_true]
    exact ⟨body.isCallForm_callForm, Body.allCallForm_callForms bodies⟩

theorem Statement.isCallForm_callForm (statement : Statement) :
    statement.callForm.isCallForm = true := by
  match statement with
  | .scope statements => exact Statement.allCallForm_callForms statements
  | .assignment _ value => exact value.isCallForm_callForm
  | .expression expression => exact expression.isCallForm_callForm
  | .endOfInput => rfl

theorem Statement.allCallForm_callForms (statements : List Statement) :
    Statement.allCallForm (Statement.callForms statements) = true := by
  match statements with
  | [] => rfl
  | statement :: statements =>
    rw [Statement.callForms, Statement.allCallForm, Bool.and_eq_true]
    exact ⟨statement.isCallForm_callForm, Statement.allCallForm_callForms statements⟩

end

mutual

/-- An expression in call form is its own call form. -/
theorem Expression.callForm_eq_self (expression : Expression)
    (normal : expression.isCallForm = true) : expression.callForm = expression := by
  match expression with
  | .name _ | .literal _ | .array _ => rfl
  | .call _ arguments => rw [Expression.callForm, Body.callForms_eq_self arguments normal]
  | .function _ body => rw [Expression.callForm, Body.callForm_eq_self body normal]
  | .binary _ _ _ => simp [Expression.isCallForm] at normal
  | .scope statements => rw [Expression.callForm, Statement.callForms_eq_self statements normal]

theorem Body.callForm_eq_self (body : Body) (normal : body.isCallForm = true) :
    body.callForm = body := by
  match body with
  | .expression expression => rw [Body.callForm, Expression.callForm_eq_self expression normal]
  | .scope statements => rw [Body.callForm, Statement.callForms_eq_self statements normal]

theorem Body.callForms_eq_self (bodies : List Body) (normal : Body.allCallForm bodies = true) :
    Body.callForms bodies = bodies := by
  match bodies with
  | [] => rfl
  | body :: bodies =>
    rw [Body.allCallForm, Bool.and_eq_true] at normal
    rw [Body.callForms, Body.callForm_eq_self body normal.1,
      Body.callForms_eq_self bodies normal.2]

theorem Statement.callForm_eq_self (statement : Statement)
    (normal : statement.isCallForm = true) : statement.callForm = statement := by
  match statement with
  | .scope statements => rw [Statement.callForm, Statement.callForms_eq_self statements normal]
  | .assignment _ value => rw [Statement.callForm, Expression.callForm_eq_self value normal]
  | .expression expression =>
    rw [Statement.callForm, Expression.callForm_eq_self expression normal]
  | .endOfInput => rfl

theorem Statement.callForms_eq_self (statements : List Statement)
    (normal : Statement.allCallForm statements = true) :
    Statement.callForms statements = statements := by
  match statements with
  | [] => rfl
  | statement :: statements =>
    rw [Statement.allCallForm, Bool.and_eq_true] at normal
    rw [Statement.callForms, Statement.callForm_eq_self statement normal.1,
      Statement.callForms_eq_self statements normal.2]

end

/-- Trees that are their own call form are those in call form. -/
theorem Statement.callForms_eq_self_iff {statements : List Statement} :
    Statement.callForms statements = statements ↔ Statement.allCallForm statements = true := by
  constructor
  · intro unchanged
    rw [← unchanged]
    exact Statement.allCallForm_callForms statements
  · exact Statement.callForms_eq_self statements

/-! ## Meanings -/

/-- A compositional interpretation: for every sort of node an operation that makes its meaning of
the meanings of its parts. Texts, literals, elements and parameters hold no further tree, so an
operation takes them as they are. -/
structure Interpretation (Expressions Bodies Statements : Type u) where
  name : String → Expressions
  literal : Literal → Expressions
  array : List Element → Expressions
  call : String → List Bodies → Expressions
  function : List Parameter → Bodies → Expressions
  binary : Expressions → String → Expressions → Expressions
  scope : List Statements → Expressions
  expressionBody : Expressions → Bodies
  scopeBody : List Statements → Bodies
  scopeStatement : List Statements → Statements
  assignment : String → Expressions → Statements
  expressionStatement : Expressions → Statements
  endOfInput : Statements

namespace Interpretation

variable {Expressions Bodies Statements : Type u}

mutual

/-- The meaning of an expression. -/
def ofExpression (meaning : Interpretation Expressions Bodies Statements) :
    Expression → Expressions
  | .name name => meaning.name name
  | .literal value => meaning.literal value
  | .array elements => meaning.array elements
  | .call callee arguments => meaning.call callee (meaning.ofBodies arguments)
  | .function parameters body => meaning.function parameters (meaning.ofBody body)
  | .binary left operator right =>
    meaning.binary (meaning.ofExpression left) operator (meaning.ofExpression right)
  | .scope statements => meaning.scope (meaning.ofStatements statements)

/-- The meaning of an argument or a function body. -/
def ofBody (meaning : Interpretation Expressions Bodies Statements) : Body → Bodies
  | .expression expression => meaning.expressionBody (meaning.ofExpression expression)
  | .scope statements => meaning.scopeBody (meaning.ofStatements statements)

/-- The meanings of arguments, one by one. -/
def ofBodies (meaning : Interpretation Expressions Bodies Statements) : List Body → List Bodies
  | [] => []
  | body :: bodies => meaning.ofBody body :: meaning.ofBodies bodies

/-- The meaning of a statement. -/
def ofStatement (meaning : Interpretation Expressions Bodies Statements) :
    Statement → Statements
  | .scope statements => meaning.scopeStatement (meaning.ofStatements statements)
  | .assignment target value => meaning.assignment target (meaning.ofExpression value)
  | .expression expression => meaning.expressionStatement (meaning.ofExpression expression)
  | .endOfInput => meaning.endOfInput

/-- The meanings of statements, one by one. -/
def ofStatements (meaning : Interpretation Expressions Bodies Statements) :
    List Statement → List Statements
  | [] => []
  | statement :: statements => meaning.ofStatement statement :: meaning.ofStatements statements

end

/-- An operator means the call of its name with the two operands as arguments. -/
def CallsOperators (meaning : Interpretation Expressions Bodies Statements) : Prop :=
  ∀ left operator right, meaning.binary left operator right =
    meaning.call operator [meaning.expressionBody left, meaning.expressionBody right]

section Meaning

variable {meaning : Interpretation Expressions Bodies Statements}

mutual

/-- An expression means the same as its call form. -/
theorem ofExpression_callForm (calls : meaning.CallsOperators) (expression : Expression) :
    meaning.ofExpression expression.callForm = meaning.ofExpression expression := by
  match expression with
  | .name _ | .literal _ | .array _ => rfl
  | .call _ arguments =>
    rw [Expression.callForm, ofExpression, ofExpression, ofBodies_callForms calls arguments]
  | .function _ body =>
    rw [Expression.callForm, ofExpression, ofExpression, ofBody_callForm calls body]
  | .binary left _ right =>
    simp only [Expression.callForm, ofExpression, ofBodies, ofBody]
    rw [calls, ofExpression_callForm calls left, ofExpression_callForm calls right]
  | .scope statements =>
    rw [Expression.callForm, ofExpression, ofExpression, ofStatements_callForms calls statements]

theorem ofBody_callForm (calls : meaning.CallsOperators) (body : Body) :
    meaning.ofBody body.callForm = meaning.ofBody body := by
  match body with
  | .expression expression =>
    rw [Body.callForm, ofBody, ofBody, ofExpression_callForm calls expression]
  | .scope statements =>
    rw [Body.callForm, ofBody, ofBody, ofStatements_callForms calls statements]

theorem ofBodies_callForms (calls : meaning.CallsOperators) (bodies : List Body) :
    meaning.ofBodies (Body.callForms bodies) = meaning.ofBodies bodies := by
  match bodies with
  | [] => rfl
  | body :: bodies =>
    rw [Body.callForms, ofBodies, ofBodies, ofBody_callForm calls body,
      ofBodies_callForms calls bodies]

theorem ofStatement_callForm (calls : meaning.CallsOperators) (statement : Statement) :
    meaning.ofStatement statement.callForm = meaning.ofStatement statement := by
  match statement with
  | .scope statements =>
    rw [Statement.callForm, ofStatement, ofStatement, ofStatements_callForms calls statements]
  | .assignment _ value =>
    rw [Statement.callForm, ofStatement, ofStatement, ofExpression_callForm calls value]
  | .expression expression =>
    rw [Statement.callForm, ofStatement, ofStatement, ofExpression_callForm calls expression]
  | .endOfInput => rfl

/-- Statements mean the same as their call forms. -/
theorem ofStatements_callForms (calls : meaning.CallsOperators) (statements : List Statement) :
    meaning.ofStatements (Statement.callForms statements) = meaning.ofStatements statements := by
  match statements with
  | [] => rfl
  | statement :: statements =>
    rw [Statement.callForms, ofStatements, ofStatements, ofStatement_callForm calls statement,
      ofStatements_callForms calls statements]

end

end Meaning

/-! ## Trees as meanings -/

/-- The interpretation by trees in call form. -/
def trees : Interpretation Expression Body Statement where
  name := .name
  literal := .literal
  array := .array
  call := .call
  function := .function
  binary left operator right := .call operator [.expression left, .expression right]
  scope := .scope
  expressionBody := .expression
  scopeBody := .scope
  scopeStatement := .scope
  assignment := .assignment
  expressionStatement := .expression
  endOfInput := .endOfInput

theorem callsOperators_trees : trees.CallsOperators :=
  fun _ _ _ => rfl

mutual

/-- The call form of an expression is a meaning of it. -/
theorem ofExpression_trees (expression : Expression) :
    trees.ofExpression expression = expression.callForm := by
  match expression with
  | .name _ | .literal _ | .array _ => rfl
  | .call _ arguments =>
    rw [ofExpression, ofBodies_trees arguments]
    rfl
  | .function _ body =>
    rw [ofExpression, ofBody_trees body]
    rfl
  | .binary left _ right =>
    rw [ofExpression, ofExpression_trees left, ofExpression_trees right]
    rfl
  | .scope statements =>
    rw [ofExpression, ofStatements_trees statements]
    rfl

theorem ofBody_trees (body : Body) : trees.ofBody body = body.callForm := by
  match body with
  | .expression expression =>
    rw [ofBody, ofExpression_trees expression]
    rfl
  | .scope statements =>
    rw [ofBody, ofStatements_trees statements]
    rfl

theorem ofBodies_trees (bodies : List Body) : trees.ofBodies bodies = Body.callForms bodies := by
  match bodies with
  | [] => rfl
  | body :: bodies =>
    rw [ofBodies, ofBody_trees body, ofBodies_trees bodies]
    rfl

theorem ofStatement_trees (statement : Statement) :
    trees.ofStatement statement = statement.callForm := by
  match statement with
  | .scope statements =>
    rw [ofStatement, ofStatements_trees statements]
    rfl
  | .assignment _ value =>
    rw [ofStatement, ofExpression_trees value]
    rfl
  | .expression expression =>
    rw [ofStatement, ofExpression_trees expression]
    rfl
  | .endOfInput => rfl

theorem ofStatements_trees (statements : List Statement) :
    trees.ofStatements statements = Statement.callForms statements := by
  match statements with
  | [] => rfl
  | statement :: statements =>
    rw [ofStatements, ofStatement_trees statement, ofStatements_trees statements]
    rfl

end

end Interpretation

/-! ## Main statements -/

/-- No binary operator stands in the call form of statements, at any depth. Statements without one
are left as they are, so that the call form of a call form is that form, and no others are. An
interpretation to which an operator means the call of its name cannot tell statements from their
call form. -/
theorem Statement.callForms_normalizes (statements : List Statement) :
    Statement.allCallForm (Statement.callForms statements) = true ∧
      (Statement.callForms statements = statements ↔ Statement.allCallForm statements = true) ∧
      Statement.callForms (Statement.callForms statements) = Statement.callForms statements ∧
      ∀ {Expressions Bodies Statements : Type u}
        (meaning : Interpretation Expressions Bodies Statements), meaning.CallsOperators →
        meaning.ofStatements (Statement.callForms statements) =
          meaning.ofStatements statements := by
  have normal := Statement.allCallForm_callForms statements
  refine ⟨normal, Statement.callForms_eq_self_iff, Statement.callForms_eq_self _ normal, ?_⟩
  intro _ _ _ meaning calls
  exact Interpretation.ofStatements_callForms calls statements

/-- Operators in a function body inside a scope argument, beside an operator in an argument and
around the call. The interpretation counts the calls. -/
theorem Statement.callForms_normalizes_nested :
    let count : Interpretation Nat Nat Nat :=
      { name := fun _ => 0, literal := fun _ => 0, array := fun _ => 0
        call := fun _ arguments => arguments.sum + 1
        function := fun _ body => body, binary := fun left _ right => left + right + 1
        scope := List.sum, expressionBody := id, scopeBody := List.sum
        scopeStatement := List.sum, assignment := fun _ value => value
        expressionStatement := id, endOfInput := 0 }
    let sum := Expression.binary (.name "a") "+" (.name "b")
    let function (body : Expression) := Expression.function [] (.expression body)
    let calls := Expression.call "+" [.expression (.name "a"), .expression (.name "b")]
    let program := [.assignment "x" (.binary
      (.call "f" [.scope [.expression (function sum)], .expression sum]) "-" (.name "c")),
      Statement.endOfInput]
    count.CallsOperators ∧
      Statement.callForms program = [.assignment "x" (.call "-" [.expression
        (.call "f" [.scope [.expression (function calls)], .expression calls]),
          .expression (.name "c")]), .endOfInput] ∧
      count.ofStatements (Statement.callForms program) = count.ofStatements program ∧
      count.ofStatements program = [4, 0] := by
  intro count sum function calls program
  have operators : count.CallsOperators := by
    intro left operator right
    simp [count]
  have same := (Statement.callForms_normalizes program).2.2.2 count operators
  exact ⟨operators, rfl, same, rfl⟩

/-- Statements have the same call form exactly if no interpretation to which an operator means the
call of its name tells them apart. -/
theorem Statement.callForms_eq_iff {statements others : List Statement} :
    Statement.callForms statements = Statement.callForms others ↔
      ∀ {Expressions Bodies Statements : Type}
        (meaning : Interpretation Expressions Bodies Statements), meaning.CallsOperators →
        meaning.ofStatements statements = meaning.ofStatements others := by
  constructor
  · intro same _ _ _ meaning calls
    rw [← Interpretation.ofStatements_callForms calls statements, same,
      Interpretation.ofStatements_callForms calls others]
  · intro agree
    -- the call form is itself such a meaning
    have same := agree Interpretation.trees Interpretation.callsOperators_trees
    rwa [Interpretation.ofStatements_trees, Interpretation.ofStatements_trees] at same

end Kite
