import Kite.Proofs.SyntaxTree.Contents
import Kite.SyntaxTree.CallForm

/-!
# The call form can be undone

An operator that is written as a call is told from a real call by its callee, provided
that no operator is spelled like a name. `Statement.operatorForms` writes every call of
two expressions whose callee is no name as an operator, and so it gives trees back from
their call form if names and operators in them are told apart by their spelling
(`Statement.operatorForms_callForms`). Trees of this kind that have the same call form are
therefore the same.
-/

set_option autoImplicit false

namespace Kite

/-- Names and operators that are told apart by their spelling. -/
def Contents.toldApart (isName : String → Bool) : Contents where
  name text := isName text = true
  operator text := isName text = false
  literal _ := True

/-- What a call of these arguments stands for: an operator if its callee is no name. -/
def Expression.ofCall (isName : String → Bool) (callee : String) : List Body → Expression
  | [.expression left, .expression right] =>
    if isName callee then .call callee [.expression left, .expression right]
    else .binary left callee right
  | arguments => .call callee arguments

theorem Expression.ofCall_of_isName {isName : String → Bool} {callee : String}
    (named : isName callee = true) (arguments : List Body) :
    Expression.ofCall isName callee arguments = .call callee arguments := by
  unfold Expression.ofCall
  split
  · rw [if_pos named]
  · rfl

theorem Expression.ofCall_operands {isName : String → Bool} {operator : String}
    (unnamed : isName operator = false) (left right : Expression) :
    Expression.ofCall isName operator [.expression left, .expression right] =
      .binary left operator right := by
  simp [Expression.ofCall, unnamed]

mutual

/-- Writes the calls in an expression that have no name for a callee as operators. -/
def Expression.operatorForm (isName : String → Bool) : Expression → Expression
  | .name text => .name text
  | .literal value => .literal value
  | .array elements => .array elements
  | .call callee arguments => .ofCall isName callee (Body.operatorForms isName arguments)
  | .function parameters body => .function parameters (body.operatorForm isName)
  | .binary left operator right =>
    .binary (left.operatorForm isName) operator (right.operatorForm isName)
  | .scope statements => .scope (Statement.operatorForms isName statements)

def Body.operatorForm (isName : String → Bool) : Body → Body
  | .expression expression => .expression (expression.operatorForm isName)
  | .scope statements => .scope (Statement.operatorForms isName statements)

def Body.operatorForms (isName : String → Bool) : List Body → List Body
  | [] => []
  | body :: bodies => body.operatorForm isName :: Body.operatorForms isName bodies

def Statement.operatorForm (isName : String → Bool) : Statement → Statement
  | .scope statements => .scope (Statement.operatorForms isName statements)
  | .assignment target value => .assignment target (value.operatorForm isName)
  | .expression expression => .expression (expression.operatorForm isName)
  | .endOfInput => .endOfInput

/-- Writes the calls in statements that have no name for a callee as operators. -/
def Statement.operatorForms (isName : String → Bool) : List Statement → List Statement
  | [] => []
  | statement :: statements =>
    statement.operatorForm isName :: Statement.operatorForms isName statements

end

section Undone

variable {isName : String → Bool}

mutual

/-- An expression is given back from its call form if its operators are not spelled like names. -/
theorem Expression.operatorForm_callForm (expression : Expression)
    (meets : expression.Meets (.toldApart isName)) :
    expression.callForm.operatorForm isName = expression := by
  match expression with
  | .name _ | .literal _ | .array _ => rfl
  | .call callee arguments =>
    obtain ⟨named, inner⟩ := meets
    rw [Expression.callForm, Expression.operatorForm,
      Body.operatorForms_callForms arguments inner, Expression.ofCall_of_isName named]
  | .function _ body =>
    rw [Expression.callForm, Expression.operatorForm, Body.operatorForm_callForm body meets.2]
  | .binary left operator right =>
    obtain ⟨first, unnamed, second⟩ := meets
    simp only [Expression.callForm, Expression.operatorForm, Body.operatorForms,
      Body.operatorForm]
    rw [Expression.operatorForm_callForm left first, Expression.operatorForm_callForm right second,
      Expression.ofCall_operands unnamed]
  | .scope statements =>
    rw [Expression.callForm, Expression.operatorForm,
      Statement.operatorForms_callForms statements meets]

theorem Body.operatorForm_callForm (body : Body) (meets : body.Meets (.toldApart isName)) :
    body.callForm.operatorForm isName = body := by
  match body with
  | .expression expression =>
    rw [Body.callForm, Body.operatorForm, Expression.operatorForm_callForm expression meets]
  | .scope statements =>
    rw [Body.callForm, Body.operatorForm, Statement.operatorForms_callForms statements meets]

theorem Body.operatorForms_callForms (bodies : List Body)
    (meet : Body.AllMeet (.toldApart isName) bodies) :
    Body.operatorForms isName (Body.callForms bodies) = bodies := by
  match bodies with
  | [] => rfl
  | body :: bodies =>
    rw [Body.callForms, Body.operatorForms, Body.operatorForm_callForm body meet.1,
      Body.operatorForms_callForms bodies meet.2]

theorem Statement.operatorForm_callForm (statement : Statement)
    (meets : statement.Meets (.toldApart isName)) :
    statement.callForm.operatorForm isName = statement := by
  match statement with
  | .scope statements =>
    rw [Statement.callForm, Statement.operatorForm,
      Statement.operatorForms_callForms statements meets]
  | .assignment _ value =>
    rw [Statement.callForm, Statement.operatorForm,
      Expression.operatorForm_callForm value meets.2]
  | .expression expression =>
    rw [Statement.callForm, Statement.operatorForm,
      Expression.operatorForm_callForm expression meets]
  | .endOfInput => rfl

/-- Statements are given back from their call form if their operators are not spelled like
names. -/
theorem Statement.operatorForms_callForms (statements : List Statement)
    (meet : Statement.AllMeet (.toldApart isName) statements) :
    Statement.operatorForms isName (Statement.callForms statements) = statements := by
  match statements with
  | [] => rfl
  | statement :: statements =>
    rw [Statement.callForms, Statement.operatorForms,
      Statement.operatorForm_callForm statement meet.1,
      Statement.operatorForms_callForms statements meet.2]

end

end Undone

/-- Operators that are not spelled like names do not get lost in the call form. -/
theorem Statement.callForms_inj_of_allMeet {isName : String → Bool}
    {statements others : List Statement} (meet : Statement.AllMeet (.toldApart isName) statements)
    (othersMeet : Statement.AllMeet (.toldApart isName) others)
    (same : Statement.callForms statements = Statement.callForms others) : statements = others := by
  rw [← Statement.operatorForms_callForms statements meet, same,
    Statement.operatorForms_callForms others othersMeet]

end Kite
