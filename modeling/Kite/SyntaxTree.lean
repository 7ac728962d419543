import Kite.Kind
import Kite.Number.Binary64

/-!
# Syntax trees

A program is a list of statements. A scope is a list of statements in curly brackets; it
may stand as a statement, as an expression, and bare as the argument of a call or as
the body of a function.
-/

set_option autoImplicit false

namespace Kite

/-- A value spelled out in the source. -/
inductive Literal where
  | number (value : Binary64)
  | quoted (style : QuoteStyle) (text : String)
  deriving DecidableEq, Repr

/-- An element of an array. -/
inductive Element where
  | literal (value : Literal)
  | name (name : String)
  deriving DecidableEq, Repr

/-- A parameter of a function with the name of its type. -/
structure Parameter where
  name : String
  annotation : Option String
  deriving DecidableEq, Repr

mutual

/-- An expression. -/
inductive Expression where
  | name (name : String)
  | literal (value : Literal)
  | array (elements : List Element)
  | call (callee : String) (arguments : List Body)
  | function (parameters : List Parameter) (body : Body)
  | binary (left : Expression) (operator : String) (right : Expression)
  | scope (statements : List Statement)

/-- What a call passes and what a function computes: an expression or a bare scope. -/
inductive Body where
  | expression (expression : Expression)
  | scope (statements : List Statement)

/-- A statement. -/
inductive Statement where
  | scope (statements : List Statement)
  | assignment (target : String) (value : Expression)
  | expression (expression : Expression)
  /-- The mark at the end of a program. -/
  | endOfInput

end

end Kite
