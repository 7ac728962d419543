import Kite.SyntaxTree

/-!
# What stands in a tree

The names, the operators and the literals of a tree are all that it takes over from its
source. `Contents` is a condition on each of these three, and a tree meets it if
everything in it does, at any depth. So a fact about what a source can spell is a fact
about every node of a tree that is read from it.
-/

set_option autoImplicit false

namespace Kite

/-- A condition on the names, the operators and the literals of a tree. -/
structure Contents where
  name : String → Prop
  operator : String → Prop
  literal : Literal → Prop

def Element.Meets (contents : Contents) : Element → Prop
  | .literal value => contents.literal value
  | .name text => contents.name text

/-- A parameter holds its own name and, if it has a type, the name of that. -/
def Parameter.Meets (contents : Contents) (parameter : Parameter) : Prop :=
  contents.name parameter.name ∧ ∀ annotation ∈ parameter.annotation, contents.name annotation

mutual

/-- Everything that stands in the expression meets the condition. -/
def Expression.Meets (contents : Contents) : Expression → Prop
  | .name text => contents.name text
  | .literal value => contents.literal value
  | .array elements => ∀ element ∈ elements, element.Meets contents
  | .call callee arguments => contents.name callee ∧ Body.AllMeet contents arguments
  | .function parameters body =>
    (∀ parameter ∈ parameters, parameter.Meets contents) ∧ body.Meets contents
  | .binary left operator right =>
    left.Meets contents ∧ contents.operator operator ∧ right.Meets contents
  | .scope statements => Statement.AllMeet contents statements

def Body.Meets (contents : Contents) : Body → Prop
  | .expression expression => expression.Meets contents
  | .scope statements => Statement.AllMeet contents statements

def Body.AllMeet (contents : Contents) : List Body → Prop
  | [] => True
  | body :: bodies => body.Meets contents ∧ Body.AllMeet contents bodies

/-- Everything that stands in the statement meets the condition. -/
def Statement.Meets (contents : Contents) : Statement → Prop
  | .scope statements => Statement.AllMeet contents statements
  | .assignment target value => contents.name target ∧ value.Meets contents
  | .expression expression => expression.Meets contents
  | .endOfInput => True

def Statement.AllMeet (contents : Contents) : List Statement → Prop
  | [] => True
  | statement :: statements => statement.Meets contents ∧ Statement.AllMeet contents statements

end

variable {contents : Contents}

theorem Body.allMeet_iff {bodies : List Body} :
    Body.AllMeet contents bodies ↔ ∀ body ∈ bodies, body.Meets contents := by
  induction bodies with
  | nil => simp [Body.AllMeet]
  | cons body bodies ih => rw [Body.AllMeet, ih, List.forall_mem_cons]

theorem Statement.allMeet_iff {statements : List Statement} :
    Statement.AllMeet contents statements ↔
      ∀ statement ∈ statements, statement.Meets contents := by
  induction statements with
  | nil => simp [Statement.AllMeet]
  | cons statement statements ih => rw [Statement.AllMeet, ih, List.forall_mem_cons]

theorem Statement.allMeet_append {statements others : List Statement} :
    Statement.AllMeet contents (statements ++ others) ↔
      Statement.AllMeet contents statements ∧ Statement.AllMeet contents others := by
  simp only [Statement.allMeet_iff, List.forall_mem_append]

end Kite
