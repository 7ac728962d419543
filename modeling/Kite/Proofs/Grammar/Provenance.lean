import Kite.Proofs.Grammar.Soundness
import Kite.Proofs.SyntaxTree.Contents

/-!
# Where the contents of a program come from

The parser makes up no text and no value: each name in a program is the text of a name
token, each operator that of an operator or a hyphen, and each literal is what a literal
token spells. So a program meets every condition that its tokens provide for
(`allMeet_of_parseTokens`).
-/

set_option autoImplicit false

namespace Kite

open Grammar

variable {contents : Contents}

/-- What the token may add to a tree meets the condition. -/
structure Token.Provides (contents : Contents) (token : Token) : Prop where
  name : token.kind = .identifier → contents.name token.lexeme
  operator : token.kind = .operator ∨ token.kind = .hyphen → contents.operator token.lexeme
  literal : ∀ value, Literal.ofToken? token = some value → contents.literal value

/-- Expressions that meet the condition if the tokens provide for it. -/
def ExpressionFrom (contents : Contents) (tokens : List Token) (expression : Expression) : Prop :=
  (∀ token ∈ tokens, token.Provides contents) → expression.Meets contents

/-- Scopes that meet the condition if the tokens provide for it. -/
def ScopeFrom (contents : Contents) (tokens : List Token) (statements : List Statement) : Prop :=
  (∀ token ∈ tokens, token.Provides contents) → Statement.AllMeet contents statements

section Rules

variable {tokens : List Token} (provide : ∀ token ∈ tokens, token.Provides contents)

include provide

theorem meets_of_elementRule {element : Element} (rule : ElementRule tokens element) :
    element.Meets contents := by
  cases rule with
  | literal spelled => exact (List.forall_mem_singleton.mp provide).literal _ spelled
  | name kind => exact (List.forall_mem_singleton.mp provide).name kind

theorem meets_of_parameterRule {parameter : Parameter} (rule : ParameterRule tokens parameter) :
    parameter.Meets contents := by
  cases rule with
  | annotated nameKind colonKind annotationKind =>
    have named := (provide _ (by simp)).name nameKind
    have typed := (provide _ (by simp)).name annotationKind
    exact ⟨named, by simpa using typed⟩

theorem meets_of_expressionRule {expression : Expression}
    (rule : ExpressionRule (ExpressionFrom contents) tokens expression) :
    expression.Meets contents := by
  induction rule with
  | primary first => exact first provide
  | binary _ kind second ih =>
    obtain ⟨left, operator, right⟩ := by simpa using List.forall_mem_append.mp provide
    exact ⟨ih left, operator.operator kind, second right⟩

theorem meets_of_bodyRule {body : Body}
    (rule : BodyRule (ExpressionFrom contents) (ScopeFrom contents) tokens body) :
    body.Meets contents := by
  cases rule with
  | expression inner => exact meets_of_expressionRule provide inner
  | scope inner => exact inner provide

theorem meets_of_primaryRule {expression : Expression}
    (rule : PrimaryRule (ExpressionFrom contents) (ScopeFrom contents) tokens expression) :
    expression.Meets contents := by
  cases rule with
  | name kind => exact (List.forall_mem_singleton.mp provide).name kind
  | literal spelled => exact (List.forall_mem_singleton.mp provide).literal _ spelled
  | call kind inner =>
    obtain ⟨callee, others⟩ := List.forall_mem_cons.mp provide
    refine ⟨callee.name kind, Body.allMeet_iff.mpr fun argument member => ?_⟩
    obtain ⟨part, inside, rule⟩ := inner.exists_sublist_of_mem argument member
    exact meets_of_bodyRule (fun token listed => others token (inside.subset listed)) rule
  | group opens inner closes =>
    exact meets_of_expressionRule (fun token listed => provide token (by simp [listed])) inner
  | function list kind inner =>
    obtain ⟨first, second⟩ := List.forall_mem_append.mp provide
    refine ⟨fun parameter member => ?_, meets_of_bodyRule (List.forall_mem_cons.mp second).2 inner⟩
    obtain ⟨part, inside, rule⟩ := list.exists_sublist_of_mem parameter member
    exact meets_of_parameterRule (fun token listed => first token (inside.subset listed)) rule
  | array list =>
    intro element member
    obtain ⟨part, inside, rule⟩ := list.exists_sublist_of_mem element member
    exact meets_of_elementRule (fun token listed => provide token (inside.subset listed)) rule
  | scope inner => exact inner provide

theorem meets_of_statementRule {statement : Option Statement}
    (rule : StatementRule (ExpressionFrom contents) (ScopeFrom contents) tokens statement) :
    ∀ read ∈ statement, read.Meets contents := by
  cases rule with
  | empty => simp
  | scope inner =>
    have tokens := (List.forall_mem_append.mp provide).1
    simpa [Statement.Meets] using inner tokens
  | assignment targetKind _ inner =>
    obtain ⟨target, others⟩ := List.forall_mem_cons.mp (List.forall_mem_append.mp provide).1
    have value := meets_of_expressionRule (List.forall_mem_cons.mp others).2 inner
    simpa [Statement.Meets] using And.intro (target.name targetKind) value
  | expression inner =>
    have tokens := (List.forall_mem_append.mp provide).1
    simpa [Statement.Meets] using meets_of_expressionRule tokens inner

theorem meets_of_statementsRule {statements : List Statement}
    (rule : StatementsRule (ExpressionFrom contents) (ScopeFrom contents) tokens statements) :
    Statement.AllMeet contents statements := by
  induction rule with
  | nil => trivial
  | cons first _ ih =>
    obtain ⟨one, others⟩ := List.forall_mem_append.mp provide
    refine Statement.allMeet_append.mpr ⟨Statement.allMeet_iff.mpr ?_, ih others⟩
    simpa using meets_of_statementRule one first

end Rules

theorem Level.reads_contents (contents : Contents) (levels : Nat) :
    (Level.within levels).Reads (ExpressionFrom contents) (ScopeFrom contents) := by
  refine Level.reads_within (fun _ => ExpressionFrom contents) (fun _ => ScopeFrom contents)
    ?_ ?_ levels
  · intro _ _ _ rule provide
    exact meets_of_primaryRule provide rule
  · intro _ _ _ rule provide
    cases rule with
    | braces _ inner _ =>
      exact meets_of_statementsRule (fun token listed => provide token (by simp [listed])) inner

/-- A program that is read from tokens meets the conditions that they provide for. -/
theorem allMeet_of_parseTokens {tokens : List Token} {program : List Statement}
    (parsed : parseTokens tokens = .ok program)
    (provide : ∀ token ∈ tokens, token.Provides contents) :
    Statement.AllMeet contents program := by
  obtain ⟨after, done⟩ := program_of_parseTokens parsed
  obtain ⟨read, statements, passes, -, rule, rfl⟩ :=
    Parse.program_eq_ok (Level.reads_contents contents nestingLimit) done
  have among : ∀ token ∈ read, token.Provides contents := fun token member =>
    provide token (passes.sublist.subset member)
  exact Statement.allMeet_append.mpr ⟨meets_of_statementsRule among rule, trivial, trivial⟩

end Kite
