import Kite.Proofs.Grammar.Composition
import Kite.Proofs.Grammar.Soundness

/-!
# What the nesting limit does

Fewer levels make the parser refuse more because of too deep nesting, and change nothing
else: an action that may open fewer levels `Restricts` to what it does with more of them.
Steps in sequence and repetition keep this relation, so all rules have it
(`Level.restricts_within`). `nesting` counts how deep the nodes of a tree lie in each other,
and since every rule finds one level less inside, no answer nests deeper than the limit
(`Level.reads_nesting`). `Request.runWithin_of_le` is the statement about requests.
-/

set_option autoImplicit false

namespace Kite

/-! ## Refusals apart, the limit changes nothing -/

/-- The one action does what the other one does, unless it fails because of too deep nesting. -/
def Parse.Restricts {α : Type} (action other : Parse α) : Prop :=
  ∀ before,
    (∃ tokens after, action.run before = .error { cause := .nestingTooDeep, tokens } after) ∨
      action.run before = other.run before

/-- The primaries and the scopes of the one level do what those of the other one do, unless they
fail because of too deep nesting. -/
structure Level.Restricts (level other : Level) : Prop where
  primary : level.primary.Restricts other.primary
  scope : level.scope.Restricts other.scope

namespace Parse

variable {α β : Type}

theorem Restricts.refl (action : Parse α) : action.Restricts action :=
  fun _ => .inr rfl

theorem Restricts.bind {action other : Parse α} {next onward : α → Parse β}
    (one : action.Restricts other) (two : ∀ value, (next value).Restricts (onward value)) :
    (action >>= next).Restricts (other >>= onward) := by
  intro before
  rcases one before with ⟨tokens, after, refused⟩ | same
  · exact .inl ⟨tokens, after, bind_of_error refused⟩
  · cases result : action.run before with
    | error error after => exact .inr (by rw [bind_of_error result, bind_of_error (same ▸ result)])
    | ok value after =>
      rw [bind_of_ok result, bind_of_ok (same ▸ result)]
      exact two value after

theorem restricts_manyWithin {item other : Parse (Option α)} (one : item.Restricts other)
    (rounds : List Token) : (manyWithin item rounds).Restricts (manyWithin other rounds) := by
  induction rounds with
  | nil => exact .refl _
  | cons token rounds ih =>
    refine one.bind fun answer => ?_
    cases answer with
    | none => exact .refl _
    | some value => exact ih.bind fun _ => .refl _

theorem restricts_many {item other : Parse (Option α)} (one : item.Restricts other) :
    (many item).Restricts (many other) :=
  fun before => restricts_manyWithin one (before.stop :: before.rest) before

theorem Composed.restricts {action : Level → Parse α} (composed : Composed action)
    {level other : Level} (inner : level.Restricts other) :
    (action level).Restricts (action other) := by
  induction composed with
  | primary => exact inner.primary
  | scope => exact inner.scope
  | bind _ _ one two => exact one.bind two
  | many _ _ one => exact restricts_many one
  | pure | kindAt | current | take | failWith => exact .refl _

end Parse

/-- With fewer levels the rules do what they do with more, unless they fail because of too deep
nesting. -/
theorem Level.restricts_within {levels more : Nat} (le : levels ≤ more) :
    (Level.within levels).Restricts (Level.within more) := by
  induction levels generalizing more with
  | zero => exact ⟨fun _ => .inl ⟨_, _, Parse.fail_run _⟩, fun _ => .inl ⟨_, _, Parse.fail_run _⟩⟩
  | succ levels ih =>
    obtain ⟨more, rfl⟩ : ∃ fewer, more = fewer + 1 := Nat.exists_eq_add_one.mpr (by omega)
    have inner := ih (Nat.le_of_succ_le_succ le)
    exact ⟨Parse.composed_primary.restricts inner, Parse.composed_scope.restricts inner⟩

/-! ## How deep a tree nests -/

mutual

/-- How many levels the nodes of an expression take: one for every node but a binary, whose operands
lie at its own level. -/
def Expression.nesting : Expression → Nat
  | .name _ | .literal _ | .array _ => 1
  | .call _ arguments => Body.nestingOfAll arguments + 1
  | .function _ body => body.nesting + 1
  | .binary left _ right => max left.nesting right.nesting
  | .scope statements => Statement.nestingOfAll statements + 1 + 1

/-- A bare scope takes a level of its own. -/
def Body.nesting : Body → Nat
  | .expression expression => expression.nesting
  | .scope statements => Statement.nestingOfAll statements + 1

def Body.nestingOfAll : List Body → Nat
  | [] => 0
  | body :: bodies => max body.nesting (Body.nestingOfAll bodies)

def Statement.nesting : Statement → Nat
  | .scope statements => Statement.nestingOfAll statements + 1
  | .assignment _ value => value.nesting
  | .expression expression => expression.nesting
  | .endOfInput => 0

def Statement.nestingOfAll : List Statement → Nat
  | [] => 0
  | statement :: statements => max statement.nesting (Statement.nestingOfAll statements)

end

/-- How many levels the nodes of an answer take. -/
def Answer.nesting : Answer → Nat
  | .program statements => Statement.nestingOfAll statements
  | .statement read? => Statement.nestingOfAll read?.toList
  | .expression tree => tree.nesting
  | .scope statements => Statement.nestingOfAll statements + 1

theorem Body.nestingOfAll_le_iff {bodies : List Body} {levels : Nat} :
    Body.nestingOfAll bodies ≤ levels ↔ ∀ body ∈ bodies, body.nesting ≤ levels := by
  induction bodies with
  | nil => simp [Body.nestingOfAll]
  | cons body bodies ih => rw [Body.nestingOfAll, Nat.max_le, ih, List.forall_mem_cons]

theorem Statement.nestingOfAll_append (statements others : List Statement) :
    Statement.nestingOfAll (statements ++ others) =
      max (Statement.nestingOfAll statements) (Statement.nestingOfAll others) := by
  induction statements with
  | nil => simp [Statement.nestingOfAll]
  | cons statement statements ih =>
    rw [List.cons_append, Statement.nestingOfAll, Statement.nestingOfAll, ih, Nat.max_assoc]

/-! ## No answer nests deeper than the limit -/

section Rules

open Grammar

variable {levels : Nat} {tokens : List Token}

/-- Expressions that nest so deep. -/
def ExpressionWithin (levels : Nat) (_ : List Token) (expression : Expression) : Prop :=
  expression.nesting ≤ levels

/-- Scopes that nest so deep. -/
def ScopeWithin (levels : Nat) (_ : List Token) (statements : List Statement) : Prop :=
  Statement.nestingOfAll statements + 1 ≤ levels

theorem nesting_of_expressionRule {expression : Expression}
    (rule : ExpressionRule (ExpressionWithin levels) tokens expression) :
    expression.nesting ≤ levels := by
  induction rule with
  | primary first => exact first
  | binary _ _ second ih => exact Nat.max_le.mpr ⟨ih, second⟩

theorem nesting_of_bodyRule {body : Body}
    (rule : BodyRule (ExpressionWithin levels) (ScopeWithin levels) tokens body) :
    body.nesting ≤ levels := by
  cases rule with
  | expression inner => exact nesting_of_expressionRule inner
  | scope inner => exact inner

theorem nesting_of_primaryRule {expression : Expression}
    (rule : PrimaryRule (ExpressionWithin levels) (ScopeWithin levels) tokens expression) :
    expression.nesting ≤ levels + 1 := by
  cases rule with
  | name | literal | array => exact Nat.le_add_left 1 levels
  | call kind inner =>
    refine Nat.succ_le_succ (Body.nestingOfAll_le_iff.mpr fun argument member => ?_)
    obtain ⟨_, rule⟩ := inner.exists_of_mem argument member
    exact nesting_of_bodyRule rule
  -- parentheses take a level and leave no node
  | group opens inner closes => exact Nat.le_succ_of_le (nesting_of_expressionRule inner)
  | function list kind inner => exact Nat.succ_le_succ (nesting_of_bodyRule inner)
  | scope inner => exact Nat.succ_le_succ inner

theorem nesting_of_statementRule {statement : Option Statement}
    (rule : StatementRule (ExpressionWithin levels) (ScopeWithin levels) tokens statement) :
    Statement.nestingOfAll statement.toList ≤ levels := by
  cases rule with
  | empty => exact Nat.zero_le levels
  | scope inner => exact Nat.max_le.mpr ⟨inner, Nat.zero_le levels⟩
  | assignment _ _ inner =>
    exact Nat.max_le.mpr ⟨nesting_of_expressionRule inner, Nat.zero_le levels⟩
  | expression inner =>
    exact Nat.max_le.mpr ⟨nesting_of_expressionRule inner, Nat.zero_le levels⟩

theorem nesting_of_statementsRule {statements : List Statement}
    (rule : StatementsRule (ExpressionWithin levels) (ScopeWithin levels) tokens statements) :
    Statement.nestingOfAll statements ≤ levels := by
  induction rule with
  | nil => exact Nat.zero_le levels
  | cons first _ ih =>
    rw [Statement.nestingOfAll_append]
    exact Nat.max_le.mpr ⟨nesting_of_statementRule first, ih⟩

end Rules

/-- What is read at a level nests no deeper than the levels that may still be opened. -/
theorem Level.reads_nesting (levels : Nat) :
    (Level.within levels).Reads (ExpressionWithin levels) (ScopeWithin levels) := by
  refine Level.reads_within ExpressionWithin ScopeWithin ?_ ?_ levels
  · intro _ _ _ rule
    exact nesting_of_primaryRule rule
  · intro _ _ _ rule
    cases rule with
    | braces _ inner _ => exact Nat.succ_le_succ (nesting_of_statementsRule inner)

theorem Request.nesting_of_action {request : Request} {limit : Nat} {before after : Cursor}
    {answer : Answer}
    (done : (request.action (Level.within limit)).run before = .ok answer after) :
    answer.nesting ≤ limit := by
  have reads := Level.reads_nesting limit
  cases request with
  | program =>
    obtain ⟨program, answered, rfl⟩ := Parse.map_eq_ok_iff.mp done
    obtain ⟨_, statements, _, _, rule, rfl⟩ := Parse.program_eq_ok reads answered
    rw [Answer.nesting, Statement.nestingOfAll_append]
    exact Nat.max_le.mpr ⟨nesting_of_statementsRule rule, Nat.zero_le limit⟩
  | statement =>
    obtain ⟨statement, answered, rfl⟩ := Parse.map_eq_ok_iff.mp done
    obtain ⟨_, _, _, rule⟩ := Parse.reads_statement reads _ _ answered
    exact nesting_of_statementRule rule
  | expression =>
    obtain ⟨expression, answered, rfl⟩ := Parse.map_eq_ok_iff.mp done
    obtain ⟨_, _, _, rule⟩ := Parse.reads_expression reads _ _ answered
    exact nesting_of_expressionRule rule
  | scope =>
    obtain ⟨statements, answered, rfl⟩ := Parse.map_eq_ok_iff.mp done
    obtain ⟨_, _, _, rule⟩ := reads.scope _ _ _ answered
    exact rule

theorem Request.runWithin_eq_ok_iff {request : Request} {limit : Nat} {before after : Cursor}
    {answer : Answer} :
    request.runWithin limit before = (.ok answer, after) ↔
      (request.action (Level.within limit)).run before = .ok answer after := by
  unfold Request.runWithin
  cases done : request.action (Level.within limit) before <;> simp [EStateM.run, done]

/-- With fewer levels a request does what it does with more, unless it is refused because of too deep
nesting. -/
theorem Request.refused_or_runWithin_eq {limit larger : Nat} (le : limit ≤ larger)
    (request : Request) (cursor : Cursor) :
    (∃ tokens, (request.runWithin limit cursor).1 = .error { cause := .nestingTooDeep, tokens }) ∨
      request.runWithin limit cursor = request.runWithin larger cursor := by
  have restricts := request.composed_action.restricts (Level.restricts_within le)
  rcases restricts cursor with ⟨tokens, after, refused⟩ | same
  · refine .inl ⟨tokens, ?_⟩
    rw [EStateM.run] at refused
    rw [Request.runWithin, refused]
  · refine .inr ?_
    simp only [EStateM.run] at same
    rw [Request.runWithin, Request.runWithin, same]

/-- A request that is not refused because of too deep nesting gets the same answer, and leaves the
cursor at the same place, with every larger limit. The trees of an answer nest no deeper than the
limit allows. -/
theorem Request.runWithin_of_le {limit larger : Nat} (le : limit ≤ larger) (request : Request)
    (tokens : List Token) :
    ((∀ error, (request.runWithin limit (.ofTokens tokens)).1 = .error error →
        error.cause ≠ .nestingTooDeep) →
      request.runWithin larger (.ofTokens tokens) = request.runWithin limit (.ofTokens tokens)) ∧
    ∀ answer, (request.runWithin limit (.ofTokens tokens)).1 = .ok answer →
      answer.nesting ≤ limit := by
  constructor
  · intro unrefused
    rcases request.refused_or_runWithin_eq le (.ofTokens tokens) with ⟨found, refused⟩ | same
    · exact absurd rfl (unrefused _ refused)
    · exact same.symm
  · intro answer answered
    exact Request.nesting_of_action (Request.runWithin_eq_ok_iff.mp (Prod.ext answered rfl))

/-- A call with a name in parentheses as its argument takes three levels, two of them for nodes. -/
theorem Request.runWithin_of_le_call :
    let token kind lexeme : Token := { kind, lexeme, position := .start }
    let tokens := [token .identifier "f", token (.opening .round) "(", token (.opening .round) "(",
      token .identifier "x", token (.closing .round) ")", token (.closing .round) ")"]
    let answer := Answer.expression (.call "f" [.expression (.name "x")])
    (expression.runWithin 2 (.ofTokens tokens)).1 =
        .error { cause := .nestingTooDeep, tokens := [token .identifier "x"] } ∧
      (expression.runWithin 3 (.ofTokens tokens)).1 = .ok answer ∧ 3 ≤ 5 ∧
      expression.runWithin 5 (.ofTokens tokens) = expression.runWithin 3 (.ofTokens tokens) ∧
      answer.nesting ≤ 3 := by
  intro token tokens answer
  have refused : (expression.runWithin 2 (.ofTokens tokens)).1 =
      .error { cause := .nestingTooDeep, tokens := [token .identifier "x"] } := rfl
  have answered : (expression.runWithin 3 (.ofTokens tokens)).1 = .ok answer := rfl
  have larger : 3 ≤ 5 := by decide
  obtain ⟨same, shallow⟩ := Request.runWithin_of_le larger expression tokens
  refine ⟨refused, answered, larger, same fun error failed => ?_, shallow answer answered⟩
  simp [answered] at failed

end Kite
