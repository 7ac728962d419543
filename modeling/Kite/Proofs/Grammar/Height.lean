import Kite.Proofs.Grammar.RoundTrip
import Kite.Proofs.SyntaxTree.Height

/-!
# How high a program gets

The limit on nesting counts primary expressions and scopes. A chain of operators opens no
level for its left operand, which is itself a chain, so no height is the greatest one
(`height_unbounded`). This is the only way for a tree to grow beyond the limit: each level
adds three edges at most, and each operator one edge to its left operand
(`height_le_of_parseTokens`).
-/

set_option autoImplicit false

namespace Kite

open Grammar

/-- What the left edges that the tokens may make count for: one edge for each operator. -/
def leftEdges (leftEdge : Nat) (tokens : List Token) : Nat :=
  leftEdge * tokens.countP fun token => token.kind = .operator ∨ token.kind = .hyphen

theorem leftEdges_append (leftEdge : Nat) (tokens others : List Token) :
    leftEdges leftEdge (tokens ++ others) =
      leftEdges leftEdge tokens + leftEdges leftEdge others := by
  rw [leftEdges, List.countP_append, Nat.mul_add]
  rfl

theorem leftEdges_cons {operator : Token} (leftEdge : Nat)
    (kind : operator.kind = .operator ∨ operator.kind = .hyphen) (tokens : List Token) :
    leftEdges leftEdge (operator :: tokens) = leftEdges leftEdge tokens + leftEdge := by
  rw [leftEdges, List.countP_cons_of_pos (by simpa using kind), Nat.mul_succ]
  rfl

theorem leftEdges_le {tokens others : List Token} (leftEdge : Nat)
    (inside : tokens.Sublist others) : leftEdges leftEdge tokens ≤ leftEdges leftEdge others :=
  Nat.mul_le_mul_left leftEdge inside.countP_le

/-- A primary is lower by two than the bound and the left edges together. -/
def ExpressionFits (leftEdge bound : Nat) (tokens : List Token) (expression : Expression) : Prop :=
  expression.height leftEdge + 2 ≤ bound + leftEdges leftEdge tokens

/-- The same for a node with these statements as its children. -/
def ScopeFits (leftEdge bound : Nat) (tokens : List Token) (statements : List Statement) : Prop :=
  Statement.heightOfAll leftEdge statements + 2 ≤ bound + leftEdges leftEdge tokens

section Rules

variable {leftEdge bound : Nat} {tokens : List Token}

/-- A chain adds one edge for its right operands, and the left ones are paid by their operators. -/
theorem height_of_expressionRule {expression : Expression}
    (rule : ExpressionRule (ExpressionFits leftEdge bound) tokens expression) :
    expression.height leftEdge + 1 ≤ bound + leftEdges leftEdge tokens := by
  induction rule with
  | primary first =>
    unfold ExpressionFits at first
    omega
  | binary _ kind second ih =>
    unfold ExpressionFits at second
    rw [Expression.height, leftEdges_append, leftEdges_cons leftEdge kind]
    omega

theorem height_of_bodyRule {body : Body}
    (rule : BodyRule (ExpressionFits leftEdge bound) (ScopeFits leftEdge bound) tokens body) :
    body.height leftEdge ≤ bound + leftEdges leftEdge tokens := by
  cases rule with
  | expression inner => exact height_of_expressionRule inner
  | scope inner =>
    unfold ScopeFits at inner
    rw [Body.height]
    omega

theorem fits_of_primaryRule {expression : Expression}
    (rule : PrimaryRule (ExpressionFits leftEdge bound) (ScopeFits leftEdge bound) tokens
      expression) :
    ExpressionFits leftEdge (bound + 3) tokens expression := by
  unfold ExpressionFits
  cases rule with
  | name _ | literal _ =>
    rw [Expression.height]
    omega
  | @call callee tokens arguments _ inner =>
    have bodies : Body.heightOfAll leftEdge arguments ≤
        bound + 1 + leftEdges leftEdge (callee :: tokens) := by
      refine Body.heightOfAll_le_iff.mpr fun body member => ?_
      obtain ⟨part, inside, rule⟩ := inner.exists_sublist_of_mem body member
      have body := height_of_bodyRule rule
      have fewer := leftEdges_le leftEdge (inside.cons callee)
      omega
    rw [Expression.height]
    omega
  | @group opener closer tokens _ _ inner _ =>
    have fewer := leftEdges_le leftEdge
      ((List.sublist_append_left tokens [closer]).cons opener)
    have inner := height_of_expressionRule inner
    rw [List.cons_append]
    omega
  | @function parameterTokens bodyTokens arrow parameters body _ _ inner =>
    have inside : bodyTokens.Sublist (parameterTokens ++ arrow :: bodyTokens) :=
      (List.sublist_cons_self arrow bodyTokens).trans (List.sublist_append_right _ _)
    have fewer := leftEdges_le leftEdge inside
    have inner := height_of_bodyRule inner
    rw [Expression.height]
    split <;> omega
  | array _ =>
    rw [Expression.height]
    split <;> omega
  | scope inner =>
    unfold ScopeFits at inner
    rw [Expression.height]
    omega

theorem height_of_statementRule {statement : Option Statement}
    (rule : StatementRule (ExpressionFits leftEdge bound) (ScopeFits leftEdge bound) tokens
      statement) :
    ∀ read ∈ statement, read.height leftEdge ≤ bound + leftEdges leftEdge tokens := by
  cases rule with
  | empty => simp
  | @scope tokens ending statements inner _ =>
    rintro _ ⟨⟩
    unfold ScopeFits at inner
    rw [Statement.height, leftEdges_append]
    omega
  | @assignment target colon tokens ending value _ _ inner _ =>
    rintro _ ⟨⟩
    have inner := height_of_expressionRule inner
    have fewer := leftEdges_le leftEdge
      (((List.sublist_append_left tokens ending).cons colon).cons target)
    rw [Statement.height, List.cons_append, List.cons_append]
    omega
  | expression inner _ =>
    rintro _ ⟨⟩
    have inner := height_of_expressionRule inner
    rw [Statement.height, leftEdges_append]
    omega

theorem height_of_statementsRule {statements : List Statement}
    (rule : StatementsRule (ExpressionFits leftEdge bound) (ScopeFits leftEdge bound) tokens
      statements) :
    ∀ statement ∈ statements, statement.height leftEdge ≤ bound + leftEdges leftEdge tokens := by
  induction rule with
  | nil => simp
  | cons first _ ih =>
    intro statement member
    rw [leftEdges_append]
    rcases List.mem_append.mp member with here | later
    · have height := height_of_statementRule first statement (by simpa using here)
      omega
    · have height := ih statement later
      omega

theorem fits_of_scopeRule {statements : List Statement}
    (rule : ScopeRule (ExpressionFits leftEdge bound) (ScopeFits leftEdge bound) tokens
      statements) :
    ScopeFits leftEdge (bound + 3) tokens statements := by
  cases rule with
  | @braces opener closer tokens _ _ inner _ =>
    have heights := height_of_statementsRule inner
    have fewer := leftEdges_le leftEdge
      ((List.sublist_append_left tokens [closer]).cons opener)
    have all : Statement.heightOfAll leftEdge statements ≤
        bound + 1 + leftEdges leftEdge tokens := by
      refine Statement.heightOfAll_le_iff.mpr fun statement member => ?_
      have height := heights statement member
      omega
    rw [ScopeFits, List.cons_append]
    omega

end Rules

/-- Each level adds three edges at most. -/
theorem Level.reads_fitting (leftEdge levels : Nat) :
    (Level.within levels).Reads (ExpressionFits leftEdge (3 * levels))
      (ScopeFits leftEdge (3 * levels)) :=
  Level.reads_within (fun levels => ExpressionFits leftEdge (3 * levels))
    (fun levels => ScopeFits leftEdge (3 * levels)) (fun _ _ _ => fits_of_primaryRule)
    (fun _ _ _ => fits_of_scopeRule) levels

/-- In a program that is read from tokens, no statement is higher than three edges for each level of
the limit on nesting, and one edge to a left operand for each operator. -/
theorem height_le_of_parseTokens {tokens : List Token} {program : List Statement}
    (parsed : parseTokens tokens = .ok program) (leftEdge : Nat) :
    ∀ statement ∈ program,
      statement.height leftEdge ≤ 3 * nestingLimit + leftEdges leftEdge tokens := by
  obtain ⟨after, done⟩ := program_of_parseTokens parsed
  obtain ⟨read, statements, passes, -, rule, rfl⟩ :=
    Parse.program_eq_ok (Level.reads_fitting leftEdge nestingLimit) done
  have fewer := leftEdges_le leftEdge passes.sublist
  intro statement member
  rcases List.mem_append.mp member with earlier | last
  · have height := height_of_statementsRule rule statement earlier
    omega
  · obtain rfl := List.mem_singleton.mp last
    exact Nat.zero_le _

/-- A chain of two operators with its usual height. -/
theorem height_le_of_parseTokens_chain :
    let token kind lexeme : Token := { kind, lexeme, position := .start }
    let tokens := [token .identifier "a", token .hyphen "-", token .identifier "b",
      token .operator "+", token .identifier "c"]
    let statement := Statement.expression (.binary (.binary (.name "a") "-" (.name "b")) "+"
      (.name "c"))
    parseTokens tokens = .ok [statement, .endOfInput] ∧ statement.height 1 = 3 ∧
      statement.height 1 ≤ 3 * nestingLimit + leftEdges 1 tokens := by
  intro token tokens statement
  have parsed : parseTokens tokens = .ok [statement, .endOfInput] := rfl
  exact ⟨parsed, rfl, height_le_of_parseTokens parsed 1 statement List.mem_cons_self⟩

/-! ## Chains of operators -/

theorem Expression.wellFormed_chain (operators : Nat) : (chain operators).wellFormed = true := by
  induction operators with
  | zero => rfl
  | succ operators ih => rw [chain, wellFormed, ih, wellFormed, Bool.and_self]

/-- A chain of operators opens one level at a time. -/
theorem Expression.levels_chain (operators : Nat) :
    groupedLevels (chain operators).standsAlone (chain operators).levels = 1 := by
  induction operators with
  | zero => rfl
  | succ operators ih =>
    change max (groupedLevels (chain operators).standsAlone (chain operators).levels) 1 = 1
    rw [ih, Nat.max_self]

/-- No height is the greatest one. -/
theorem height_unbounded :
    ¬∃ bound, ∀ tokens program, parseTokens tokens = .ok program →
      ∀ statement ∈ program, statement.height 1 ≤ bound := by
  rintro ⟨bound, bounds⟩
  have wellFormed :
      Statement.allWellFormed [.expression (Expression.chain bound)] = true := by
    simp [Statement.allWellFormed, Statement.wellFormed, Expression.wellFormed_chain]
  have levels : Statement.levelsOfAll [.expression (Expression.chain bound)] ≤ nestingLimit := by
    simp [Statement.levelsOfAll, Statement.levels, Expression.levels_chain, nestingLimit]
  obtain ⟨tokens, parsed⟩ := exists_parseTokens wellFormed levels
  have low := bounds tokens _ parsed _ List.mem_cons_self
  have high := Expression.le_height_chain bound
  rw [Statement.height] at low
  omega

end Kite
