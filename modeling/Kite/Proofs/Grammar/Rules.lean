import Kite.Grammar.Session
import Kite.Proofs.Grammar.Actions

/-!
# What the rules do

Equations for the rules of the parser that decide by the kind of the next token or
repeat a part. The repeated parts have names of their own here.
-/

set_option autoImplicit false

namespace Kite.Parse

variable {cursor : Cursor}

theorem operation_run (level : Level) :
    (operation level).run cursor =
      if cursor.kindAt 0 = .operator ∨ cursor.kindAt 0 = .hyphen then
        (level.primary >>= fun right => pure (some (cursor.token.lexeme, right))).run cursor.next
      else .ok none cursor := by
  rw [operation, kindAt_bind]
  cases cursor.kindAt 0 with
  | operator => rw [if_pos (Or.inl rfl), take_bind]
  | hyphen => rw [if_pos (Or.inr rfl), take_bind]
  | _ => rw [if_neg (by simp), EStateM.run_pure]

/-- Goes on with an expression of which `left` has been read. -/
def expressionAfter (level : Level) (left : Expression) : Parse Expression := do
  let operations ← many (operation level)
  return operations.foldl (fun left (operator, right) => .binary left operator right) left

theorem expression_eq_bind (level : Level) :
    expression level = level.primary >>= expressionAfter level := rfl

/-- One operation extends what has been read, and then the rest is read. -/
theorem expressionAfter_run {level : Level} (progresses : Progresses (operation level))
    (left : Expression) :
    (expressionAfter level left).run cursor =
      (operation level >>= fun answer =>
        match answer with
        | none => pure left
        | some (operator, right) =>
          expressionAfter level (.binary left operator right)).run cursor := by
  unfold expressionAfter
  rw [EStateM.run_bind, many_run progresses, EStateM.run_bind, EStateM.run_bind]
  cases (operation level).run cursor with
  | error error cursor => rfl
  | ok answer cursor =>
    cases answer with
    | none => rfl
    | some operation =>
      simp only [EStateM.run_bind]
      cases (many (Parse.operation level)).run cursor <;> rfl

/-- Whether these kinds, behind a round bracket, begin a list of parameters. -/
def beginParameters : Kind → Kind → Bool
  | .closing .round, _ | .identifier, .colon | .identifier, .comma => true
  | _, _ => false

theorem parametersAhead_bind {β : Type} (next : Bool → Parse β) :
    (parametersAhead >>= next).run cursor =
      (next (beginParameters (cursor.kindAt 1) (cursor.kindAt 2))).run cursor := by
  apply bind_of_ok
  rw [parametersAhead, kindAt_bind, kindAt_bind]
  unfold beginParameters
  split <;> simp_all

/-- A round bracket begins a function or a group. -/
theorem primary_run_of_opening {level : Level} (opens : cursor.kindAt 0 = .opening .round) :
    (primary level).run cursor =
      (if beginParameters (cursor.kindAt 1) (cursor.kindAt 2) then function level
        else group level).run cursor := by
  rw [primary, kindAt_bind, opens]
  exact parametersAhead_bind fun ahead => if ahead then function level else group level

/-- A semicolon is the empty statement. Any other statement takes a semicolon behind it. -/
theorem statement_run (level : Level) :
    (statement level).run cursor =
      if cursor.kindAt 0 = .semicolon then .ok none cursor.next
      else (bareStatement level >>= fun bare =>
        accept .semicolon >>= fun _ => pure (some bare)).run cursor := by
  rw [statement, accept_bind]
  rfl

/-- A statement, unless the statements have ended. -/
def statementUnless (level : Level) (ended : Parse Bool) : Parse (Option (Option Statement)) := do
  if ← ended then return none else return some (← statement level)

theorem statementsUntil_eq_many (level : Level) (ended : Parse Bool) :
    statementsUntil level ended =
      (do return (← many (statementUnless level ended)).filterMap id) := rfl

/-- An action that decides whether statements have ended leaves the cursor where it is. -/
def Peeks (ended : Parse Bool) : Prop :=
  ∀ before answer after, ended.run before = .ok answer after → before = after

theorem scopeEnds_run (opener : Token) :
    (scopeEnds opener).run cursor =
      if cursor.kindAt 0 = .closing .curly then .ok true cursor
      else if cursor.kindAt 0 = .endOfInput then
        .error { cause := .unclosed .curly, tokens := [cursor.token, opener] } cursor
      else .ok false cursor := by
  rw [scopeEnds, kindAt_bind]
  generalize cursor.kindAt 0 = kind
  cases kind with
  | closing shape => cases shape <;> rfl
  | _ => rfl

theorem kindAt_of_scopeEnds {opener : Token} {after : Cursor}
    (held : (scopeEnds opener).run cursor = .ok true after) :
    cursor.kindAt 0 = .closing .curly := by
  rw [scopeEnds_run] at held
  split at held
  · assumption
  · split at held <;> simp at held

theorem peeks_scopeEnds (opener : Token) : Peeks (scopeEnds opener) := by
  intro cursor answer after done
  rw [scopeEnds_run] at done
  split at done
  · exact (EStateM.Result.ok.inj done).2
  · split at done
    · simp at done
    · exact (EStateM.Result.ok.inj done).2

/-- Whether the input ends here. -/
def inputEnds : Parse Bool := do
  return (← kindAt 0) = .endOfInput

theorem inputEnds_run :
    inputEnds.run cursor = .ok (decide (cursor.kindAt 0 = .endOfInput)) cursor := rfl

theorem peeks_inputEnds : Peeks inputEnds := by
  intro before answer after done
  rw [inputEnds_run] at done
  exact (EStateM.Result.ok.inj done).2

/-- Before the end of the input, a statement is read. -/
theorem statementUnless_inputEnds_eq_some_iff {level : Level} {value : Option Statement}
    {after : Cursor} :
    (statementUnless level inputEnds).run cursor = .ok (some value) after ↔
      cursor.kindAt 0 ≠ .endOfInput ∧ (statement level).run cursor = .ok value after := by
  rw [statementUnless, bind_of_ok inputEnds_run]
  by_cases ended : cursor.kindAt 0 = .endOfInput
  · simp [ended]
  · rw [if_neg (by simpa using ended), bind_eq_ok_iff]
    simp [ended]

theorem program_eq_statementsUntil (level : Level) :
    program level = do return (← statementsUntil level inputEnds) ++ [.endOfInput] := rfl

end Kite.Parse
