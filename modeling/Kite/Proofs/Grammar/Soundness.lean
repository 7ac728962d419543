import Kite.Proofs.Grammar.Derivation
import Kite.Proofs.Grammar.Rules

/-!
# What the parser reads, the grammar derives

`Parse.Reads` relates the tokens that an action passes to the value that it answers. Each
rule of the parser reads what its rule of the grammar says, if the level inside it reads
what is given for the primaries and scopes there. `Level.reads_within` puts this together
for every number of levels: any two relations that are closed under the rules are read.
For derivations this gives `derives_of_parseTokens`.
-/

set_option autoImplicit false

namespace Kite

/-- Whenever the action succeeds at the cursor, the tokens that it passes are in the relation to
the value that it answers. -/
def Parse.Reads {α : Type} (action : Parse α) (relation : List Token → α → Prop)
    (before : Cursor) : Prop :=
  ∀ value after, action.run before = .ok value after →
    ∃ tokens, before.Passes tokens after ∧ relation tokens value

/-- The primaries and scopes of a level are read as the given relations say, and none without a
token. -/
structure Level.Reads (level : Level) (primary : List Token → Expression → Prop)
    (scope : List Token → List Statement → Prop) : Prop where
  primary : ∀ before,
    level.primary.Reads (fun tokens expression => tokens ≠ [] ∧ primary tokens expression) before
  scope : ∀ before,
    level.scope.Reads (fun tokens statements => tokens ≠ [] ∧ scope tokens statements) before

namespace Parse

open Grammar

variable {α : Type} {before after : Cursor}

/-! ## Parts without brackets inside -/

theorem literalValue_eq_ok_iff {token : Token} {value : Literal} :
    (literalValue token).run before = .ok value after ↔
      Literal.ofToken? token = some value ∧ before = after := by
  unfold literalValue
  cases spelled : Literal.ofToken? token with
  | none => simp
  | some found => simp

theorem reads_element (opener : Token) : (element opener).Reads ElementRule before := by
  intro value after done
  rw [element, current_bind, kindAt_bind] at done
  generalize seen : before.kindAt 0 = kind at done
  have readsLiteral : (literalValue before.token >>= fun value => skip >>= fun _ =>
      pure (Element.literal value)).run before = .ok value after →
      before.Passes [before.token] before.next →
      ∃ tokens, before.Passes tokens after ∧ ElementRule tokens value := by
    intro done passes
    obtain ⟨found, cursor, valued, last⟩ := bind_eq_ok_iff.mp done
    obtain ⟨spelled, rfl⟩ := literalValue_eq_ok_iff.mp valued
    rw [skip_bind] at last
    obtain ⟨rfl, rfl⟩ := pure_eq_ok_iff.mp last
    exact ⟨_, passes, .literal spelled⟩
  cases kind with
  | identifier =>
    obtain ⟨passes, kind⟩ := Cursor.exists_of_kindAt seen (by simp)
    rw [skip_bind] at done
    obtain ⟨rfl, rfl⟩ := pure_eq_ok_iff.mp done
    exact ⟨_, passes, .name kind⟩
  | number => exact readsLiteral done (Cursor.exists_of_kindAt seen (by simp)).1
  | quoted style => exact readsLiteral done (Cursor.exists_of_kindAt seen (by simp)).1
  | _ => simp at done

theorem reads_parameter : parameter.Reads ParameterRule before := by
  intro value after done
  rw [parameter, kindAt_bind] at done
  split at done
  · simp at done
  next nameSeen =>
  rw [take_bind, kindAt_bind] at done
  split at done
  · simp at done
  next colonSeen =>
  rw [skip_bind, kindAt_bind] at done
  split at done
  · simp at done
  next annotationSeen =>
  rw [take_bind] at done
  obtain ⟨rfl, rfl⟩ := pure_eq_ok_iff.mp done
  obtain ⟨passesName, nameKind⟩ :=
    Cursor.exists_of_kindAt (Decidable.not_not.mp nameSeen) (by simp)
  obtain ⟨passesColon, colonKind⟩ :=
    Cursor.exists_of_kindAt (Decidable.not_not.mp colonSeen) (by simp)
  obtain ⟨passesType, annotationKind⟩ :=
    Cursor.exists_of_kindAt (Decidable.not_not.mp annotationSeen) (by simp)
  exact ⟨_, passesName.trans (passesColon.trans passesType),
    .annotated nameKind colonKind annotationKind⟩

/-! ## Lists in brackets -/

section Lists

variable {item : Parse α} {relation : List Token → α → Prop}

theorem afterComma_eq_some {value : α} (reads : ∀ before, item.Reads relation before)
    (done : (afterComma item).run before = .ok (some value) after) :
    ∃ comma tokens, before.Passes (comma :: tokens) after ∧ comma.kind = .comma ∧
      relation tokens value := by
  rw [afterComma, accept_bind] at done
  split at done
  next seen =>
    obtain ⟨found, answered, same⟩ := map_eq_ok_iff.mp done
    obtain rfl := Option.some.inj same
    obtain ⟨passesComma, kind⟩ := Cursor.exists_of_kindAt seen (by simp)
    obtain ⟨tokens, passes, related⟩ := reads _ _ _ answered
    exact ⟨_, tokens, passesComma.trans passes, kind, related⟩
  next => simp at done

theorem progresses_afterComma (reads : ∀ before, item.Reads relation before) :
    Progresses (afterComma item) := by
  intro before value after done
  obtain ⟨comma, tokens, passes, -, -⟩ := afterComma_eq_some reads done
  exact passes.shorter (by simp)

theorem afterComma_eq_none (done : (afterComma item).run before = .ok none after) :
    before = after := by
  rw [afterComma, accept_bind] at done
  split at done
  · obtain ⟨found, cursor, answered, last⟩ := bind_eq_ok_iff.mp done
    simp at last
  · exact (pure_eq_ok_iff.mp done).2

/-- Rounds of a comma and an item continue a list that has begun. -/
theorem Repeats.separated {values : List α} (reads : ∀ before, item.Reads relation before)
    (rounds : Repeats (afterComma item) before values after) {first : α} {begun : List Token}
    (related : relation begun first) :
    ∃ tokens, before.Passes tokens after ∧
      Separated relation (begun ++ tokens) (first :: values) := by
  induction rounds generalizing first begun with
  | done cursor => exact ⟨[], .refl cursor, by simpa using Separated.single related⟩
  | round answered _ ih =>
    obtain ⟨comma, tokens, passes, kind, next⟩ := afterComma_eq_some reads answered
    obtain ⟨others, passesOthers, separated⟩ := ih next
    exact ⟨_, passes.trans passesOthers, .cons related kind separated⟩

theorem reads_separated (reads : ∀ before, item.Reads relation before) :
    (separated item).Reads (Separated relation) before := by
  intro values after done
  rw [separated_eq_many] at done
  obtain ⟨first, cursor, answered, others⟩ := bind_eq_ok_iff.mp done
  obtain ⟨found, repeated, rfl⟩ := map_eq_ok_iff.mp others
  obtain ⟨stopped, rounds, none⟩ := (many_eq_ok_iff (progresses_afterComma reads)).mp repeated
  obtain rfl := afterComma_eq_none none
  obtain ⟨begun, passes, related⟩ := reads _ _ _ answered
  obtain ⟨tokens, passesOthers, separated⟩ := rounds.separated reads related
  exact ⟨_, passes.trans passesOthers, separated⟩

theorem reads_enclosed {shape : Bracket} {item : Token → Parse α}
    (reads : ∀ opener before, (item opener).Reads relation before) :
    (enclosed shape item).Reads (Enclosed shape relation) before := by
  intro values after done
  rw [enclosed_eq_listed] at done
  obtain ⟨opener, inside, opened, rest⟩ := bind_eq_ok_iff.mp done
  obtain ⟨openerSeen, rfl, rfl⟩ := expect_eq_ok_iff.mp opened
  obtain ⟨passesOpener, openerKind⟩ := Cursor.exists_of_kindAt openerSeen (by simp)
  obtain ⟨items, cursor, answered, last⟩ := bind_eq_ok_iff.mp rest
  obtain ⟨_, _, closes, ended⟩ := bind_eq_ok_iff.mp last
  obtain ⟨closerSeen, rfl⟩ := close_eq_ok_iff.mp closes
  obtain ⟨rfl, rfl⟩ := pure_eq_ok_iff.mp ended
  obtain ⟨passesCloser, closerKind⟩ := Cursor.exists_of_kindAt closerSeen (by simp)
  rw [listed, kindAt_bind] at answered
  split at answered
  · obtain ⟨rfl, rfl⟩ := pure_eq_ok_iff.mp answered
    exact ⟨_, passesOpener.trans passesCloser, .empty openerKind closerKind⟩
  · obtain ⟨tokens, passes, separated⟩ := reads_separated (reads _) _ _ answered
    exact ⟨_, (passesOpener.trans passes).trans passesCloser,
      .items openerKind separated closerKind⟩

end Lists

/-! ## Expressions -/

section Expressions

variable {level : Level} {primary : List Token → Expression → Prop}
  {scope : List Token → List Statement → Prop}

theorem operation_eq_some (reads : level.Reads primary scope) {operator : String}
    {right : Expression}
    (done : (operation level).run before = .ok (some (operator, right)) after) :
    ∃ token tokens, before.Passes (token :: tokens) after ∧
      (token.kind = .operator ∨ token.kind = .hyphen) ∧ token.lexeme = operator ∧
      primary tokens right := by
  rw [operation_run] at done
  split at done
  next seen =>
    obtain ⟨found, answered, same⟩ := map_eq_ok_iff.mp done
    cases same
    have notEnd : before.kindAt 0 ≠ .endOfInput := by
      intro ended
      simp [ended] at seen
    obtain ⟨passesOperator, kind⟩ := Cursor.exists_of_kindAt rfl notEnd
    obtain ⟨tokens, passes, -, related⟩ := reads.primary _ _ _ answered
    exact ⟨_, tokens, passesOperator.trans passes, kind ▸ seen, rfl, related⟩
  next => simp at done

theorem progresses_operation (reads : level.Reads primary scope) :
    Progresses (operation level) := by
  intro before value after done
  obtain ⟨token, tokens, passes, -, -, -⟩ := operation_eq_some reads done
  exact passes.shorter (by simp)

theorem operation_eq_none (done : (operation level).run before = .ok none after) :
    before = after := by
  rw [operation_run] at done
  split at done
  · obtain ⟨found, cursor, answered, last⟩ := bind_eq_ok_iff.mp done
    simp at last
  · exact (EStateM.Result.ok.inj done).2

/-- Rounds of an operator and a primary extend an expression that has begun to the right. -/
theorem Repeats.expression (reads : level.Reads primary scope)
    {operations : List (String × Expression)}
    (rounds : Repeats (operation level) before operations after) {left : Expression}
    {begun : List Token} (related : ExpressionRule primary begun left) :
    ∃ tokens, before.Passes tokens after ∧ ExpressionRule primary (begun ++ tokens)
      (operations.foldl (fun left (operator, right) => .binary left operator right) left) := by
  induction rounds generalizing left begun with
  | done cursor => exact ⟨[], .refl cursor, by simpa using related⟩
  | @round _ _ _ operation _ answered _ ih =>
    obtain ⟨operator, right⟩ := operation
    obtain ⟨token, tokens, passes, kind, rfl, next⟩ := operation_eq_some reads answered
    obtain ⟨others, passesOthers, extended⟩ := ih (.binary related kind next)
    refine ⟨_, passes.trans passesOthers, ?_⟩
    rw [← List.append_assoc]
    exact extended

theorem reads_expression (reads : level.Reads primary scope) :
    (expression level).Reads
      (fun tokens value => tokens ≠ [] ∧ ExpressionRule primary tokens value) before := by
  intro value after done
  obtain ⟨first, cursor, answered, others⟩ := bind_eq_ok_iff.mp done
  obtain ⟨operations, repeated, rfl⟩ := map_eq_ok_iff.mp others
  obtain ⟨stopped, rounds, none⟩ := (many_eq_ok_iff (progresses_operation reads)).mp repeated
  obtain rfl := operation_eq_none none
  obtain ⟨begun, passes, nonempty, related⟩ := reads.primary _ _ _ answered
  obtain ⟨tokens, passesOthers, extended⟩ := rounds.expression reads (.primary related)
  exact ⟨_, passes.trans passesOthers, by simp [nonempty], extended⟩

theorem reads_body (reads : level.Reads primary scope) :
    (body level).Reads (fun tokens value => tokens ≠ [] ∧ BodyRule primary scope tokens value)
      before := by
  intro value after done
  rw [body, kindAt_bind] at done
  split at done
  · obtain ⟨statements, answered, rfl⟩ := map_eq_ok_iff.mp done
    obtain ⟨tokens, passes, nonempty, related⟩ := reads.scope _ _ _ answered
    exact ⟨tokens, passes, nonempty, .scope related⟩
  · obtain ⟨inner, answered, rfl⟩ := map_eq_ok_iff.mp done
    obtain ⟨tokens, passes, nonempty, related⟩ := reads_expression reads _ _ answered
    exact ⟨tokens, passes, nonempty, .expression related⟩

theorem reads_argument (reads : level.Reads primary scope) (opener : Token) :
    (argument level opener).Reads (BodyRule primary scope) before := by
  intro value after done
  rw [argument, kindAt_bind] at done
  split at done
  · simp at done
  · obtain ⟨tokens, passes, -, related⟩ := reads_body reads _ _ done
    exact ⟨tokens, passes, related⟩

theorem reads_call (reads : level.Reads primary scope) :
    (call level).Reads
      (fun tokens value => tokens ≠ [] ∧ PrimaryRule primary scope tokens value) before := by
  intro value after done
  obtain ⟨callee, inside, named, rest⟩ := bind_eq_ok_iff.mp done
  obtain ⟨seen, rfl, rfl⟩ := expect_eq_ok_iff.mp named
  obtain ⟨arguments, answered, rfl⟩ := map_eq_ok_iff.mp rest
  obtain ⟨passesCallee, kind⟩ := Cursor.exists_of_kindAt seen (by simp)
  obtain ⟨tokens, passes, enclosed⟩ :=
    reads_enclosed (fun opener _ => reads_argument reads opener) _ _ answered
  exact ⟨_, passesCallee.trans passes, by simp, .call kind enclosed⟩

theorem reads_function (reads : level.Reads primary scope) :
    (function level).Reads
      (fun tokens value => tokens ≠ [] ∧ PrimaryRule primary scope tokens value) before := by
  intro value after done
  obtain ⟨parameters, behind, answered, rest⟩ := bind_eq_ok_iff.mp done
  rw [kindAt_bind] at rest
  split at rest
  · simp at rest
  next arrowSeen =>
  rw [skip_bind] at rest
  obtain ⟨inner, bodied, rfl⟩ := map_eq_ok_iff.mp rest
  obtain ⟨parameterTokens, passesParameters, list⟩ :=
    reads_enclosed (fun _ _ => reads_parameter) _ _ answered
  obtain ⟨passesArrow, kind⟩ := Cursor.exists_of_kindAt (Decidable.not_not.mp arrowSeen) (by simp)
  obtain ⟨bodyTokens, passesBody, -, related⟩ := reads_body reads _ _ bodied
  exact ⟨_, passesParameters.trans (passesArrow.trans passesBody), by simp,
    .function list kind related⟩

theorem reads_group (reads : level.Reads primary scope)
    (seen : before.kindAt 0 = .opening .round) :
    (group level).Reads
      (fun tokens value => tokens ≠ [] ∧ PrimaryRule primary scope tokens value) before := by
  intro value after done
  obtain ⟨passesOpener, openerKind⟩ := Cursor.exists_of_kindAt seen (by simp)
  rw [group, take_bind] at done
  obtain ⟨inner, behind, answered, rest⟩ := bind_eq_ok_iff.mp done
  obtain ⟨_, cursor, closes, last⟩ := bind_eq_ok_iff.mp rest
  obtain ⟨closerSeen, rfl⟩ := close_eq_ok_iff.mp closes
  obtain ⟨passesCloser, closerKind⟩ := Cursor.exists_of_kindAt closerSeen (by simp)
  obtain ⟨tokens, passes, -, related⟩ := reads_expression reads _ _ answered
  rw [kindAt_bind] at last
  split at last
  · simp at last
  · obtain ⟨rfl, rfl⟩ := pure_eq_ok_iff.mp last
    exact ⟨_, (passesOpener.trans passes).trans passesCloser, by simp,
      .group openerKind related closerKind⟩

theorem reads_literal {kind : Kind} (seen : before.kindAt 0 = kind) (notEnd : kind ≠ .endOfInput) :
    literal.Reads
      (fun tokens value => tokens ≠ [] ∧ PrimaryRule primary scope tokens value) before := by
  intro value after done
  rw [literal, take_bind] at done
  obtain ⟨found, cursor, valued, last⟩ := bind_eq_ok_iff.mp done
  obtain ⟨spelled, rfl⟩ := literalValue_eq_ok_iff.mp valued
  obtain ⟨rfl, rfl⟩ := pure_eq_ok_iff.mp last
  exact ⟨_, (Cursor.exists_of_kindAt seen notEnd).1, by simp, .literal spelled⟩

theorem reads_primary (reads : level.Reads primary scope) :
    (Parse.primary level).Reads
      (fun tokens value => tokens ≠ [] ∧ PrimaryRule primary scope tokens value) before := by
  intro value after done
  rw [Parse.primary, kindAt_bind] at done
  generalize seen : before.kindAt 0 = kind at done
  cases kind with
  | opening shape =>
    cases shape with
    | round =>
      rw [parametersAhead_bind] at done
      split at done
      · exact reads_function reads _ _ done
      · exact reads_group reads seen _ _ done
    | square =>
      obtain ⟨elements, answered, rfl⟩ := map_eq_ok_iff.mp done
      obtain ⟨tokens, passes, enclosed⟩ :=
        reads_enclosed (fun opener _ => reads_element opener) _ _ answered
      exact ⟨tokens, passes, enclosed.ne_nil, .array enclosed⟩
    | curly =>
      obtain ⟨statements, answered, rfl⟩ := map_eq_ok_iff.mp done
      obtain ⟨tokens, passes, nonempty, related⟩ := reads.scope _ _ _ answered
      exact ⟨tokens, passes, nonempty, .scope related⟩
  | identifier =>
    rw [kindAt_bind] at done
    split at done
    · exact reads_call reads _ _ done
    · rw [name, take_bind] at done
      obtain ⟨rfl, rfl⟩ := pure_eq_ok_iff.mp done
      obtain ⟨passes, kind⟩ := Cursor.exists_of_kindAt seen (by simp)
      exact ⟨_, passes, by simp, .name kind⟩
  | number => exact reads_literal seen (by simp) _ _ done
  | quoted style => exact reads_literal seen (by simp) _ _ done
  | _ => simp at done

/-! ## Statements -/

theorem reads_ending {accepted : Bool}
    (done : (accept .semicolon).run before = .ok accepted after) :
    ∃ ending, before.Passes ending after ∧ EndingRule ending := by
  rw [accept_run] at done
  split at done
  next seen =>
    obtain ⟨rfl, rfl⟩ := EStateM.Result.ok.inj done
    obtain ⟨passes, kind⟩ := Cursor.exists_of_kindAt seen (by simp)
    exact ⟨_, passes, .semicolon kind⟩
  next =>
    obtain ⟨rfl, rfl⟩ := EStateM.Result.ok.inj done
    exact ⟨_, .refl before, .none⟩

/-- What is read without the ending is a statement with any ending. -/
def BareRule (primary : List Token → Expression → Prop) (scope : List Token → List Statement → Prop)
    (tokens : List Token) (statement : Statement) : Prop :=
  tokens ≠ [] ∧ ∀ ending, EndingRule ending →
    StatementRule primary scope (tokens ++ ending) (some statement)

theorem reads_assignment (reads : level.Reads primary scope) :
    (assignment level).Reads (BareRule primary scope) before := by
  intro value after done
  obtain ⟨target, cursor, named, rest⟩ := bind_eq_ok_iff.mp done
  obtain ⟨targetSeen, rfl, rfl⟩ := expect_eq_ok_iff.mp named
  obtain ⟨colon, _, marked, rest⟩ := bind_eq_ok_iff.mp rest
  obtain ⟨colonSeen, rfl, rfl⟩ := expect_eq_ok_iff.mp marked
  obtain ⟨inner, answered, rfl⟩ := map_eq_ok_iff.mp rest
  obtain ⟨passesTarget, targetKind⟩ := Cursor.exists_of_kindAt targetSeen (by simp)
  obtain ⟨passesColon, colonKind⟩ := Cursor.exists_of_kindAt colonSeen (by simp)
  obtain ⟨tokens, passes, -, related⟩ := reads_expression reads _ _ answered
  exact ⟨_, passesTarget.trans (passesColon.trans passes), by simp,
    fun _ ends => .assignment targetKind colonKind related ends⟩

theorem reads_bareStatement (reads : level.Reads primary scope) :
    (bareStatement level).Reads (BareRule primary scope) before := by
  intro value after done
  have readsExpression : (expression level >>= fun inner =>
      pure (Statement.expression inner)).run before = .ok value after →
      ∃ tokens, before.Passes tokens after ∧ BareRule primary scope tokens value := by
    intro done
    obtain ⟨inner, answered, rfl⟩ := map_eq_ok_iff.mp done
    obtain ⟨tokens, passes, nonempty, related⟩ := reads_expression reads _ _ answered
    exact ⟨tokens, passes, nonempty, fun _ ends => .expression related ends⟩
  rw [bareStatement, kindAt_bind] at done
  generalize before.kindAt 0 = kind at done
  cases kind with
  | opening shape =>
    cases shape with
    | round => exact readsExpression done
    | square => simp at done
    | curly =>
      obtain ⟨statements, answered, rfl⟩ := map_eq_ok_iff.mp done
      obtain ⟨tokens, passes, nonempty, related⟩ := reads.scope _ _ _ answered
      exact ⟨tokens, passes, nonempty, fun _ ends => .scope related ends⟩
  | identifier =>
    rw [kindAt_bind] at done
    split at done
    · exact reads_assignment reads _ _ done
    · exact readsExpression done
  | number => exact readsExpression done
  | quoted style => exact readsExpression done
  | _ => simp at done

theorem reads_statement (reads : level.Reads primary scope) :
    (statement level).Reads
      (fun tokens value => tokens ≠ [] ∧ StatementRule primary scope tokens value) before := by
  intro value after done
  rw [statement_run] at done
  split at done
  next seen =>
    obtain ⟨rfl, rfl⟩ := EStateM.Result.ok.inj done
    obtain ⟨passes, kind⟩ := Cursor.exists_of_kindAt seen (by simp)
    exact ⟨_, passes, by simp, .empty kind⟩
  next =>
    obtain ⟨bare, cursor, answered, rest⟩ := bind_eq_ok_iff.mp done
    obtain ⟨_, ends, rfl⟩ := map_eq_ok_iff.mp rest
    obtain ⟨tokens, passes, nonempty, related⟩ := reads_bareStatement reads _ _ answered
    obtain ⟨ending, passesEnding, rule⟩ := reads_ending ends
    exact ⟨_, passes.trans passesEnding, by simp [nonempty], related _ rule⟩

theorem statementUnless_eq_some (reads : level.Reads primary scope) {ended : Parse Bool}
    (peeks : Peeks ended) {value : Option Statement}
    (done : (statementUnless level ended).run before = .ok (some value) after) :
    ∃ tokens, before.Passes tokens after ∧ tokens ≠ [] ∧
      StatementRule primary scope tokens value := by
  obtain ⟨answer, cursor, answered, rest⟩ := bind_eq_ok_iff.mp done
  obtain rfl := peeks _ _ _ answered
  split at rest
  · simp at rest
  · obtain ⟨found, answered, same⟩ := map_eq_ok_iff.mp rest
    obtain rfl := Option.some.inj same
    exact reads_statement reads _ _ answered

theorem progresses_statementUnless (reads : level.Reads primary scope) {ended : Parse Bool}
    (peeks : Peeks ended) : Progresses (statementUnless level ended) := by
  intro before value after done
  obtain ⟨tokens, passes, nonempty, -⟩ := statementUnless_eq_some reads peeks done
  exact passes.shorter nonempty

theorem statementUnless_eq_none {ended : Parse Bool} (peeks : Peeks ended)
    (done : (statementUnless level ended).run before = .ok none after) :
    before = after ∧ ended.run after = .ok true after := by
  obtain ⟨answer, cursor, answered, rest⟩ := bind_eq_ok_iff.mp done
  obtain rfl := peeks _ _ _ answered
  split at rest
  next held =>
    obtain ⟨-, rfl⟩ := pure_eq_ok_iff.mp rest
    exact ⟨rfl, by simpa [held] using answered⟩
  next =>
    obtain ⟨found, cursor, _, last⟩ := bind_eq_ok_iff.mp rest
    simp at last

theorem Repeats.statements (reads : level.Reads primary scope) {ended : Parse Bool}
    (peeks : Peeks ended) {values : List (Option Statement)}
    (rounds : Repeats (statementUnless level ended) before values after) :
    ∃ tokens, before.Passes tokens after ∧
      StatementsRule primary scope tokens (values.filterMap id) := by
  induction rounds with
  | done cursor => exact ⟨[], .refl cursor, .nil⟩
  | @round _ _ _ value _ answered _ ih =>
    obtain ⟨tokens, passes, -, related⟩ := statementUnless_eq_some reads peeks answered
    obtain ⟨others, passesOthers, rule⟩ := ih
    refine ⟨_, passes.trans passesOthers, ?_⟩
    have split := StatementsRule.cons related rule
    cases value <;> exact split

theorem statementsUntil_eq_ok (reads : level.Reads primary scope) {ended : Parse Bool}
    (peeks : Peeks ended) {statements : List Statement}
    (done : (statementsUntil level ended).run before = .ok statements after) :
    ∃ tokens, before.Passes tokens after ∧ StatementsRule primary scope tokens statements ∧
      ended.run after = .ok true after := by
  rw [statementsUntil_eq_many] at done
  obtain ⟨values, repeated, rfl⟩ := map_eq_ok_iff.mp done
  obtain ⟨stopped, rounds, none⟩ :=
    (many_eq_ok_iff (progresses_statementUnless reads peeks)).mp repeated
  obtain ⟨rfl, held⟩ := statementUnless_eq_none peeks none
  obtain ⟨tokens, passes, related⟩ := rounds.statements reads peeks
  exact ⟨tokens, passes, related, held⟩

theorem reads_scope (reads : level.Reads primary scope) :
    (Parse.scope level).Reads
      (fun tokens value => tokens ≠ [] ∧ ScopeRule primary scope tokens value) before := by
  intro value after done
  obtain ⟨opener, inside, opened, rest⟩ := bind_eq_ok_iff.mp done
  obtain ⟨openerSeen, rfl, rfl⟩ := expect_eq_ok_iff.mp opened
  obtain ⟨statements, cursor, answered, last⟩ := bind_eq_ok_iff.mp rest
  rw [skip_bind] at last
  obtain ⟨rfl, rfl⟩ := pure_eq_ok_iff.mp last
  obtain ⟨tokens, passes, related, held⟩ :=
    statementsUntil_eq_ok reads (peeks_scopeEnds before.token) answered
  have closerSeen := kindAt_of_scopeEnds held
  obtain ⟨passesOpener, openerKind⟩ := Cursor.exists_of_kindAt openerSeen (by simp)
  obtain ⟨passesCloser, closerKind⟩ := Cursor.exists_of_kindAt closerSeen (by simp)
  exact ⟨_, (passesOpener.trans passes).trans passesCloser, by simp,
    .braces openerKind related closerKind⟩

theorem program_eq_ok (reads : level.Reads primary scope) {program : List Statement}
    (done : (Parse.program level).run before = .ok program after) :
    ∃ tokens statements, before.Passes tokens after ∧ after.kindAt 0 = .endOfInput ∧
      StatementsRule primary scope tokens statements ∧ program = statements ++ [.endOfInput] := by
  obtain ⟨statements, answered, rfl⟩ := map_eq_ok_iff.mp done
  obtain ⟨tokens, passes, related, held⟩ := statementsUntil_eq_ok reads peeks_inputEnds answered
  rw [inputEnds_run] at held
  exact ⟨tokens, statements, passes, by simpa using held, related, rfl⟩

end Expressions

end Parse

/-! ## The whole grammar -/

open Grammar

/-- Relations that take up what the rules make of the levels further in are read at every level. -/
theorem Level.reads_within (primary : Nat → List Token → Expression → Prop)
    (scope : Nat → List Token → List Statement → Prop)
    (primaries : ∀ levels tokens expression,
      PrimaryRule (primary levels) (scope levels) tokens expression →
        primary (levels + 1) tokens expression)
    (scopes : ∀ levels tokens statements,
      ScopeRule (primary levels) (scope levels) tokens statements →
        scope (levels + 1) tokens statements)
    (levels : Nat) : (Level.within levels).Reads (primary levels) (scope levels) := by
  induction levels with
  | zero =>
    constructor
    · intro before value after done
      simp [Level.within] at done
    · intro before value after done
      simp [Level.within] at done
  | succ levels ih =>
    constructor
    · intro before value after done
      obtain ⟨tokens, passes, nonempty, rule⟩ := Parse.reads_primary ih _ _ done
      exact ⟨tokens, passes, nonempty, primaries levels _ _ rule⟩
    · intro before value after done
      obtain ⟨tokens, passes, nonempty, rule⟩ := Parse.reads_scope ih _ _ done
      exact ⟨tokens, passes, nonempty, scopes levels _ _ rule⟩

theorem Level.reads_derivations (levels : Nat) :
    (Level.within levels).Reads DerivesPrimary DerivesScope :=
  Level.reads_within (fun _ => DerivesPrimary) (fun _ => DerivesScope)
    (fun _ _ _ => derivesPrimary_iff.mpr) (fun _ _ _ => derivesScope_iff.mpr) levels

theorem Cursor.rest_sublist (tokens : List Token) : (ofTokens tokens).rest.Sublist tokens :=
  (List.takeWhile_sublist _).trans List.filter_sublist

/-- What has been passed are some of the tokens, in order. -/
theorem Cursor.Passes.sublist {tokens passed : List Token} {after : Cursor}
    (passes : (Cursor.ofTokens tokens).Passes passed after) : passed.Sublist tokens := by
  have inside := Cursor.rest_sublist tokens
  rw [passes.rest] at inside
  exact (List.sublist_append_left passed after.rest).trans inside

/-- No token before the end of the input is an end token. -/
theorem Cursor.rest_eq_nil_of_kindAt {tokens read : List Token} {after : Cursor}
    (passes : (Cursor.ofTokens tokens).Passes read after) (ended : after.kindAt 0 = .endOfInput) :
    after.rest = [] := by
  cases left : after.rest with
  | nil => rfl
  | cons token rest =>
    have member : token ∈ (Cursor.ofTokens tokens).rest := by
      rw [passes.rest, left]
      simp
    have notEnd := List.all_eq_true.mp List.all_takeWhile token member
    simp [Cursor.kindAt, left] at ended
    simp [ended] at notEnd

/-- A program that is read takes all of its input. -/
theorem Parse.rest_eq_nil_of_program {tokens : List Token} {levels : Nat}
    {program : List Statement} {after : Cursor}
    (done : (Parse.program (Level.within levels)).run (Cursor.ofTokens tokens) =
      .ok program after) : after.rest = [] := by
  obtain ⟨read, -, passes, ended, -, -⟩ :=
    Parse.program_eq_ok (Level.reads_derivations levels) done
  exact Cursor.rest_eq_nil_of_kindAt passes ended

theorem program_of_parseTokens {tokens : List Token} {program : List Statement}
    (parsed : parseTokens tokens = .ok program) :
    ∃ after, (Parse.program (Level.within nestingLimit)).run (Cursor.ofTokens tokens) =
      .ok program after := by
  rw [parseTokens] at parsed
  split at parsed
  next statements after done =>
    obtain rfl := Except.ok.inj parsed
    exact ⟨after, done⟩
  next => simp at parsed

/-- A program that is read from tokens is derived by them: by those without comments up to the end
of the input, each once and in order. -/
theorem derives_of_parseTokens {tokens : List Token} {program : List Statement}
    (parsed : parseTokens tokens = .ok program) :
    DerivesProgram ((tokens.filter fun token => token.kind ≠ .comment).takeWhile
      fun token => token.kind ≠ .endOfInput) program := by
  obtain ⟨after, done⟩ := program_of_parseTokens parsed
  obtain ⟨read, statements, passes, ended, related, rfl⟩ :=
    Parse.program_eq_ok (Level.reads_derivations nestingLimit) done
  have all : (Cursor.ofTokens tokens).rest = read := by
    rw [passes.rest, Cursor.rest_eq_nil_of_kindAt passes ended, List.append_nil]
  refine ⟨statements, ?_, rfl⟩
  change StatementsRule _ _ (Cursor.ofTokens tokens).rest statements
  rw [all]
  exact related

/-- Tokens with a comment among them and more tokens behind the end of the input. -/
theorem derives_of_parseTokens_comment :
    let token kind lexeme : Token := { kind, lexeme, position := .start }
    let remark := token .comment "# grouped"
    let visible := [token .identifier "x", token .colon ":", token .identifier "a",
      token .hyphen "-", token (.opening .round) "(", token .identifier "b",
      token (.closing .round) ")"]
    let program := [.assignment "x" (.binary (.name "a") "-" (.name "b")), .endOfInput]
    parseTokens (remark :: visible ++ [.endOfInput .start, remark, token .comma ","]) =
        .ok program ∧
      DerivesProgram visible program := by
  intro token remark visible program
  have parsed : parseTokens
      (remark :: visible ++ [.endOfInput .start, remark, token .comma ","]) = .ok program := rfl
  exact ⟨parsed, derives_of_parseTokens parsed⟩

end Kite
