import Kite.Proofs.Grammar.Sessions

/-!
# The parser makes progress and ends

A statement, an expression and a scope are read from one token at least, and the end token is
none of them: there the cursor stays. So every round that a loop of the parser goes on with
leaves fewer tokens ahead, and each of the six loops (`Loop`) ends by itself after at most as
many rounds as tokens are ahead (`Parse.loopEnds_many`). The rounds that `Parse.many` is given therefore
never run out. `Parse.Evaluates` is evaluation in finitely many steps where nothing bounds the
rounds of a loop, and everything that is put together from the steps of the parser is evaluated
so (`Parse.Composed.evaluates`). `Request.progresses_and_ends` is the statement about requests.
-/

set_option autoImplicit false

namespace Kite

namespace Parse

variable {α : Type}

/-! ## Loops -/

/-- What a loop over `item` results in if it ends by itself: after rounds that answer values, at most
one for each token ahead, comes a round that answers none or fails. -/
inductive LoopEnds (item : Parse (Option α)) (before : Cursor) :
    EStateM.Result GrammarError Cursor (List α) → Prop where
  | done {values : List α} {last after : Cursor} (rounds : Repeats item before values last)
      (fits : values.length ≤ before.rest.length) (ended : item.run last = .ok none after) :
      LoopEnds item before (.ok values after)
  | failed {values : List α} {last after : Cursor} {error : GrammarError}
      (rounds : Repeats item before values last) (fits : values.length ≤ before.rest.length)
      (failure : item.run last = .error error after) : LoopEnds item before (.error error after)

variable {item : Parse (Option α)}

/-- A loop over rounds that read on ends by itself, with what repetition answers. -/
theorem loopEnds_many (progresses : Progresses item) (before : Cursor) :
    LoopEnds item before ((many item).run before) := by
  obtain ⟨values, last, rounds, fits, ended⟩ := exists_repeats progresses before
  rw [rounds.many_run progresses, EStateM.run_bind, many_run progresses, EStateM.run_bind]
  cases answered : item.run last with
  | error error after => exact .failed rounds fits answered
  | ok answer after =>
    cases answer with
    | some value => exact absurd answered (ended value after)
    | none =>
      show LoopEnds item before (.ok (values ++ []) after)
      rw [List.append_nil]
      exact .done rounds fits answered

end Parse

/-- The loops of the parser, each with the action that is repeated. That of an expression reads
operators with the operands behind them, and those of lists read commas with the items behind them
(`Parse.separated_eq_many`). -/
inductive Loop (level : Level) : {α : Type} → Parse (Option α) → Prop where
  | program : Loop level (Parse.statementUnless level Parse.inputEnds)
  | scope (opener : Token) : Loop level (Parse.statementUnless level (Parse.scopeEnds opener))
  | operators : Loop level (Parse.operation level)
  | parameters : Loop level (Parse.afterComma Parse.parameter)
  | arguments (opener : Token) : Loop level (Parse.afterComma (Parse.argument level opener))
  | elements (opener : Token) : Loop level (Parse.afterComma (Parse.element opener))

/-- Every round with which a loop goes on reads a token. -/
theorem Loop.progresses {α : Type} {level : Level} {item : Parse (Option α)}
    (loop : Loop level item) (inner : level.Progresses) : Parse.Progresses item := by
  cases loop with
  | program => exact Parse.progresses_statementUnless inner Parse.peeks_inputEnds
  | scope opener => exact Parse.progresses_statementUnless inner (Parse.peeks_scopeEnds opener)
  | operators => exact Parse.progresses_operation inner
  | parameters => exact Parse.progresses_afterComma fun _ => Parse.reads_parameter
  | arguments opener =>
    exact Parse.progresses_afterComma fun _ => Parse.reads_argument inner opener
  | elements opener => exact Parse.progresses_afterComma fun _ => Parse.reads_element opener

/-! ## Evaluation without a bound -/

namespace Parse

/-- `Evaluates action levels before result` says that an action ends with the result after finitely
many steps where so many levels may be opened. A loop goes on as long as its rounds answer values. -/
inductive Evaluates : {α : Type} → (Level → Parse α) → Nat → Cursor →
    EStateM.Result GrammarError Cursor α → Prop where
  | pure {α : Type} (value : α) (levels : Nat) (before : Cursor) :
      Evaluates (fun _ => pure value) levels before (.ok value before)
  | kindAt (distance levels : Nat) (before : Cursor) :
      Evaluates (fun _ => kindAt distance) levels before (.ok (before.kindAt distance) before)
  | current (levels : Nat) (before : Cursor) :
      Evaluates (fun _ => current) levels before (.ok before.token before)
  | take (levels : Nat) (before : Cursor) :
      Evaluates (fun _ => take) levels before (.ok before.token before.next)
  | failWith {α : Type} (cause : GrammarError.Cause) (tokens : List Token) (levels : Nat)
      (before : Cursor) : Evaluates (fun _ => (failWith cause tokens : Parse α)) levels before
        (.error { cause, tokens } before)
  | bind {α β : Type} {first : Level → Parse α} {next : Level → α → Parse β} {levels : Nat}
      {before cursor : Cursor} {value : α} {result : EStateM.Result GrammarError Cursor β}
      (one : Evaluates first levels before (.ok value cursor))
      (two : Evaluates (fun level => next level value) levels cursor result) :
      Evaluates (fun level => first level >>= next level) levels before result
  | bindError {α β : Type} {first : Level → Parse α} {next : Level → α → Parse β} {levels : Nat}
      {before after : Cursor} {error : GrammarError}
      (one : Evaluates first levels before (.error error after)) :
      Evaluates (fun level => first level >>= next level) levels before (.error error after)
  | loopDone {α : Type} {item : Level → Parse (Option α)} {levels : Nat} {before after : Cursor}
      (last : Evaluates item levels before (.ok none after)) :
      Evaluates (fun level => many (item level)) levels before (.ok [] after)
  | loopFailed {α : Type} {item : Level → Parse (Option α)} {levels : Nat}
      {before after : Cursor} {error : GrammarError}
      (last : Evaluates item levels before (.error error after)) :
      Evaluates (fun level => many (item level)) levels before (.error error after)
  | loopRound {α : Type} {item : Level → Parse (Option α)} {levels : Nat}
      {before cursor after : Cursor} {value : α} {values : List α}
      (round : Evaluates item levels before (.ok (some value) cursor))
      (others : Evaluates (fun level => many (item level)) levels cursor (.ok values after)) :
      Evaluates (fun level => many (item level)) levels before (.ok (value :: values) after)
  | loopRoundFailed {α : Type} {item : Level → Parse (Option α)} {levels : Nat}
      {before cursor after : Cursor} {value : α} {error : GrammarError}
      (round : Evaluates item levels before (.ok (some value) cursor))
      (others : Evaluates (fun level => many (item level)) levels cursor (.error error after)) :
      Evaluates (fun level => many (item level)) levels before (.error error after)
  | primaryRefused (before : Cursor) : Evaluates Level.primary 0 before
      (.error { cause := .nestingTooDeep, tokens := [before.token] } before)
  | scopeRefused (before : Cursor) : Evaluates Level.scope 0 before
      (.error { cause := .nestingTooDeep, tokens := [before.token] } before)
  | primary {levels : Nat} {before : Cursor}
      {result : EStateM.Result GrammarError Cursor Expression}
      (inner : Evaluates Parse.primary levels before result) :
      Evaluates Level.primary (levels + 1) before result
  | scope {levels : Nat} {before : Cursor}
      {result : EStateM.Result GrammarError Cursor (List Statement)}
      (inner : Evaluates Parse.scope levels before result) :
      Evaluates Level.scope (levels + 1) before result

variable {α : Type} {levels : Nat}

/-- A loop over rounds that read on is evaluated if its rounds are. -/
theorem evaluates_many {item : Level → Parse (Option α)}
    (progresses : Progresses (item (Level.within levels)))
    (one : ∀ before, Evaluates item levels before ((item (Level.within levels)).run before))
    (before : Cursor) :
    Evaluates (fun level => many (item level)) levels before
      ((many (item (Level.within levels))).run before) := by
  have ends := loopEnds_many progresses before
  generalize (many (item (Level.within levels))).run before = result at ends
  cases ends with
  | done rounds fits ended =>
    clear fits
    induction rounds with
    | done cursor => exact .loopDone (ended ▸ one cursor)
    | @round before _ _ _ _ answered _ ih => exact .loopRound (answered ▸ one before) (ih ended)
  | failed rounds fits failure =>
    clear fits
    induction rounds with
    | done cursor => exact .loopFailed (failure ▸ one cursor)
    | @round before _ _ _ _ answered _ ih =>
      exact .loopRoundFailed (answered ▸ one before) (ih failure)

/-- What is put together from steps of the parser is evaluated if the primaries and the scopes
inside are. -/
theorem Composed.evaluates {action : Level → Parse α} (composed : Composed action)
    (primary : ∀ before, Evaluates Level.primary levels before
      ((Level.within levels).primary.run before))
    (scope : ∀ before, Evaluates Level.scope levels before
      ((Level.within levels).scope.run before)) (before : Cursor) :
    Evaluates action levels before ((action (Level.within levels)).run before) := by
  induction composed generalizing before with
  | pure value => exact .pure value levels before
  | @kindAt distance _ => exact .kindAt distance levels before
  | current => exact .current levels before
  | take => exact .take levels before
  | failWith cause tokens => exact .failWith cause tokens levels before
  | primary => exact primary before
  | scope => exact scope before
  | @bind _ _ first next _ _ one two =>
    have step := one before
    cases answered : (first (Level.within levels)).run before with
    | error error after =>
      rw [bind_of_error answered]
      exact .bindError (answered ▸ step)
    | ok value cursor =>
      rw [bind_of_ok answered]
      exact .bind (answered ▸ step) (two value cursor)
  | many _ progresses one =>
    exact evaluates_many (progresses (Level.progresses_within levels)) one before

end Parse

/-- The primaries and the scopes of every level are evaluated. -/
theorem Level.evaluates_within (levels : Nat) :
    (∀ before, Parse.Evaluates Level.primary levels before
      ((Level.within levels).primary.run before)) ∧
    ∀ before, Parse.Evaluates Level.scope levels before
      ((Level.within levels).scope.run before) := by
  induction levels with
  | zero => exact ⟨fun before => .primaryRefused before, fun before => .scopeRefused before⟩
  | succ levels ih =>
    obtain ⟨primary, scope⟩ := ih
    constructor
    · intro before
      exact .primary (Parse.composed_primary.evaluates primary scope before)
    · intro before
      exact .scope (Parse.composed_scope.evaluates primary scope before)

/-! ## Requests -/

/-- A statement, an expression or a scope is read from at least one token. -/
theorem Request.passes_of_ok {request : Request} (part : request ≠ .program) {levels : Nat}
    {before after : Cursor} {answer : Answer}
    (done : (request.action (Level.within levels)).run before = .ok answer after) :
    ∃ tokens, before.Passes tokens after ∧ tokens ≠ [] := by
  have reads := Level.progresses_within levels
  cases request with
  | program => exact absurd rfl part
  | statement =>
    obtain ⟨value, answered, -⟩ := Parse.map_eq_ok_iff.mp done
    obtain ⟨tokens, passes, nonempty, -⟩ := Parse.reads_statement reads _ _ answered
    exact ⟨tokens, passes, nonempty⟩
  | expression =>
    obtain ⟨value, answered, -⟩ := Parse.map_eq_ok_iff.mp done
    obtain ⟨tokens, passes, nonempty, -⟩ := Parse.reads_expression reads _ _ answered
    exact ⟨tokens, passes, nonempty⟩
  | scope =>
    obtain ⟨value, answered, -⟩ := Parse.map_eq_ok_iff.mp done
    obtain ⟨tokens, passes, nonempty, -⟩ := reads.scope _ _ _ answered
    exact ⟨tokens, passes, nonempty⟩

/-- Requests leave the cursor in the sequence of the tokens, whatever these are. From any place of it,
and with any number of levels left, a statement, an expression or a scope that is read leads the
cursor strictly on. Each loop ends by itself, wherever it begins, and each request is evaluated in
finitely many steps. -/
theorem Request.progresses_and_ends (tokens : List Token) :
    (∀ earlier, ∃ index,
      (runAll earlier (.ofTokens tokens)).2.StandsAt (Cursor.sequence tokens) index) ∧
    (∀ (cursor : Cursor) index, cursor.StandsAt (Cursor.sequence tokens) index →
      ∀ (request : Request) levels answer after, request ≠ .program →
        (request.action (Level.within levels)).run cursor = .ok answer after →
        ∃ next, index < next ∧ after.StandsAt (Cursor.sequence tokens) next) ∧
    (∀ (levels : Nat) {α : Type} (item : Parse (Option α)), Loop (Level.within levels) item →
      ∀ before, Parse.LoopEnds item before ((Parse.many item).run before)) ∧
    ∀ (request : Request) levels before, Parse.Evaluates (fun level => request.action level) levels
      before ((request.action (Level.within levels)).run before) := by
  refine ⟨?reachable, ?progress, ?loops, ?requests⟩
  case reachable =>
    intro earlier
    obtain ⟨index, -, stands⟩ := exists_standsAt_runAll earlier (Cursor.standsAt_ofTokens tokens)
    exact ⟨index, stands⟩
  case progress =>
    intro cursor index stands request levels answer after part done
    obtain ⟨passed, passes, nonempty⟩ := Request.passes_of_ok part done
    have positive : 0 < passed.length := List.length_pos_iff.mpr nonempty
    exact ⟨index + passed.length, by omega, stands.passes passes⟩
  case loops =>
    intro levels α item loop before
    exact Parse.loopEnds_many (loop.progresses (Level.progresses_within levels)) before
  case requests =>
    intro request levels before
    obtain ⟨primary, scope⟩ := Level.evaluates_within levels
    exact request.composed_action.evaluates primary scope before

/-- A statement before the first of two end tokens: the cursor moves onto that end token, where no
further statement is read. -/
theorem Request.progresses_and_ends_statement :
    let token kind lexeme : Token := { kind, lexeme, position := .start }
    let tokens := [token .identifier "x", token .endOfInput "", token .identifier "y",
      token .endOfInput ""]
    let after : Cursor := { rest := [], stop := token .endOfInput "" }
    (statement.action (Level.within nestingLimit)).run (.ofTokens tokens) =
        .ok (.statement (some (.expression (.name "x")))) after ∧
      (∃ next, 0 < next ∧ after.StandsAt (Cursor.sequence tokens) next) ∧
      statement.run after =
        (.error { cause := .unrecognizedStatement, tokens := [token .endOfInput ""] }, after) := by
  intro token tokens after
  have done : (statement.action (Level.within nestingLimit)).run (.ofTokens tokens) =
      .ok (.statement (some (.expression (.name "x")))) after := rfl
  obtain ⟨-, progress, -, -⟩ := Request.progresses_and_ends tokens
  have onward := progress _ 0 (Cursor.standsAt_ofTokens tokens) .statement nestingLimit _ after
    (by decide) done
  exact ⟨done, onward, rfl⟩

end Kite
