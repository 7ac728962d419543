import Kite.Proofs.Grammar.Soundness

/-!
# What the rules are put together from

Every rule of the parser is put together from a few steps: looking at a kind, at most two
tokens ahead, looking at the token under the cursor, reading it, failing, the primaries and
the scopes of the level inside, one action after the other, and repetition of what reads on
in every round (`Parse.Composed`). What all these steps preserve, every rule and every
request preserves, so an invariant of the parser is shown by induction over this list.
`Request.composed_action` says that no request does anything else.
-/

set_option autoImplicit false

namespace Kite

/-- Whenever a primary or a scope of the level is read, at least one token is. -/
def Level.Progresses (level : Level) : Prop :=
  level.Reads (fun _ _ => True) (fun _ _ => True)

theorem Level.progresses_within (levels : Nat) : (Level.within levels).Progresses :=
  Level.reads_within (fun _ _ _ => True) (fun _ _ _ => True) (fun _ _ _ _ => trivial)
    (fun _ _ _ _ => trivial) levels

namespace Parse

/-- Actions, one for each level, that are put together alike from steps on the cursor and from the
primaries and the scopes of the level. -/
inductive Composed : {α : Type} → (Level → Parse α) → Prop where
  | pure {α : Type} (value : α) : Composed fun _ => pure value
  | kindAt {distance : Nat} (near : distance ≤ 2) : Composed fun _ => kindAt distance
  | current : Composed fun _ => current
  | take : Composed fun _ => take
  | failWith {α : Type} (cause : GrammarError.Cause) (tokens : List Token) :
      Composed fun _ => (failWith cause tokens : Parse α)
  | primary : Composed Level.primary
  | scope : Composed Level.scope
  | bind {α β : Type} {first : Level → Parse α} {next : Level → α → Parse β}
      (one : Composed first) (two : ∀ value, Composed fun level => next level value) :
      Composed fun level => first level >>= next level
  | many {α : Type} {item : Level → Parse (Option α)} (one : Composed item)
      (progresses : ∀ {level : Level}, level.Progresses → Progresses (item level)) :
      Composed fun level => many (item level)

variable {α β : Type}

theorem Composed.map {action : Level → Parse α} (composed : Composed action) (result : α → β) :
    Composed fun level => action level >>= fun value => Pure.pure (result value) :=
  .bind composed fun value => .pure (result value)

theorem Composed.ite {action other : Level → Parse α} {condition : Prop} [Decidable condition]
    (yes : Composed action) (no : Composed other) :
    Composed fun level => if condition then action level else other level := by
  split
  · exact yes
  · exact no

/-! ## Actions -/

theorem composed_skip : Composed fun _ => skip :=
  .map .take fun _ => ()

theorem composed_fail (cause : GrammarError.Cause) : Composed fun _ => (fail cause : Parse α) :=
  .bind .current fun token => .failWith cause [token]

theorem composed_failSince (cause : GrammarError.Cause) (earlier : Token) :
    Composed fun _ => (failSince cause earlier : Parse α) :=
  .bind .current fun token => .failWith cause [token, earlier]

theorem composed_seen : Composed fun _ => kindAt 0 :=
  .kindAt (Nat.zero_le 2)

theorem composed_accept (kind : Kind) : Composed fun _ => accept kind :=
  .bind composed_seen fun _ => .ite (.map composed_skip fun _ => true) (.pure false)

theorem composed_expect (kind : Kind) : Composed fun _ => expect kind :=
  .bind composed_seen fun _ => .ite .take (composed_fail _)

theorem composed_close (shape : Bracket) (opener : Token) :
    Composed fun _ => close shape opener :=
  .bind composed_seen fun _ =>
    .ite composed_skip (.ite (composed_failSince _ opener) (composed_failSince _ opener))

theorem composed_separated {item : Level → Parse α} {relation : List Token → α → Prop}
    (composed : Composed item)
    (reads : ∀ {level : Level}, level.Progresses → ∀ before, (item level).Reads relation before) :
    Composed fun level => separated (item level) := by
  have others : Composed fun level => many (afterComma (item level)) :=
    .many (.bind (composed_accept .comma) fun _ => .ite (.map composed some) (.pure none))
      fun inner => progresses_afterComma (reads inner)
  exact .bind composed fun first => .map others (first :: ·)

theorem composed_enclosed (shape : Bracket) {item : Level → Token → Parse α}
    {relation : List Token → α → Prop}
    (composed : ∀ opener, Composed fun level => item level opener)
    (reads : ∀ opener {level : Level}, level.Progresses →
      ∀ before, (item level opener).Reads relation before) :
    Composed fun level => enclosed shape (item level) := by
  simp only [enclosed_eq_listed]
  refine .bind (composed_expect _) fun opener => ?_
  have items : Composed fun level => listed shape (item level opener) :=
    .bind composed_seen fun _ =>
      .ite (.pure []) (composed_separated (composed opener) (reads opener))
  exact .bind items fun values => .map (composed_close shape opener) fun _ => values

/-! ## Parts without brackets inside -/

theorem composed_literalValue (token : Token) : Composed fun _ => literalValue token := by
  unfold literalValue
  cases Literal.ofToken? token with
  | none => exact .failWith _ _
  | some value => exact .pure value

theorem composed_literal : Composed fun _ => literal :=
  .bind .take fun token => .map (composed_literalValue token) Expression.literal

theorem composed_name : Composed fun _ => name :=
  .map .take fun token => Expression.name token.lexeme

theorem composed_element (opener : Token) : Composed fun _ => element opener := by
  refine .bind .current fun token => .bind composed_seen fun kind => ?_
  have readsLiteral : Composed fun _ =>
      literalValue token >>= fun value => skip >>= fun _ => pure (Element.literal value) :=
    .bind (composed_literalValue token) fun value =>
      .map composed_skip fun _ => Element.literal value
  cases kind with
  | identifier => exact .map composed_skip fun _ => Element.name token.lexeme
  | number => exact readsLiteral
  | quoted style => exact readsLiteral
  | endOfInput => exact composed_failSince _ opener
  | _ => exact composed_fail _

theorem composed_parameter : Composed fun _ => parameter := by
  refine .bind composed_seen fun _ => .ite (composed_fail _) (.bind .take fun name => ?_)
  refine .bind composed_seen fun _ => .ite (composed_failSince _ name)
    (.bind composed_skip fun _ => ?_)
  refine .bind composed_seen fun _ => .ite (composed_failSince _ name) ?_
  exact .map .take fun annotation =>
    ({ name := name.lexeme, annotation := some annotation.lexeme } : Parameter)

theorem composed_parametersAhead : Composed fun _ => parametersAhead := by
  refine .bind (.kindAt (by decide)) fun second => .bind (.kindAt (by decide)) fun third => ?_
  split <;> exact .pure _

/-! ## Rules of a level -/

theorem composed_operation : Composed operation := by
  have operates : Composed fun level => take >>= fun operator =>
      level.primary >>= fun right => pure (some (operator.lexeme, right)) :=
    .bind .take fun operator => .map .primary fun right => some (operator.lexeme, right)
  refine .bind composed_seen fun kind => ?_
  cases kind with
  | operator => exact operates
  | hyphen => exact operates
  | _ => exact .pure none

theorem composed_expression : Composed expression :=
  .bind .primary fun _ => .map (.many composed_operation progresses_operation) _

theorem composed_body : Composed body :=
  .bind composed_seen fun _ =>
    .ite (.map .scope Body.scope) (.map composed_expression Body.expression)

theorem composed_argument (opener : Token) : Composed fun level => argument level opener :=
  .bind composed_seen fun _ => .ite (composed_failSince _ opener) composed_body

theorem composed_call : Composed call :=
  .bind (composed_expect _) fun callee =>
    .map (composed_enclosed .round composed_argument fun opener _ inner _ =>
      reads_argument inner opener) (Expression.call callee.lexeme)

theorem composed_function : Composed function := by
  refine .bind (composed_enclosed .round (fun _ => composed_parameter) fun _ _ _ _ =>
    reads_parameter) fun parameters => ?_
  refine .bind composed_seen fun _ => .ite (composed_fail _) ?_
  exact .bind composed_skip fun _ => .map composed_body (Expression.function parameters)

theorem composed_group : Composed group := by
  refine .bind .take fun opener => .bind composed_expression fun inner => ?_
  refine .bind (composed_close .round opener) fun _ => ?_
  exact .bind composed_seen fun _ => .ite (composed_failSince _ opener) (.pure inner)

theorem composed_primary : Composed Parse.primary := by
  refine .bind composed_seen fun kind => ?_
  cases kind with
  | opening shape =>
    cases shape with
    | round =>
      exact .bind composed_parametersAhead fun _ => .ite composed_function composed_group
    | square =>
      exact .map (composed_enclosed .square composed_element fun opener _ _ _ =>
        reads_element opener) Expression.array
    | curly => exact .map .scope Expression.scope
  | identifier => exact .bind (.kindAt (by decide)) fun _ => .ite composed_call composed_name
  | number => exact composed_literal
  | quoted style => exact composed_literal
  | _ => exact composed_fail _

/-! ## Statements -/

theorem composed_assignment : Composed assignment :=
  .bind (composed_expect _) fun target => .bind (composed_expect _) fun _ =>
    .map composed_expression (Statement.assignment target.lexeme)

theorem composed_bareStatement : Composed bareStatement := by
  have inner : Composed fun level =>
      expression level >>= fun inner => pure (Statement.expression inner) :=
    .map composed_expression Statement.expression
  refine .bind composed_seen fun kind => ?_
  cases kind with
  | opening shape =>
    cases shape with
    | round => exact inner
    | square => exact composed_fail _
    | curly => exact .map .scope Statement.scope
  | identifier => exact .bind (.kindAt (by decide)) fun _ => .ite composed_assignment inner
  | number => exact inner
  | quoted style => exact inner
  | _ => exact composed_fail _

theorem composed_statement : Composed statement := by
  refine .bind (composed_accept _) fun _ => .ite (.pure none) ?_
  exact .bind composed_bareStatement fun bare => .map (composed_accept _) fun _ => some bare

theorem composed_statementsUntil {ended : Parse Bool} (composed : Composed fun _ => ended)
    (peeks : Peeks ended) :
    Composed fun level => statementsUntil level ended := by
  have item : Composed fun level => statementUnless level ended :=
    .bind composed fun _ => .ite (.pure none) (.map composed_statement some)
  exact .map (.many item fun inner => progresses_statementUnless inner peeks) (List.filterMap id)

theorem composed_scopeEnds (opener : Token) : Composed fun _ => scopeEnds opener := by
  refine .bind composed_seen fun kind => ?_
  split
  · exact .pure true
  · exact composed_failSince _ opener
  · exact .pure false

theorem composed_scope : Composed Parse.scope := by
  refine .bind (composed_expect _) fun opener => ?_
  refine .bind (composed_statementsUntil (composed_scopeEnds opener) (peeks_scopeEnds opener))
    fun statements => ?_
  exact .map composed_skip fun _ => statements

theorem composed_inputEnds : Composed fun _ => inputEnds :=
  .map composed_seen fun kind => decide (kind = .endOfInput)

theorem composed_program : Composed program :=
  .map (composed_statementsUntil composed_inputEnds peeks_inputEnds) fun statements =>
    statements ++ [Statement.endOfInput]

end Parse

/-- Every request is put together from steps on the cursor and from the primaries and the scopes of
the level. -/
theorem Request.composed_action (request : Request) :
    Parse.Composed fun level => request.action level := by
  cases request with
  | program => exact .map Parse.composed_program Answer.program
  | statement => exact .map Parse.composed_statement Answer.statement
  | expression => exact .map Parse.composed_expression Answer.expression
  | scope => exact .map .scope Answer.scope

end Kite
