import Kite.Proofs.Grammar.Outcomes
import Kite.Proofs.Grammar.Refusals

/-!
# Every failure is explained

Each rule of the parser explains its failures if the level inside it does, and so, by
induction on the number of levels, reading a program fails in the listed ways only
(`refusal_of_parseTokens`). For input that ends where an item or a statement inside brackets
is due this tells the error (`error_of_ending`): the brackets are reported as unclosed, but
those of a group and of a list of parameters are not.
-/

set_option autoImplicit false

namespace Kite

namespace Parse

variable {behind : List Token} {before : Cursor} {leads : Cursor → List Token → Prop}

/-! ## Parts without brackets inside -/

theorem explains_literalValue {token : Token} (member : token ∈ behind ++ [before.token])
    (kind : token.kind.isLiteral = true) (place : leads before behind) :
    (literalValue token).Explains behind before leads := by
  unfold literalValue
  cases valueless : Literal.ofToken? token with
  | some value => exact explains_pure place
  | none => exact explains_of_error (failWith_run _ _) (.number member kind valueless)

/-- A literal is a whole operand. -/
theorem literal_place {kind : Kind} (literal : kind.isLiteral = true) :
    kind ≠ .endOfInput ∧ kind ≠ .identifier ∧ kind.beginsItem = false := by
  cases kind <;> simp_all [Kind.isLiteral, Kind.beginsItem]

theorem explains_element {opener : Token} {outside : List Token}
    (opens : opener.kind = .opening .square) (stands : opener.StandsOpen outside behind) :
    (element opener).Explains behind before fun _ => Settled := by
  refine .of_run_eq (current_bind _) (.of_run_eq (kindAt_bind 0 _) ?_)
  have readsLiteral {kind : Kind} (seen : before.kindAt 0 = kind) (literal : kind.isLiteral = true) :
      (literalValue before.token >>= fun value => skip >>= fun _ =>
        pure (Element.literal value)).Explains behind before fun _ => Settled := by
    obtain ⟨notEnd, -, inner⟩ := literal_place literal
    have itsKind := (Cursor.exists_of_kindAt seen notEnd).2
    have value : (literalValue before.token).Explains behind before fun _ _ => True :=
      explains_literalValue (by simp) (itsKind ▸ literal) trivial
    refine value.bind fun value after _ done _ _ => ?_
    obtain ⟨-, rfl⟩ := literalValue_eq_ok_iff.mp done
    exact .step seen notEnd (skip_bind _) fun itsKind =>
      explains_pure (settled_of_lastKind? (lastKind?_concat itsKind) inner)
  generalize seen : before.kindAt 0 = kind at readsLiteral
  cases kind with
  | identifier =>
    exact .step seen (by simp) (skip_bind _) fun kind =>
      explains_pure (settled_of_lastKind? (lastKind?_concat kind) rfl)
  | number => exact readsLiteral rfl rfl
  | quoted style => exact readsLiteral rfl rfl
  | endOfInput =>
    exact explains_of_error (failSince_run _ _) (.unclosed seen opens stands (.inl (by simp)))
  | _ => exact explains_of_error (fail_run _) (.element (by simp [seen]))

/-- An element is a single token, which is no bracket. -/
theorem balances_element (opener : Token) : (element opener).Balances := by
  intro before value after seen _ done passes
  obtain ⟨tokens, through, rule⟩ := reads_element opener value after done
  obtain rfl := passes.tokens_unique through
  cases rule with
  | literal spelled =>
    rcases Literal.kind_of_ofToken? spelled with kind | ⟨style, kind⟩ <;>
      simp [openBrackets?, Token.follow?, kind]
  | name kind => simp [openBrackets?, Token.follow?, kind]

theorem explains_parameter {opener : Token} {outside : List Token}
    (opens : opener.kind = .opening .round) (uncalled : lastKind? outside ≠ some .identifier)
    (stands : opener.StandsOpen outside behind)
    (due : before.kindAt 0 = .identifier ∨ lastKind? behind = some .comma) :
    parameter.Explains behind before fun _ => Settled := by
  refine .of_run_eq (kindAt_bind 0 _) ?_
  split
  next missing =>
    exact explains_of_error (fail_run _)
      (.parameter opens uncalled stands (due.resolve_left missing))
  next name =>
  refine .step (Decidable.not_not.mp name) (by simp) (take_bind _) fun name => ?_
  refine .of_run_eq (kindAt_bind 0 _) ?_
  split
  next => exact explains_of_error (failSince_run _ _) (.untyped (.inl (lastKind?_concat name)))
  next colon =>
  refine .step (Decidable.not_not.mp colon) (by simp) (skip_bind _) fun colon => ?_
  refine .of_run_eq (kindAt_bind 0 _) ?_
  split
  next => exact explains_of_error (failSince_run _ _) (.untyped (.inr (lastKind?_concat colon)))
  next annotation =>
  exact .step (Decidable.not_not.mp annotation) (by simp) (take_bind _) fun kind =>
    explains_pure (settled_of_lastKind? (lastKind?_concat kind) rfl)

theorem explains_literal {kind : Kind} (seen : before.kindAt 0 = kind)
    (isLiteral : kind.isLiteral = true) :
    literal.Explains behind before Cursor.PastOperand := by
  obtain ⟨notEnd, notName, inner⟩ := literal_place isLiteral
  refine .step seen notEnd (take_bind _) fun itsKind => Explains.map ?_ Expression.literal
  exact explains_literalValue (by simp) (itsKind ▸ isLiteral)
    (Cursor.pastOperand_concat itsKind notName inner)

/-- A name without a bracket behind it is not that of a call. -/
theorem explains_name (seen : before.kindAt 0 = .identifier)
    (noBracket : before.kindAt 1 ≠ .opening .round) :
    name.Explains behind before Cursor.PastOperand :=
  .step seen (by simp) (take_bind _) fun kind =>
    explains_pure ⟨fun bracket => absurd ((Cursor.kindAt_next before 0).symm.trans bracket) noBracket,
      settled_of_lastKind? (lastKind?_concat kind) rfl⟩

/-! ## Expressions -/

end Parse

/-- The primaries and the scopes of a level explain their failures. -/
structure Level.Explains (level : Level) : Prop where
  primary : ∀ behind before, before.AwaitsOperand behind →
    level.primary.Explains behind before Cursor.PastOperand
  scope : ∀ behind before, before.kindAt 0 = .opening .curly →
    level.scope.Explains behind before Cursor.PastOperand

namespace Parse

variable {behind : List Token} {before : Cursor} {level : Level}

section Expressions

variable (explains : level.Explains)

include explains

theorem explains_operation (past : before.PastOperand behind) :
    (operation level).Explains behind before Cursor.PastOperand := by
  refine .of_run_eq (kindAt_bind 0 _) ?_
  have operates {kind : Kind} (seen : before.kindAt 0 = kind) (notEnd : kind ≠ .endOfInput)
      (notName : kind ≠ .identifier) (inner : kind.beginsItem = false) :
      (take >>= fun operator => level.primary >>= fun right =>
        pure (some (operator.lexeme, right))).Explains behind before Cursor.PastOperand :=
    .step seen notEnd (take_bind _) fun itsKind =>
      (explains.primary _ _ (Cursor.pastOperand_concat itsKind notName inner).awaitsOperand).map _
  generalize seen : before.kindAt 0 = kind at operates
  cases kind with
  | operator => exact operates rfl (by simp) (by simp) rfl
  | hyphen => exact operates rfl (by simp) (by simp) rfl
  | _ => exact explains_pure past

theorem explains_expression (due : before.AwaitsOperand behind) :
    (expression level).Explains behind before Cursor.PastOperand :=
  (explains.primary _ _ due).bind fun _ _ _ _ _ past =>
    (explains_many (fun _ _ => explains_operation explains) past).map _

theorem explains_body (due : before.AwaitsOperand behind) :
    (body level).Explains behind before Cursor.PastOperand := by
  refine .of_run_eq (kindAt_bind 0 _) ?_
  split
  next curly => exact (explains.scope _ _ curly).map _
  next => exact (explains_expression explains due).map _

theorem explains_argument {opener : Token} {outside : List Token}
    (opens : opener.kind = .opening .round) (stands : opener.StandsOpen outside behind)
    (called : lastKind? outside = some .identifier) (uncalled : before.Uncalled behind) :
    (argument level opener).Explains behind before fun _ => Settled := by
  refine .of_run_eq (kindAt_bind 0 _) ?_
  split
  next ended =>
    exact explains_of_error (failSince_run _ _) (.unclosed ended opens stands (.inl fun _ => called))
  next notEnd =>
    exact (explains_body explains (uncalled.awaitsOperand notEnd)).imp
      fun _ _ _ _ _ past => past.settled

omit explains in
theorem balances_argument (keeps : level.KeepsBrackets) (opener : Token) :
    (argument level opener).Balances := by
  intro before value after seen ends done passes
  rw [argument, kindAt_bind] at done
  split at done
  next => simp at done
  next => exact (keeps_body keeps).balances _ _ _ _ ends done passes

theorem explains_call (keeps : level.KeepsBrackets) (seen : before.kindAt 0 = .identifier)
    (bracket : before.kindAt 1 = .opening .round) :
    (call level).Explains behind before Cursor.PastOperand := by
  refine .expect seen (.step seen (by simp) (take_bind _) fun named => ?_)
  have called : lastKind? (behind ++ [before.token]) = some .identifier := lastKind?_concat named
  refine Explains.bind (explains_enclosed ((Cursor.kindAt_next before 0).trans bracket)
    (balances_argument keeps) ?_ ?_) fun arguments _ _ _ _ closed =>
      explains_pure (Cursor.pastOperand_of_lastKind? closed (by simp) rfl)
  · intro opens _
    exact explains_argument explains opens (Token.standsOpen_self _ _) called
      (Cursor.uncalled_of_lastKind? (lastKind?_concat opens) (by simp))
  · intro opener inner before opens stands comma
    exact explains_argument explains opens stands called
      (Cursor.uncalled_of_lastKind? comma (by simp))

theorem explains_function (seen : before.kindAt 0 = .opening .round)
    (uncalled : before.Uncalled behind)
    (begins : beginParameters (before.kindAt 1) (before.kindAt 2) = true) :
    (function level).Explains behind before Cursor.PastOperand := by
  have noCall := uncalled seen
  refine Explains.bind (explains_enclosed seen (fun _ => keeps_parameter.balances) ?_ ?_) ?_
  · intro opens notClosed
    rw [Cursor.kindAt_next] at notClosed
    have named : before.kindAt 1 = .identifier := by
      unfold beginParameters at begins
      split at begins <;> simp_all
    exact explains_parameter opens noCall (Token.standsOpen_self _ _)
      (.inl ((Cursor.kindAt_next before 0).trans named))
  · intro opener inner before opens stands comma
    exact explains_parameter opens noCall stands (.inr comma)
  · intro parameters after read _ _ closed
    refine .of_run_eq (kindAt_bind 0 _) ?_
    split
    next => exact explains_of_error (fail_run _) (.arrow closed)
    next arrow =>
    refine .step (Decidable.not_not.mp arrow) (by simp) (skip_bind _) fun kind => ?_
    refine Explains.map (explains_body explains ?_) _
    exact (Cursor.pastOperand_concat kind (by simp) rfl).awaitsOperand

theorem explains_group (keeps : level.KeepsBrackets) (seen : before.kindAt 0 = .opening .round)
    (uncalled : before.Uncalled behind) :
    (group level).Explains behind before Cursor.PastOperand := by
  refine .step seen (by simp) (take_bind _) fun opens => ?_
  have due : before.next.AwaitsOperand (behind ++ [before.token]) := by
    refine ⟨Cursor.uncalled_of_lastKind? (lastKind?_concat opens) (by simp), ?_⟩
    intro _ outside last same _
    obtain ⟨rfl, rfl⟩ := List.append_singleton_inj.mp same
    exact ⟨opens, uncalled seen⟩
  refine .of_ends fun ends => (explains_expression explains due).bind
    fun inner after read done passes past => ?_
  have balanced := (keeps_expression keeps).balances _ _ _ _ ends done passes
  have stands := (before.token.standsOpen_self behind).append balanced
  refine (explains_close opens stands (.inr past.settled)).bind fun _ after _ _ _ closed => ?_
  refine .of_run_eq (kindAt_bind 0 _) ?_
  split
  next arrow => exact explains_of_error (failSince_run _ _) (.group arrow)
  next => exact explains_pure (Cursor.pastOperand_of_lastKind? closed (by simp) rfl)

theorem explains_primary (keeps : level.KeepsBrackets) (due : before.AwaitsOperand behind) :
    (Parse.primary level).Explains behind before Cursor.PastOperand := by
  refine .of_run_eq (kindAt_bind 0 _) ?_
  generalize seen : before.kindAt 0 = kind
  cases kind with
  | opening shape =>
    cases shape with
    | round =>
      refine .of_run_eq (parametersAhead_bind _) ?_
      split
      next begins => exact explains_function explains seen due.uncalled begins
      next => exact explains_group explains keeps seen due.uncalled
    | square =>
      refine Explains.bind (explains_enclosed seen balances_element ?_ ?_)
        fun elements _ _ _ _ closed =>
          explains_pure (Cursor.pastOperand_of_lastKind? closed (by simp) rfl)
      · exact fun opens _ => explains_element opens (Token.standsOpen_self _ _)
      · exact fun opener inner before opens stands _ => explains_element opens stands
    | curly => exact (explains.scope _ _ seen).map _
  | identifier =>
    refine .of_run_eq (kindAt_bind 1 _) ?_
    split
    next bracket => exact explains_call explains keeps seen bracket
    next noBracket => exact explains_name seen noBracket
  | number => exact explains_literal seen rfl
  | quoted style => exact explains_literal seen rfl
  | _ => exact explains_of_error (fail_run _) (.primary due)

end Expressions

/-! ## Statements -/

section Statements

variable (explains : level.Explains)

include explains

theorem explains_assignment (seen : before.kindAt 0 = .identifier)
    (colon : before.kindAt 1 = .colon) :
    (assignment level).Explains behind before Cursor.PastOperand := by
  refine .expect seen (.step seen (by simp) (take_bind _) fun _ => ?_)
  have next : before.next.kindAt 0 = .colon := (Cursor.kindAt_next before 0).trans colon
  refine .expect next (.step next (by simp) (take_bind _) fun kind => ?_)
  refine Explains.map (explains_expression explains ?_) _
  exact (Cursor.pastOperand_concat kind (by simp) rfl).awaitsOperand

theorem explains_bareStatement (uncalled : before.Uncalled behind)
    (notEnd : before.kindAt 0 ≠ .endOfInput) :
    (bareStatement level).Explains behind before Cursor.PastOperand := by
  refine .of_run_eq (kindAt_bind 0 _) ?_
  have inner : (expression level >>= fun inner =>
      pure (Statement.expression inner)).Explains behind before Cursor.PastOperand :=
    (explains_expression explains (uncalled.awaitsOperand notEnd)).map _
  have refused : (fail .unrecognizedStatement : Parse Statement).Explains behind before
      Cursor.PastOperand :=
    explains_of_error (fail_run _) (.statement notEnd)
  generalize seen : before.kindAt 0 = kind
  cases kind with
  | opening shape =>
    cases shape with
    | round => exact inner
    | square => exact refused
    | curly => exact (explains.scope _ _ seen).map _
  | identifier =>
    refine .of_run_eq (kindAt_bind 1 _) ?_
    split
    next colon => exact explains_assignment explains seen colon
    next => exact inner
  | number => exact inner
  | quoted style => exact inner
  | _ => exact refused

theorem explains_statement (uncalled : before.Uncalled behind)
    (notEnd : before.kindAt 0 ≠ .endOfInput) :
    (statement level).Explains behind before Cursor.PastOperand := by
  have semicolon {rest : List Token} {cursor : Cursor} {α : Type} {next : Parse α} {value : α}
      (seen : cursor.kindAt 0 = .semicolon)
      (same : next.run cursor = (pure value : Parse α).run cursor.next) :
      next.Explains rest cursor Cursor.PastOperand :=
    .step seen (by simp) same fun kind =>
      explains_pure (Cursor.pastOperand_concat kind (by simp) rfl)
  have decides : (statement level).run before = _ := statement_run level
  split at decides
  next seen => exact semicolon seen decides
  next =>
    refine .of_run_eq decides ((explains_bareStatement explains uncalled notEnd).bind ?_)
    intro bare after _ _ _ past
    have decides : (accept .semicolon >>= fun _ => pure (some bare)).run after = _ :=
      accept_bind .semicolon _
    split at decides
    next seen => exact semicolon seen decides
    next => exact .of_run_eq decides (explains_pure past)

/-- What an action that tells whether statements have ended may answer at a place: that they have,
that they have not and neither has the input, or a failure. -/
inductive Decides (ended : Parse Bool) (behind : List Token) (before : Cursor) : Prop where
  | holds (done : ended.run before = .ok true before)
  | goesOn (done : ended.run before = .ok false before) (notEnd : before.kindAt 0 ≠ .endOfInput)
  | fails {error : GrammarError} (failed : ended.run before = .error error before)
      (refusal : Refusal behind before error)

theorem explains_statementsUntil {ended : Parse Bool} {within : List Token → Prop}
    (keeps : level.KeepsBrackets)
    (decides : ∀ behind before, within behind → Decides ended behind before)
    (stays : ∀ behind seen, within behind → openBrackets? seen = some [] →
      within (behind ++ seen))
    (start : within behind) (uncalled : before.Uncalled behind) :
    (statementsUntil level ended).Explains behind before
      fun after passed => after.Uncalled passed ∧ within passed := by
  rw [statementsUntil_eq_many]
  refine Explains.map (explains_many ?_ ⟨uncalled, start⟩) _
  rintro behind before ⟨uncalled, start⟩
  cases decides behind before start with
  | holds done => exact .of_run_eq (bind_of_ok done) (explains_pure ⟨uncalled, start⟩)
  | goesOn done notEnd =>
    refine .of_ends fun ends => .of_run_eq (bind_of_ok done) (Explains.map ?_ some)
    refine (explains_statement explains uncalled notEnd).imp fun _ _ _ done passes past => ?_
    exact ⟨past.uncalled, stays _ _ start ((keeps_statement keeps).balances _ _ _ _ ends done passes)⟩
  | fails failed refusal => exact explains_of_error (bind_of_error failed) refusal

theorem explains_scope (keeps : level.KeepsBrackets) (moves : level.Progresses)
    (seen : before.kindAt 0 = .opening .curly) :
    (Parse.scope level).Explains behind before Cursor.PastOperand := by
  refine .expect seen (.step seen (by simp) (take_bind _) fun opens => ?_)
  have decides : ∀ passed cursor, before.token.StandsOpen behind passed →
      Decides (scopeEnds before.token) passed cursor := by
    intro passed cursor stands
    have answer : (scopeEnds before.token).run cursor = _ := scopeEnds_run before.token
    split at answer
    next => exact .holds answer
    next =>
      split at answer
      next ended => exact .fails answer (.unclosed ended opens stands (.inl (by simp)))
      next notEnd => exact .goesOn answer notEnd
  have uncalled : before.next.Uncalled (behind ++ [before.token]) :=
    Cursor.uncalled_of_lastKind? (lastKind?_concat opens) (by simp)
  have statements := explains_statementsUntil explains keeps decides
    (fun _ _ stands => stands.append) (before.token.standsOpen_self behind) uncalled
  refine statements.bind fun statements after _ done _ _ => ?_
  -- the statements have not ended with the input, which fails, so the closing bracket is next
  obtain ⟨-, -, -, held⟩ := statementsUntil_eq_ok moves (peeks_scopeEnds before.token) done
  exact .step (kindAt_of_scopeEnds held) (by simp) (skip_bind _) fun kind =>
    explains_pure (Cursor.pastOperand_concat kind (by simp) rfl)

theorem explains_program (keeps : level.KeepsBrackets) :
    (program level).Explains [] before fun _ _ => True := by
  have decides : ∀ passed cursor, True → Decides inputEnds passed cursor := by
    intro passed cursor _
    by_cases ended : cursor.kindAt 0 = .endOfInput
    · exact .holds (by simp [inputEnds_run, ended])
    · exact .goesOn (by simp [inputEnds_run, ended]) ended
  have uncalled : before.Uncalled [] := by simp [Cursor.Uncalled, lastKind?]
  exact .map (.imp (explains_statementsUntil explains keeps decides (fun _ _ _ _ => trivial) trivial
    uncalled) fun _ _ _ _ _ _ => trivial) _

end Statements

end Parse

theorem Level.explains_within (levels : Nat) : (Level.within levels).Explains := by
  induction levels with
  | zero =>
    exact ⟨fun _ _ _ => Parse.explains_of_error (Parse.fail_run _) .tooDeep,
      fun _ _ _ => Parse.explains_of_error (Parse.fail_run _) .tooDeep⟩
  | succ levels ih =>
    have keeps := Level.keepsBrackets_within levels
    exact ⟨fun _ _ => Parse.explains_primary ih keeps,
      fun _ _ => Parse.explains_scope ih keeps (Level.progresses_within levels)⟩

/-- Tokens that are refused are refused in one of the listed ways, behind those that have been
passed. -/
theorem refusal_of_parseTokens {tokens : List Token} {error : GrammarError}
    (refused : parseTokens tokens = .error error) :
    ∃ passed after, (Cursor.ofTokens tokens).Passes passed after ∧ Refusal passed after error := by
  have ends := (Cursor.standsAt_ofTokens tokens).ends
  have explained : (Parse.program (Level.within nestingLimit)).Explains [] (.ofTokens tokens)
      fun _ _ => True :=
    Parse.explains_program (Level.explains_within _) (Level.keepsBrackets_within _)
  obtain ⟨passed, passes, outcome⟩ := explained ends
  rw [parseTokens] at refused
  split at refused
  next => simp at refused
  next found after failed =>
    obtain rfl := Except.error.inj refused
    have failed : (Parse.program (Level.within nestingLimit)).run (.ofTokens tokens) =
        .error found after := failed
    rw [failed] at passes outcome
    exact ⟨passed, after, passes, outcome⟩

/-! ## Input that ends inside brackets -/

/-- The error where the input ends and an item or a statement is due in brackets that stand behind
the tokens `outside`. -/
def GrammarError.ofEnding (opener : Token) (shape : Bracket) (outside passed : List Token)
    (stop : Token) : GrammarError :=
  if shape = .round ∧ lastKind? outside ≠ some .identifier then
    -- these are the brackets of a group or, behind a comma, those of a list of parameters
    { cause := if lastKind? passed = some .comma then .malformedParameter else .unrecognizedPrimary
      tokens := [stop] }
  else { cause := .unclosed shape, tokens := [stop, opener] }

/-- A failure at an end token is one at the end of the input. -/
theorem Refusal.at_end {passed : List Token} {cursor : Cursor} {error : GrammarError} {stop : Token}
    (refusal : Refusal passed cursor error) (offends : error.tokens.head? = some stop)
    (ends : stop.kind = .endOfInput) :
    cursor.kindAt 0 = .endOfInput ∧ cursor.token = stop ∧ error.cause ≠ .invalidNumber := by
  have seen : cursor.token = stop → cursor.kindAt 0 = .endOfInput := by
    rintro rfl
    obtain ⟨rest, last⟩ := cursor
    cases rest with
    | nil => rfl
    | cons token rest => exact ends
  cases refusal with
  | number _ literal _ =>
    obtain rfl := Option.some.inj offends
    simp [ends, Kind.isLiteral] at literal
  | _ => exact ⟨seen (Option.some.inj offends), Option.some.inj offends, nofun⟩

/-- At the end of the input, a failure where an item or a statement is due in brackets. -/
theorem Refusal.ofEnding {passed : List Token} {cursor : Cursor} {error : GrammarError}
    (refusal : Refusal passed cursor error) (ended : cursor.kindAt 0 = .endOfInput)
    (shallow : error.cause ≠ .nestingTooDeep) (notNumber : error.cause ≠ .invalidNumber)
    (due : ∃ kind ∈ lastKind? passed, kind.beginsItem = true) :
    ∃ shape outside opener, opener.kind = .opening shape ∧ opener.StandsOpen outside passed ∧
      error = .ofEnding opener shape outside passed cursor.token := by
  obtain ⟨kind, last, begins⟩ := due
  have notSettled {other : Kind} (inner : other.beginsItem = false) :
      lastKind? passed ≠ some other := by
    intro same
    obtain rfl : kind = other := Option.some.inj (Eq.trans last.symm same)
    simp [inner] at begins
  cases refusal with
  | statement notEnd | mismatched notEnd | element notEnd => exact absurd ended notEnd
  | tooDeep => exact absurd rfl shallow
  | number _ _ _ => exact absurd rfl notNumber
  | group arrow => simp [ended] at arrow
  | untyped begun =>
    rcases begun with name | colon
    · exact absurd name (notSettled rfl)
    · exact absurd colon (notSettled rfl)
  | arrow closed => exact absurd closed (notSettled rfl)
  | primary awaits =>
    obtain ⟨outside, opener, rfl, itsKind⟩ := exists_of_lastKind? last
    obtain ⟨round, uncalled⟩ := awaits.ending ended outside opener rfl (itsKind ▸ begins)
    refine ⟨.round, outside, opener, round, opener.standsOpen_self outside, ?_⟩
    simp [GrammarError.ofEnding, uncalled, lastKind?_concat round]
  | @unclosed shape outside opener _ opens stands place =>
    refine ⟨shape, outside, opener, opens, stands, ?_⟩
    have called := place.resolve_right fun settled => by simp [settled kind last] at begins
    rw [GrammarError.ofEnding, if_neg]
    rintro ⟨round, uncalled⟩
    exact uncalled (called round)
  | @parameter outside opener opens uncalled stands later =>
    refine ⟨.round, outside, opener, opens, stands, ?_⟩
    simp [GrammarError.ofEnding, uncalled, later]

/-- Input that ends where an item or a statement is due in brackets. The error is that the brackets
are unclosed, except for those of a group and of a list of parameters. -/
theorem error_of_ending {tokens : List Token} {error : GrammarError} {stop : Token}
    (refused : parseTokens tokens = .error error) (offends : error.tokens.head? = some stop)
    (ends : stop.kind = .endOfInput) (shallow : error.cause ≠ .nestingTooDeep)
    (due : ∃ kind ∈ lastKind? (Cursor.ofTokens tokens).rest, kind.beginsItem = true) :
    ∃ shape outside opener, opener.kind = .opening shape ∧
      opener.StandsOpen outside (Cursor.ofTokens tokens).rest ∧
      error = .ofEnding opener shape outside (Cursor.ofTokens tokens).rest stop := by
  obtain ⟨passed, after, passes, refusal⟩ := refusal_of_parseTokens refused
  obtain ⟨ended, rfl, notNumber⟩ := refusal.at_end offends ends
  have all : (Cursor.ofTokens tokens).rest = passed := by
    rw [passes.rest, Cursor.rest_eq_nil_of_kindAt passes ended, List.append_nil]
  rw [all] at due ⊢
  exact refusal.ofEnding ended shallow notNumber due

/-- Input that ends behind a comma in a call, whose bracket is the only one that is still open. -/
theorem error_of_ending_call :
    let token kind lexeme : Token := { kind, lexeme, position := .start }
    let opener := token (.opening .round) "("
    let passed := [token .identifier "f", opener, token (.opening .square) "[",
      token (.closing .square) "]", token .comma ","]
    let stop := Token.endOfInput .start
    let error : GrammarError := { cause := .unclosed .round, tokens := [stop, opener] }
    parseTokens (passed ++ [stop]) = .error error ∧
      ∃ shape outside opener, opener.kind = .opening shape ∧ opener.StandsOpen outside passed ∧
        error = .ofEnding opener shape outside passed stop := by
  intro token opener passed stop error
  have refused : parseTokens (passed ++ [stop]) = .error error := rfl
  exact ⟨refused, error_of_ending refused rfl rfl (by simp [error]) ⟨.comma, rfl, rfl⟩⟩

/-- Neither a group nor a list of parameters is reported as unclosed if the input ends where its
next part is due. -/
theorem ending_not_reported :
    let token kind lexeme : Token := { kind, lexeme, position := .start }
    let opener := token (.opening .round) "("
    let parameter := [token .identifier "a", token .colon ":", token .identifier "T",
      token .comma ","]
    let stop := Token.endOfInput .start
    opener.StandsOpen [] [opener] ∧
      parseTokens [opener, stop] =
        .error { cause := .unrecognizedPrimary, tokens := [stop] } ∧
      opener.StandsOpen [] (opener :: parameter) ∧
      parseTokens (opener :: parameter ++ [stop]) =
        .error { cause := .malformedParameter, tokens := [stop] } :=
  ⟨⟨[], rfl, rfl⟩, rfl, ⟨_, rfl, rfl⟩, rfl⟩

end Kite
