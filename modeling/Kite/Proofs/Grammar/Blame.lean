import Kite.Proofs.Grammar.Brackets

/-!
# Errors point at the right tokens

Every rule of the parser closes the brackets that it opens, and where it fails, it reports
tokens that it has passed or that lie under the cursor. So, by induction on the number of
levels, the innermost open bracket is always the one that the rule in progress has opened
(`Level.keepsBrackets_within`). `Request.error_pointsAt` says for every failed request
which tokens its error carries.
-/

set_option autoImplicit false

namespace Kite

/-- The primaries and the scopes of a level leave all brackets as they are. -/
structure Level.KeepsBrackets (level : Level) : Prop where
  primary : ∀ opened, level.primary.Keeps opened
  scope : ∀ opened, level.scope.Keeps opened

namespace Parse

variable {opened behind : List Token} {before : Cursor} {opener : Token}

/-! ## Parts without brackets inside -/

/-- A literal that has no value is the token under the cursor or the last one that was passed. -/
theorem tracks_literalValue {token : Token} (within : before.Within behind opened)
    (place : token = before.token ∨ behind.getLast? = some token) :
    (literalValue token).Tracks behind before fun _ => opened := by
  unfold literalValue
  cases Literal.ofToken? token with
  | some value => exact tracks_pure within
  | none =>
    refine tracks_of_error (failWith_run _ _) (.of_not_blamesBracket rfl (.inl rfl) ?_ ?_)
    · rcases place with rfl | last
      · simp
      · simp [List.mem_of_getLast? last]
    · rcases place with rfl | last
      · exact .inl rfl
      · exact .inr ⟨rfl, last.symm⟩

theorem keeps_element (opens : opener.kind = .opening .square) :
    (element opener).Keeps (opener :: opened) := by
  intro behind before within
  refine .of_run_eq (current_bind _) (.of_run_eq (kindAt_bind 0 _) ?_)
  have readsLiteral (plain : (before.kindAt 0).isPlain = true) :
      (literalValue before.token >>= fun value => skip >>= fun _ =>
        pure (Element.literal value)).Tracks behind before fun _ => opener :: opened := by
    refine (tracks_literalValue within (.inl rfl)).bind fun value after seen done _ within => ?_
    obtain ⟨-, rfl⟩ := literalValue_eq_ok_iff.mp done
    exact .plain within plain (skip_bind _) fun within => tracks_pure within
  generalize seen : before.kindAt 0 = kind at readsLiteral
  cases kind with
  | identifier => exact .plain within (seen ▸ rfl) (skip_bind _) fun within => tracks_pure within
  | number => exact readsLiteral rfl
  | quoted style => exact readsLiteral rfl
  | endOfInput => exact tracks_unclosed within opens seen
  | _ => exact tracks_fail rfl

theorem keeps_parameter : parameter.Keeps opened := by
  intro behind before within
  refine .of_run_eq (kindAt_bind 0 _) ?_
  split
  next => exact tracks_fail rfl
  next name =>
  refine .plain within (Decidable.not_not.mp name ▸ rfl) (take_bind _) fun within => ?_
  refine .of_run_eq (kindAt_bind 0 _) ?_
  split
  next => exact tracks_failSince rfl (by simp)
  next colon =>
  refine .plain within (Decidable.not_not.mp colon ▸ rfl) (skip_bind _) fun within => ?_
  refine .of_run_eq (kindAt_bind 0 _) ?_
  split
  next => exact tracks_failSince rfl (by simp)
  next annotation =>
  exact .plain within (Decidable.not_not.mp annotation ▸ rfl) (take_bind _)
    fun within => tracks_pure within

theorem tracks_literal (within : before.Within behind opened)
    (plain : (before.kindAt 0).isPlain = true) :
    literal.Tracks behind before fun _ => opened := by
  refine .plain within plain (take_bind _) fun within => ?_
  exact (tracks_literalValue within (.inr List.getLast?_concat)).bind
    fun _ _ _ _ _ within => tracks_pure within

theorem tracks_name (within : before.Within behind opened)
    (seen : before.kindAt 0 = .identifier) : name.Tracks behind before fun _ => opened :=
  .plain within (seen ▸ rfl) (take_bind _) fun within => tracks_pure within

/-! ## Expressions -/

section Expressions

variable {level : Level} (keeps : level.KeepsBrackets)

include keeps

theorem keeps_operation : (operation level).Keeps opened := by
  intro behind before within
  refine .of_run_eq (kindAt_bind 0 _) ?_
  have operates (plain : (before.kindAt 0).isPlain = true) :
      (take >>= fun operator => level.primary >>= fun right =>
        pure (some (operator.lexeme, right))).Tracks behind before fun _ => opened :=
    .plain within plain (take_bind _) fun within => (keeps.primary _).map _ _ _ within
  generalize before.kindAt 0 = kind at operates
  cases kind with
  | operator => exact operates rfl
  | hyphen => exact operates rfl
  | _ => exact tracks_pure within

theorem keeps_expression : (expression level).Keeps opened :=
  (keeps.primary opened).bind fun _ => (keeps_many (keeps_operation keeps)).map _

theorem keeps_body : (body level).Keeps opened := by
  intro behind before within
  refine .of_run_eq (kindAt_bind 0 _) ?_
  split
  · exact (keeps.scope opened).map _ _ _ within
  · exact (keeps_expression keeps).map _ _ _ within

theorem keeps_argument (opens : opener.kind = .opening .round) :
    (argument level opener).Keeps (opener :: opened) := by
  intro behind before within
  refine .of_run_eq (kindAt_bind 0 _) ?_
  split
  next ended => exact tracks_unclosed within opens ended
  next => exact keeps_body keeps _ _ within

theorem keeps_call : (call level).Keeps opened := by
  intro behind before within
  refine .expect rfl fun seen => .plain within (seen ▸ rfl) (take_bind _) fun within => ?_
  exact (keeps_enclosed fun opener opens => keeps_argument keeps opens).map _ _ _ within

theorem keeps_function : (function level).Keeps opened := by
  refine (keeps_enclosed fun _ _ => keeps_parameter).bind fun parameters => ?_
  intro behind before within
  refine .of_run_eq (kindAt_bind 0 _) ?_
  split
  next => exact tracks_fail rfl
  next arrow =>
  exact .plain within (Decidable.not_not.mp arrow ▸ rfl) (skip_bind _)
    fun within => (keeps_body keeps).map _ _ _ within

theorem tracks_group (within : before.Within behind opened)
    (seen : before.kindAt 0 = .opening .round) :
    (group level).Tracks behind before fun _ => opened := by
  refine .opening within seen (take_bind _) fun opens inside => ?_
  refine (keeps_expression keeps _ _ inside).bind fun inner _ _ _ _ inside => ?_
  refine (tracks_close inside opens).bind fun _ after _ _ _ within => ?_
  refine .of_run_eq (kindAt_bind 0 _) ?_
  split
  -- the bracket has been closed by now, but it has been passed
  · exact tracks_failSince rfl (by simp)
  · exact tracks_pure within

theorem keeps_primary : (Parse.primary level).Keeps opened := by
  intro behind before within
  refine .of_run_eq (kindAt_bind 0 _) ?_
  generalize seen : before.kindAt 0 = kind
  cases kind with
  | opening shape =>
    cases shape with
    | round =>
      refine .of_run_eq (parametersAhead_bind _) ?_
      split
      · exact keeps_function keeps _ _ within
      · exact tracks_group keeps within seen
    | square => exact (keeps_enclosed fun _ opens => keeps_element opens).map _ _ _ within
    | curly => exact (keeps.scope opened).map _ _ _ within
  | identifier =>
    refine .of_run_eq (kindAt_bind 1 _) ?_
    split
    · exact keeps_call keeps _ _ within
    · exact tracks_name within seen
  | number => exact tracks_literal within (seen ▸ rfl)
  | quoted style => exact tracks_literal within (seen ▸ rfl)
  | _ => exact tracks_fail rfl

/-! ## Statements -/

theorem keeps_assignment : (assignment level).Keeps opened := by
  intro behind before within
  refine .expect rfl fun target => .plain within (target ▸ rfl) (take_bind _) fun within => ?_
  refine .expect rfl fun colon => .plain within (colon ▸ rfl) (take_bind _) fun within => ?_
  exact (keeps_expression keeps).map _ _ _ within

theorem keeps_bareStatement : (bareStatement level).Keeps opened := by
  intro behind before within
  refine .of_run_eq (kindAt_bind 0 _) ?_
  have inner := (keeps_expression keeps).map Statement.expression behind before within
  generalize before.kindAt 0 = kind
  cases kind with
  | opening shape =>
    cases shape with
    | round => exact inner
    | square => exact tracks_fail rfl
    | curly => exact (keeps.scope opened).map _ _ _ within
  | identifier =>
    refine .of_run_eq (kindAt_bind 1 _) ?_
    split
    · exact keeps_assignment keeps _ _ within
    · exact inner
  | number => exact inner
  | quoted style => exact inner
  | _ => exact tracks_fail rfl

theorem keeps_statement : (statement level).Keeps opened := by
  refine (keeps_accept rfl).bind fun accepted => ?_
  split
  · exact keeps_pure none
  · exact (keeps_bareStatement keeps).bind fun bare => (keeps_accept rfl).map fun _ => some bare

theorem keeps_statementsUntil {ended : Parse Bool} (peeks : ended.Keeps opened) :
    (statementsUntil level ended).Keeps opened := by
  have item : (statementUnless level ended).Keeps opened := by
    refine peeks.bind fun held => ?_
    split
    · exact keeps_pure none
    · exact (keeps_statement keeps).map some
  exact (keeps_many item).map (List.filterMap id)

omit keeps in
theorem keeps_scopeEnds (opens : opener.kind = .opening .curly) :
    (scopeEnds opener).Keeps (opener :: opened) := by
  intro behind before within
  refine .of_run_eq (kindAt_bind 0 _) ?_
  generalize seen : before.kindAt 0 = kind
  split
  · exact tracks_pure within
  · exact tracks_unclosed within opens seen
  · exact tracks_pure within

theorem keeps_scope (moves : level.Progresses) : (Parse.scope level).Keeps opened := by
  intro behind before within
  refine .expect rfl fun seen => .opening within seen (take_bind _) fun opens inside => ?_
  have statements := keeps_statementsUntil keeps (keeps_scopeEnds opens) _ _ inside
  refine statements.bind fun statements after tokens done _ inside => ?_
  -- the statements have not ended with the input, which fails, so the closing bracket is next
  obtain ⟨-, -, -, held⟩ := statementsUntil_eq_ok moves (peeks_scopeEnds before.token) done
  exact .closing inside opens (kindAt_of_scopeEnds held) (skip_bind _)
    fun within => tracks_pure within

theorem keeps_program : (program level).Keeps opened := by
  have ends : inputEnds.Keeps opened := fun _ _ within =>
    .of_run_eq (kindAt_bind 0 _) (tracks_pure within)
  exact (keeps_statementsUntil keeps ends).map _

end Expressions

end Parse

/-! ## Requests -/

theorem Level.keepsBrackets_within (levels : Nat) : (Level.within levels).KeepsBrackets := by
  induction levels with
  | zero => exact ⟨fun _ _ _ _ => Parse.tracks_fail rfl, fun _ _ _ _ => Parse.tracks_fail rfl⟩
  | succ levels ih =>
    exact ⟨fun _ => Parse.keeps_primary ih,
      fun _ => Parse.keeps_scope ih (Level.progresses_within levels)⟩

theorem Request.keeps_action (request : Request) {level : Level} (keeps : level.KeepsBrackets)
    (opened : List Token) : (request.action level).Keeps opened := by
  cases request with
  | program => exact (Parse.keeps_program keeps).map _
  | statement => exact (Parse.keeps_statement keeps).map _
  | expression => exact (Parse.keeps_expression keeps).map _
  | scope => exact (keeps.scope opened).map _

theorem Cursor.exists_eq_token_cons (cursor : Cursor) (behind : List Token) :
    ∃ others, cursor.rest ++ cursor.stop :: behind = cursor.token :: others := by
  obtain ⟨rest, stop⟩ := cursor
  cases rest with
  | nil => exact ⟨behind, rfl⟩
  | cons token rest => exact ⟨rest ++ stop :: behind, rfl⟩

/-- What a request passes leaves no bracket open if it succeeds, and tells which tokens its error
has to carry if it fails. -/
theorem Request.exists_passed (request : Request) (tokens : List Token) :
    ∃ passed, (Cursor.ofTokens tokens).Passes passed (request.run (.ofTokens tokens)).2 ∧
      match request.run (.ofTokens tokens) with
      | (.ok _, _) => openBrackets? passed = some []
      | (.error error, after) => error.PointsAt passed after.token := by
  have ends := (Cursor.standsAt_ofTokens tokens).ends
  obtain ⟨passed, passes, outcome⟩ :=
    request.keeps_action (Level.keepsBrackets_within nestingLimit) [] [] _ ⟨rfl, ends⟩
  rw [run_eq]
  refine ⟨passed, passes, ?_⟩
  cases result : (request.action (Level.within nestingLimit)).run (.ofTokens tokens) with
  | ok answer after =>
    rw [result] at outcome
    exact outcome.leave
  | error error after =>
    rw [result] at outcome
    exact outcome

/-- A failed request has passed tokens of its sequence up to the token under the cursor, and its
error points at the right ones among these. -/
theorem Request.error_pointsAt (request : Request) (tokens : List Token) {error : GrammarError}
    {after : Cursor} (failed : request.run (.ofTokens tokens) = (.error error, after)) :
    ∃ passed ahead,
      Cursor.sequence tokens = passed ++ after.token :: ahead ∧
      (∀ place, after.StandsAt (Cursor.sequence tokens) place ↔ place = passed.length) ∧
      error.PointsAt passed after.token := by
  have stands := Cursor.standsAt_ofTokens tokens
  obtain ⟨passed, passes, points⟩ := request.exists_passed tokens
  rw [failed] at passes points
  obtain ⟨behind, ahead⟩ := stands.ahead
  obtain ⟨others, shown⟩ := Cursor.exists_eq_token_cons after behind
  rw [List.drop_zero, passes.rest, passes.stop, List.append_assoc] at ahead
  refine ⟨passed, others, ahead.trans (congrArg (passed ++ ·) shown), fun place => ?_, points⟩
  simpa using (stands.passes passes).iff_eq

/-- Brackets of two other shapes have been closed when the one that is still open is missed. -/
theorem Request.error_pointsAt_mismatched :
    let token kind lexeme : Token := { kind, lexeme, position := .start }
    let opener := token (.opening .round) "("
    let number := token .number "1"
    let passed := [token .identifier "x", token .colon ":", token .identifier "f", opener,
      token (.opening .curly) "\x7b", token .identifier "a", token (.closing .curly) "\x7d",
      token .comma ",", token (.opening .square) "[", token (.closing .square) "]"]
    let error : GrammarError :=
      { cause := .expected (.closing .round), tokens := [number, opener] }
    (∃ after, program.run (.ofTokens (passed ++ [number, token (.closing .round) ")"])) =
      (.error error, after)) ∧
      error.PointsAt passed number ∧ opener.IsInnermost .round passed := by
  intro token opener number passed error
  let left := [number, token (.closing .round) ")"]
  have failed : program.run (.ofTokens (passed ++ left)) =
      (.error error, { rest := left, stop := .endOfInput .start }) := rfl
  obtain ⟨seen, ahead, whole, stands, points⟩ := error_pointsAt program _ failed
  have ten : passed.length = seen.length :=
    (stands 10).mp (.of_ahead ⟨[], rfl⟩ (by decide) rfl)
  have split : passed ++ (left ++ [.endOfInput .start]) = seen ++ number :: ahead := whole
  obtain ⟨rfl, -⟩ := List.append_inj split ten
  obtain ⟨-, opener, same, innermost⟩ := points.mismatched .round rfl
  obtain ⟨⟩ := same
  exact ⟨⟨_, failed⟩, points, innermost⟩

/-- What a successful request passes leaves no bracket open. -/
theorem Request.openBrackets?_of_ok (request : Request) (tokens : List Token) {answer : Answer}
    {after : Cursor} (done : request.run (.ofTokens tokens) = (.ok answer, after)) :
    ∃ passed, (Cursor.ofTokens tokens).Passes passed after ∧ openBrackets? passed = some [] := by
  obtain ⟨passed, passes, leave⟩ := request.exists_passed tokens
  rw [done] at passes leave
  exact ⟨passed, passes, leave⟩

end Kite
