import Kite.Proofs.Grammar.Continuation
import Kite.Proofs.Grammar.NestingLimit
import Kite.Proofs.Grammar.Outcomes

/-!
# Tokens wrapped in brackets

A closing bracket ends what stands before it in the same way as the end of the input does. So
an expression that takes all of its input is read in parentheses as it is read alone
(`Parse.expression_wrapped`), and a program in curly brackets is one scope with the same
statements (`Parse.program_wrapped`): in both cases with one nesting level more. Nothing is
taken for a list of parameters, since an expression that begins with a name goes on with an
operator or a call, if it goes on at all (`Grammar.BeginsPlainly`). `parse_wrapped` is the
statement about whole token sequences.
-/

set_option autoImplicit false

namespace Kite

/-! ## How expressions begin -/

namespace Grammar

/-- The tokens begin in a way in which no list of parameters does behind its bracket. -/
def BeginsPlainly : List Token → Prop
  | [] => False
  | [first] => first.kind ≠ .closing .round
  | first :: second :: _ => Parse.beginParameters first.kind second.kind = false

theorem BeginsPlainly.of_first {first : Token} {rest : List Token}
    (named : first.kind ≠ .identifier) (closed : first.kind ≠ .closing .round) :
    BeginsPlainly (first :: rest) := by
  cases rest with
  | nil => exact closed
  | cons second rest =>
    show Parse.beginParameters first.kind second.kind = false
    unfold Parse.beginParameters
    split <;> simp_all

theorem BeginsPlainly.of_second {first second : Token} {rest : List Token}
    (closed : first.kind ≠ .closing .round)
    (follows : second.kind ≠ .colon ∧ second.kind ≠ .comma) :
    BeginsPlainly (first :: second :: rest) := by
  show Parse.beginParameters first.kind second.kind = false
  unfold Parse.beginParameters
  split <;> simp_all

/-- What goes on behind the tokens matters only if there is a single one of them. -/
theorem BeginsPlainly.append {tokens others : List Token} (begins : BeginsPlainly tokens)
    (follows : ∀ next ∈ others.head?, next.kind ≠ .colon ∧ next.kind ≠ .comma) :
    BeginsPlainly (tokens ++ others) := by
  match tokens, others with
  | [first], [] => exact begins
  | [first], next :: others => exact .of_second begins (follows next rfl)
  | first :: second :: rest, others => exact begins

theorem Enclosed.beginsPlainly {α : Type} {shape : Bracket} {item : List Token → α → Prop}
    {tokens : List Token} {values : List α} (enclosed : Enclosed shape item tokens values)
    (others : List Token) : BeginsPlainly (tokens ++ others) := by
  cases enclosed with
  | empty opens | items opens => exact .of_first (by simp [opens]) (by simp [opens])

theorem beginsPlainly_of_primaryRule {tokens : List Token} {expression : Expression}
    (rule : PrimaryRule DerivesPrimary DerivesScope tokens expression) :
    BeginsPlainly tokens := by
  cases rule with
  | name kind => simp [BeginsPlainly, kind]
  | literal spelled =>
    rcases Literal.kind_of_ofToken? spelled with kind | ⟨style, kind⟩
    · exact .of_first (by simp [kind]) (by simp [kind])
    · exact .of_first (by simp [kind]) (by simp [kind])
  | call kind inner =>
    cases inner with
    | empty opens | items opens => exact .of_second (by simp [kind]) (by simp [opens])
  | group opens => exact .of_first (by simp [opens]) (by simp [opens])
  | function list => exact list.beginsPlainly _
  | array list => simpa using list.beginsPlainly []
  | scope inner =>
    cases derivesScope_iff.mp inner with
    | braces opens => exact .of_first (by simp [opens]) (by simp [opens])

theorem beginsPlainly_of_expressionRule {tokens : List Token} {expression : Expression}
    (rule : ExpressionRule DerivesPrimary tokens expression) : BeginsPlainly tokens := by
  induction rule with
  | primary first => exact beginsPlainly_of_primaryRule (derivesPrimary_iff.mp first)
  | binary _ kind _ ih =>
    apply ih.append
    rintro next ⟨⟩
    rcases kind with kind | kind <;> simp [kind]

end Grammar

/-! ## What the parser reads in brackets -/

namespace Parse

open Grammar

variable {levels : Nat} {opener closer : Token} {before after other behind : Cursor}

/-- Behind a bracket such tokens are not taken for parameters. -/
theorem beginParameters_of_beginsPlainly {tokens : List Token} (begins : BeginsPlainly tokens)
    (closes : closer.kind = .closing .round)
    (passes : other.Passes (opener :: tokens ++ [closer]) behind) :
    beginParameters (other.kindAt 1) (other.kindAt 2) = false := by
  have follows : BeginsPlainly (tokens ++ [closer]) :=
    begins.append (by simp [closes])
  match tokens with
  | [first] =>
    rw [passes.kindAt_of_lt (by simp), passes.kindAt_of_lt (by simp)]
    exact follows
  | first :: second :: rest =>
    rw [passes.kindAt_of_lt (by simp), passes.kindAt_of_lt (by simp)]
    exact follows

/-- An expression that takes all of its input is read as a primary in parentheses, at one level
more. -/
theorem primary_wrapped (opens : opener.kind = .opening .round)
    (closes : closer.kind = .closing .round) {value : Expression}
    (done : (expression (Level.within levels)).run before = .ok value after)
    (whole : after.rest = [])
    (passes : other.Passes (opener :: before.rest ++ [closer]) behind)
    (noArrow : behind.kindAt 0 ≠ .arrow) :
    (Level.within (levels + 1)).primary.run other = .ok value behind := by
  have reads := Level.reads_derivations levels
  have settles := Level.settles_within levels
  obtain ⟨tokens, read, -, rule⟩ := reads_expression reads value after done
  have all : before.rest = tokens := by rw [read.rest, whole, List.append_nil]
  have plain := beginParameters_of_beginsPlainly
    (all ▸ beginsPlainly_of_expressionRule rule) closes passes
  -- the closing bracket stands where the input ended
  obtain ⟨closing, left, right⟩ := passes.split
  have ends : (after.kindAt 0).EndsAlike (closing.kindAt 0) := by
    refine .inr ⟨?_, ?_⟩
    · simp [Cursor.kindAt, whole, Kind.continues]
    · simp [right.kindAt_zero, closes, Kind.continues]
  have inner : (expression (Level.within levels)).run other.next = .ok value closing := by
    obtain ⟨again, -, passesAgain, repeated⟩ :=
      settles_expression reads settles value after done
    rw [passesAgain.tokens_unique read] at repeated
    exact repeated other.next closing (all ▸ left.next) ends
  have closed : (close .round other.token).run closing = .ok () behind :=
    close_eq_ok_iff.mpr ⟨right.kindAt_zero.trans closes, right.next.eq_of_nil⟩
  show (Parse.primary (Level.within levels)).run other = .ok value behind
  rw [primary_run_of_opening (passes.kindAt_zero.trans opens), plain, if_neg (by simp), group,
    take_bind, bind_of_ok inner, bind_of_ok closed, kindAt_bind, if_neg noArrow]
  rfl

/-- If the parentheses are all of the input, the primary is the whole expression. -/
theorem expression_wrapped (opens : opener.kind = .opening .round)
    (closes : closer.kind = .closing .round) {value : Expression}
    (done : (expression (Level.within levels)).run before = .ok value after)
    (whole : after.rest = [])
    (passes : other.Passes (opener :: before.rest ++ [closer]) behind)
    (ended : behind.rest = []) :
    (expression (Level.within (levels + 1))).run other = .ok value behind := by
  have atEnd : behind.kindAt 0 = .endOfInput := by simp [Cursor.kindAt, ended]
  have grouped := primary_wrapped opens closes done whole passes (by simp [atEnd])
  have progresses := progresses_operation (Level.reads_derivations (levels + 1))
  have unextended : (operation (Level.within (levels + 1))).run behind = .ok none behind := by
    rw [operation_run, atEnd]
    simp
  rw [expression_eq_bind, bind_of_ok grouped, expressionAfter_run progresses,
    bind_of_ok unextended]
  rfl

/-- No statement begins with a closing bracket. -/
theorem kindAt_ne_of_statement_eq_ok {level : Level} {value : Option Statement}
    (done : (statement level).run before = .ok value after) (shape : Bracket) :
    before.kindAt 0 ≠ .closing shape := by
  intro seen
  have failed : (bareStatement level).run before =
      .error { cause := .unrecognizedStatement, tokens := [before.token] } before := by
    rw [bareStatement, kindAt_bind, seen]
    rfl
  rw [statement_run, seen, if_neg (by simp), bind_of_error failed] at done
  simp at done

/-- Before the closing bracket of a scope and before the end of the input, a statement is read. -/
theorem statementUnless_scopeEnds_eq_some {level : Level} {value : Option Statement}
    (unended : before.kindAt 0 ≠ .endOfInput)
    (done : (statement level).run before = .ok value after) (opener : Token) :
    (statementUnless level (scopeEnds opener)).run before = .ok (some value) after := by
  have goesOn : (scopeEnds opener).run before = .ok false before := by
    rw [scopeEnds_run, if_neg (kindAt_ne_of_statement_eq_ok done .curly), if_neg unended]
  rw [statementUnless, bind_of_ok goesOn, if_neg (by simp), bind_of_ok done]
  rfl

/-- The statements of an input are those of a scope if a closing bracket follows them. -/
theorem Repeats.wrapped {level : Level} {primary : List Token → Expression → Prop}
    {scope : List Token → List Statement → Prop} (reads : level.Reads primary scope)
    (settles : level.Settles) {values : List (Option Statement)}
    (rounds : Repeats (statementUnless level inputEnds) before values after)
    (whole : after.rest = []) (closes : behind.kindAt 0 = .closing .curly)
    (passes : other.Passes before.rest behind) (opener : Token) :
    Repeats (statementUnless level (scopeEnds opener)) other values behind := by
  induction rounds generalizing other with
  | done cursor =>
    rw [whole] at passes
    rw [passes.eq_of_nil]
    exact .done behind
  | @round before cursor after value values answered _ ih =>
    obtain ⟨unended, done⟩ := statementUnless_inputEnds_eq_some_iff.mp answered
    obtain ⟨tokens, length, read, again⟩ := settles_statement reads settles value cursor done
    rw [read.rest] at passes
    obtain ⟨middle, left, right⟩ := passes.split
    have ends : (cursor.kindAt 0).EndsStatementAlike (middle.kindAt 0) := by
      cases left : cursor.rest with
      | nil =>
        rw [left] at right
        rw [right.eq_of_nil, closes]
        simp [Cursor.kindAt, left, Kind.EndsStatementAlike, Kind.EndsAlike, Kind.continues]
      | cons first rest =>
        have same : cursor.kindAt 0 = middle.kindAt 0 := by
          rw [left] at right
          rw [right.kindAt_zero]
          simp [Cursor.kindAt, left]
        exact same ▸ .refl _
    have repeated := again other middle left ends
    have same : other.kindAt 0 = before.kindAt 0 := by
      rw [left.kindAt_of_lt length, read.kindAt_of_lt length]
    exact .round (statementUnless_scopeEnds_eq_some (same ▸ unended) repeated opener)
      (ih whole right)

/-- A program that takes all of its input is read as a scope in curly brackets, at one level
more. -/
theorem scope_wrapped (opens : opener.kind = .opening .curly)
    (closes : closer.kind = .closing .curly) {statements : List Statement}
    (done : (Parse.program (Level.within levels)).run before =
      .ok (statements ++ [.endOfInput]) after)
    (whole : after.rest = [])
    (passes : other.Passes (opener :: before.rest ++ [closer]) behind) :
    (Level.within (levels + 1)).scope.run other = .ok statements behind := by
  have reads := Level.reads_derivations levels
  obtain ⟨values, rounds, -, rfl⟩ := (program_eq_ok_iff reads).mp done
  obtain ⟨closing, left, right⟩ := passes.split
  have seen : closing.kindAt 0 = .closing .curly := right.kindAt_zero.trans closes
  have opened : (expect (.opening .curly)).run other = .ok opener other.next :=
    expect_eq_ok_iff.mpr ⟨passes.kindAt_zero.trans opens, passes.token_eq, rfl⟩
  have held : (scopeEnds opener).run closing = .ok true closing := by
    rw [scopeEnds_run, if_pos seen]
  have ended : (statementUnless (Level.within levels) (scopeEnds opener)).run closing =
      .ok none closing := by
    rw [statementUnless, bind_of_ok held]
    rfl
  have onward := rounds.wrapped reads (Level.settles_within levels) whole seen left.next opener
  have inner : (many (statementUnless (Level.within levels) (scopeEnds opener))).run other.next =
      .ok values closing :=
    (many_eq_ok_iff (progresses_statementUnless reads (peeks_scopeEnds opener))).mpr
      ⟨closing, onward, ended⟩
  show (Parse.scope (Level.within levels)).run other = _
  rw [Parse.scope, bind_of_ok opened, statementsUntil_eq_many, bind_assoc, bind_of_ok inner]
  show EStateM.Result.ok _ closing.next = _
  rw [right.next.eq_of_nil]

/-- If the brackets are all of the input, the scope is the only statement of a program. -/
theorem program_wrapped (opens : opener.kind = .opening .curly)
    (closes : closer.kind = .closing .curly) {statements : List Statement}
    (done : (Parse.program (Level.within levels)).run before =
      .ok (statements ++ [.endOfInput]) after)
    (whole : after.rest = [])
    (passes : other.Passes (opener :: before.rest ++ [closer]) behind)
    (ended : behind.rest = []) :
    (Parse.program (Level.within (levels + 1))).run other =
      .ok [.scope statements, .endOfInput] behind := by
  have first : other.kindAt 0 = .opening .curly := passes.kindAt_zero.trans opens
  have atEnd : behind.kindAt 0 = .endOfInput := by simp [Cursor.kindAt, ended]
  have bare : (bareStatement (Level.within (levels + 1))).run other =
      .ok (.scope statements) behind := by
    rw [bareStatement, kindAt_bind, first]
    exact bind_of_ok (scope_wrapped opens closes done whole passes)
  have unmarked : (accept .semicolon).run behind = .ok false behind := by
    rw [accept_run, atEnd]
    rfl
  have one : (statement (Level.within (levels + 1))).run other =
      .ok (some (.scope statements)) behind := by
    rw [statement_run, first, if_neg (by simp), bind_of_ok bare, bind_of_ok unmarked]
    rfl
  have round := statementUnless_inputEnds_eq_some_iff.mpr ⟨by simp [first], one⟩
  show _ = EStateM.Result.ok ([Statement.scope statements] ++ [Statement.endOfInput]) behind
  exact (program_eq_ok_iff (Level.reads_derivations (levels + 1))).mpr
    ⟨_, .round round (.done behind), atEnd, rfl⟩

end Parse

/-! ## Whole token sequences -/

section Sequences

variable {tokens ending others : List Token} {opener closer : Token} {shape : Bracket}

/-- Brackets around tokens stand around what a cursor sees of these tokens. -/
theorem Cursor.passes_ofTokens_wrapped (opens : opener.kind = .opening shape)
    (closes : closer.kind = .closing shape) (plain : ∀ token ∈ tokens, token.kind ≠ .endOfInput)
    (ends : ∀ token ∈ ending.head?, token.kind = .endOfInput)
    (endsOthers : ∀ token ∈ others.head?, token.kind = .endOfInput) :
    ∃ behind, (Cursor.ofTokens (opener :: tokens ++ closer :: others)).Passes
      (opener :: (Cursor.ofTokens (tokens ++ ending)).rest ++ [closer]) behind ∧
        behind.rest = [] := by
  have plainWrapped : ∀ token ∈ opener :: tokens ++ [closer], token.kind ≠ .endOfInput := by
    intro token member
    rcases List.mem_append.mp member with inner | last
    · rcases List.mem_cons.mp inner with rfl | inner
      · simp [opens]
      · exact plain token inner
    · obtain rfl := List.mem_singleton.mp last
      simp [closes]
  have whole : opener :: tokens ++ closer :: others = opener :: tokens ++ [closer] ++ others := by
    simp
  refine ⟨{ Cursor.ofTokens (opener :: tokens ++ closer :: others) with rest := [] }, ⟨?_, rfl⟩, rfl⟩
  rw [whole, Cursor.rest_ofTokens_of_plain plainWrapped endsOthers,
    Cursor.rest_ofTokens_of_plain plain ends]
  simp [opens, closes]

/-- An expression that takes all of its input is read in the same way in parentheses, and a program
in curly brackets is read as one scope, unless that opens one level too many: with one more level
allowed nothing is refused. -/
theorem parse_wrapped (plain : ∀ token ∈ tokens, token.kind ≠ .endOfInput)
    (ends : ∀ token ∈ ending.head?, token.kind = .endOfInput)
    (endsOthers : ∀ token ∈ others.head?, token.kind = .endOfInput) :
    (∀ opener closer : Token, opener.kind = .opening .round → closer.kind = .closing .round →
      ∀ value after,
        Request.expression.run (.ofTokens (tokens ++ ending)) = (.ok (.expression value), after) →
        after.rest = [] →
        let wrapped := Cursor.ofTokens (opener :: tokens ++ closer :: others)
        ∃ behind, behind.rest = [] ∧
          Request.expression.runWithin (nestingLimit + 1) wrapped =
            (.ok (.expression value), behind) ∧
          (Request.expression.run wrapped = (.ok (.expression value), behind) ∨
            ∃ found, (Request.expression.run wrapped).1 =
              .error { cause := .nestingTooDeep, tokens := found })) ∧
    (∀ opener closer : Token, opener.kind = .opening .curly → closer.kind = .closing .curly →
      ∀ statements, parseTokens (tokens ++ ending) = .ok (statements ++ [.endOfInput]) →
        let wrapped := opener :: tokens ++ closer :: others
        (Request.program.runWithin (nestingLimit + 1) (.ofTokens wrapped)).1 =
            .ok (.program [.scope statements, .endOfInput]) ∧
          (parseTokens wrapped = .ok [.scope statements, .endOfInput] ∨
            ∃ found, parseTokens wrapped =
              .error { cause := .nestingTooDeep, tokens := found })) := by
  have fewer : nestingLimit ≤ nestingLimit + 1 := Nat.le_succ nestingLimit
  constructor
  · intro opener closer opens closes value after done whole wrapped
    obtain ⟨behind, passes, ended⟩ :=
      Cursor.passes_ofTokens_wrapped opens closes plain ends endsOthers
    obtain ⟨read, inner, same⟩ := Parse.map_eq_ok_iff.mp (Request.runWithin_eq_ok_iff.mp done)
    obtain rfl := Answer.expression.inj same
    have grouped := Parse.expression_wrapped opens closes inner whole passes ended
    have larger : Request.expression.runWithin (nestingLimit + 1) wrapped =
        (.ok (.expression read), behind) :=
      Request.runWithin_eq_ok_iff.mpr (Parse.bind_of_ok grouped)
    refine ⟨behind, ended, larger, ?_⟩
    rcases Request.expression.refused_or_runWithin_eq fewer wrapped with refused | same
    · exact .inr refused
    · exact .inl (same.trans larger)
  · intro opener closer opens closes statements parsed wrapped
    obtain ⟨behind, passes, ended⟩ :=
      Cursor.passes_ofTokens_wrapped opens closes plain ends endsOthers
    obtain ⟨after, done⟩ := program_of_parseTokens parsed
    have whole := Parse.rest_eq_nil_of_program done
    have braced := Parse.program_wrapped opens closes done whole passes ended
    constructor
    · have larger : Request.program.runWithin (nestingLimit + 1) (.ofTokens wrapped) =
          (.ok (.program [.scope statements, .endOfInput]), behind) :=
        Request.runWithin_eq_ok_iff.mpr (Parse.bind_of_ok braced)
      rw [larger]
    · have restricts := Parse.composed_program.restricts (Level.restricts_within fewer)
      rcases restricts (.ofTokens wrapped) with ⟨found, cursor, refused⟩ | same
      · exact .inr ⟨found, parseTokens_of_error refused⟩
      · exact .inl (parseTokens_of_ok (same.trans braced))

end Sequences

/-- A difference of two names, with a comment inside. -/
theorem parse_wrapped_difference :
    let token kind lexeme : Token := { kind, lexeme, position := .start }
    let tokens := [token .identifier "x", token .hyphen "-", token .comment "less",
      token .identifier "y"]
    let grouped := Cursor.ofTokens
      (token (.opening .round) "(" :: tokens ++ [token (.closing .round) ")"])
    let difference := Expression.binary (.name "x") "-" (.name "y")
    (∃ behind, behind.rest = [] ∧
      Request.expression.runWithin (nestingLimit + 1) grouped =
        (.ok (.expression difference), behind) ∧
      (Request.expression.run grouped = (.ok (.expression difference), behind) ∨
        ∃ found, (Request.expression.run grouped).1 =
          .error { cause := .nestingTooDeep, tokens := found })) ∧
    (parseTokens (token (.opening .curly) "\x7b" :: tokens ++ [token (.closing .curly) "\x7d"]) =
        .ok [.scope [.expression difference], .endOfInput] ∨
      ∃ found, parseTokens
          (token (.opening .curly) "\x7b" :: tokens ++ [token (.closing .curly) "\x7d"]) =
        .error { cause := .nestingTooDeep, tokens := found }) := by
  intro token tokens grouped difference
  have plain : ∀ token ∈ tokens, token.kind ≠ .endOfInput := by decide
  have read : Request.expression.run (.ofTokens (tokens ++ [.endOfInput .start])) =
      (.ok (.expression difference), { rest := [], stop := .endOfInput .start }) := rfl
  have parsed : parseTokens (tokens ++ [.endOfInput .start]) =
      .ok ([.expression difference] ++ [.endOfInput]) := rfl
  obtain ⟨ofExpression, ofProgram⟩ :=
    @parse_wrapped tokens [.endOfInput .start] [] plain (by decide) (by decide)
  exact ⟨ofExpression _ _ rfl rfl difference _ read rfl, (ofProgram _ _ rfl rfl _ parsed).2⟩

end Kite
