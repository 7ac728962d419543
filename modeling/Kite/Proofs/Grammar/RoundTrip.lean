import Kite.Proofs.Grammar.Completeness
import Kite.Proofs.Number.Numerals

/-!
# Printing and reading back

The programs that the parser answers are exactly the ones that can be printed and read
back: what it answers is well formed, since every rule of the grammar makes well-formed
trees of well-formed parts, and a well-formed program is read back from its symbols
unless they open more levels at once than the limit (`parseTokens_print`). Every program
has tokens that spell it, for every number has a numeral.
-/

set_option autoImplicit false

namespace Kite

open Grammar

/-! ## Rules make well-formed trees -/

theorem wellFormed_of_expressionRule {tokens : List Token} {expression : Expression}
    (rule : ExpressionRule (fun _ expression => expression.wellFormed = true) tokens expression) :
    expression.wellFormed = true := by
  induction rule with
  | primary first => exact first
  | binary _ _ second ih => rw [Expression.wellFormed, ih, second, Bool.and_self]

section Rules

variable {tokens : List Token}

theorem wellFormed_of_bodyRule {body : Body}
    (rule : BodyRule (fun _ expression => expression.wellFormed = true)
      (fun _ statements => Statement.allWellFormed statements = true) tokens body) :
    body.wellFormed = true := by
  cases rule with
  | expression inner => exact wellFormed_of_expressionRule inner
  | scope inner => exact inner

theorem wellFormed_of_primaryRule {expression : Expression}
    (rule : PrimaryRule (fun _ expression => expression.wellFormed = true)
      (fun _ statements => Statement.allWellFormed statements = true) tokens expression) :
    expression.wellFormed = true := by
  cases rule with
  | name | literal | array => rfl
  | call kind inner =>
    refine Body.allWellFormed_iff.mpr ?_
    intro argument member
    obtain ⟨_, rule⟩ := inner.exists_of_mem argument member
    exact wellFormed_of_bodyRule rule
  | group opens inner closes => exact wellFormed_of_expressionRule inner
  | function list kind inner =>
    rw [Expression.wellFormed, Bool.and_eq_true, List.all_eq_true]
    refine ⟨?_, wellFormed_of_bodyRule inner⟩
    intro parameter member
    obtain ⟨_, ⟨_, _, _⟩⟩ := list.exists_of_mem parameter member
    rfl
  | scope inner => exact inner

theorem wellFormed_of_statementsRule {statements : List Statement}
    (rule : StatementsRule (fun _ expression => expression.wellFormed = true)
      (fun _ statements => Statement.allWellFormed statements = true) tokens statements) :
    Statement.allWellFormed statements = true := by
  induction rule with
  | nil => rfl
  | cons first _ ih =>
    cases first with
    | empty => exact ih
    | scope inner _ =>
      exact Statement.allWellFormed_iff.mpr
        (List.forall_mem_cons.mpr ⟨inner, Statement.allWellFormed_iff.mp ih⟩)
    | assignment _ _ inner _ =>
      exact Statement.allWellFormed_iff.mpr (List.forall_mem_cons.mpr
        ⟨wellFormed_of_expressionRule inner, Statement.allWellFormed_iff.mp ih⟩)
    | expression inner _ =>
      exact Statement.allWellFormed_iff.mpr (List.forall_mem_cons.mpr
        ⟨wellFormed_of_expressionRule inner, Statement.allWellFormed_iff.mp ih⟩)

end Rules

theorem Level.reads_wellFormed (levels : Nat) :
    (Level.within levels).Reads (fun _ expression => expression.wellFormed = true)
      (fun _ statements => Statement.allWellFormed statements = true) := by
  refine Level.reads_within (fun _ _ expression => expression.wellFormed = true)
    (fun _ _ statements => Statement.allWellFormed statements = true) ?_ ?_ levels
  · intro _ _ _ rule
    exact wellFormed_of_primaryRule rule
  · intro _ _ _ rule
    cases rule with
    | braces _ inner _ => exact wellFormed_of_statementsRule inner

theorem isProgram_of_parseTokens {tokens : List Token} {program : List Statement}
    (parsed : parseTokens tokens = .ok program) : Statement.IsProgram program := by
  obtain ⟨after, done⟩ := program_of_parseTokens parsed
  obtain ⟨_, statements, _, _, rule, rfl⟩ :=
    Parse.program_eq_ok (Level.reads_wellFormed nestingLimit) done
  exact ⟨statements, wellFormed_of_statementsRule rule, rfl⟩

/-! ## Reading a printed program -/

theorem Symbol.exists_token (symbol : Symbol) : ∃ token, symbol.SpelledBy token := by
  cases symbol with
  | literal value =>
    cases value with
    | number value =>
      obtain ⟨text, spelled⟩ := Binary64.exists_numeral value
      refine ⟨{ kind := .number, lexeme := text, position := .start }, ?_⟩
      simp [Symbol.SpelledBy, Literal.ofToken?, spelled]
    | quoted style text =>
      exact ⟨{ kind := .quoted style, lexeme := text, position := .start }, rfl⟩
  | name text => exact ⟨{ kind := .identifier, lexeme := text, position := .start }, rfl, rfl⟩
  | operator text => exact ⟨{ kind := .operator, lexeme := text, position := .start }, rfl, rfl⟩
  | opening shape => exact ⟨{ kind := .opening shape, lexeme := "", position := .start }, rfl⟩
  | closing shape => exact ⟨{ kind := .closing shape, lexeme := "", position := .start }, rfl⟩
  | comma => exact ⟨{ kind := .comma, lexeme := ",", position := .start }, rfl⟩
  | semicolon => exact ⟨{ kind := .semicolon, lexeme := ";", position := .start }, rfl⟩
  | colon => exact ⟨{ kind := .colon, lexeme := ":", position := .start }, rfl⟩
  | arrow => exact ⟨{ kind := .arrow, lexeme := "->", position := .start }, rfl⟩

theorem exists_printed (symbols : List Symbol) :
    ∃ printed, List.Forall₂ Symbol.SpelledBy symbols printed := by
  induction symbols with
  | nil => exact ⟨[], .nil⟩
  | cons symbol symbols ih =>
    obtain ⟨token, spells⟩ := symbol.exists_token
    obtain ⟨printed, spelled⟩ := ih
    exact ⟨token :: printed, .cons spells spelled⟩

theorem Symbol.SpelledBy.visible {symbol : Symbol} {token : Token}
    (spelled : symbol.SpelledBy token) : token.kind ≠ .comment ∧ token.kind ≠ .endOfInput := by
  cases symbol with
  | literal value =>
    rcases Literal.kind_of_ofToken? spelled with kind | ⟨style, kind⟩ <;> simp [kind]
  | name text => simp [spelled.1]
  | operator text => simp [spelled.1]
  | _ => rw [show token.kind = _ from spelled]; simp

/-- Of printed tokens in front of an end token, or of nothing, a cursor holds all. -/
theorem Cursor.rest_ofTokens {symbols : List Symbol} {printed ending : List Token}
    (spelled : List.Forall₂ Symbol.SpelledBy symbols printed)
    (ends : ∀ token ∈ ending.head?, token.kind = .endOfInput) :
    (Cursor.ofTokens (printed ++ ending)).rest = printed := by
  have visible : ∀ token ∈ printed, token.kind ≠ .comment ∧ token.kind ≠ .endOfInput := by
    induction spelled with
    | nil => simp
    | cons first _ ih => exact List.forall_mem_cons.mpr ⟨first.visible, ih⟩
  rw [rest_ofTokens_of_plain (fun token member => (visible token member).2) ends]
  exact List.filter_eq_self.mpr fun token member => decide_eq_true (visible token member).1

theorem Cursor.shows_ofTokens {symbols : List Symbol} {printed ending : List Token}
    (spelled : List.Forall₂ Symbol.SpelledBy symbols printed)
    (ends : ∀ token ∈ ending.head?, token.kind = .endOfInput) :
    ∃ after, (Cursor.ofTokens (printed ++ ending)).Shows symbols after ∧
      after.kindAt 0 = .endOfInput := by
  have rest := Cursor.rest_ofTokens spelled ends
  generalize Cursor.ofTokens (printed ++ ending) = cursor at rest
  obtain ⟨_, stop⟩ := cursor
  obtain rfl : _ = printed := rest
  exact ⟨_, Cursor.shows_of_forall₂ stop spelled, rfl⟩

theorem Parse.limited_program {statements : List Statement} {before after : Cursor}
    (wellFormed : Statement.allWellFormed statements = true)
    (shows : before.Shows (Statement.symbolsOfAll statements) after)
    (ended : after.kindAt 0 = .endOfInput) (levels : Nat) :
    Limited (Statement.levelsOfAll statements ≤ levels) (.ok (statements ++ [.endOfInput]) after)
      ((Parse.program (Level.within levels)).run before) := by
  have readable := Statement.readable_of_all statements wellFormed
  rw [program_eq_statementsUntil]
  refine Limited.andThen
    (limited_statementsUntil peeks_inputEnds readable ?_ ?_ levels shows) rfl
  · intro statement member before after shows
    have notEnd : before.kindAt 0 ≠ .endOfInput :=
      kindAt_ne_of_statement (Statement.allWellFormed_iff.mp wellFormed statement member) shows
        (by decide) (by decide)
    rw [inputEnds_run, decide_eq_false notEnd]
  · rw [inputEnds_run, decide_eq_true ended]

/-- Every program that is well formed and keeps to the limit is read from some tokens. -/
theorem exists_parseTokens {statements : List Statement}
    (wellFormed : Statement.allWellFormed statements = true)
    (fits : Statement.levelsOfAll statements ≤ nestingLimit) :
    ∃ tokens, parseTokens tokens = .ok (statements ++ [.endOfInput]) := by
  obtain ⟨printed, spelled⟩ := exists_printed (Statement.symbolsOfAll statements)
  have nothing : ∀ token ∈ ([] : List Token).head?, token.kind = .endOfInput := by simp
  obtain ⟨after, shows, ended⟩ := Cursor.shows_ofTokens spelled nothing
  have done := (Parse.limited_program wellFormed shows ended nestingLimit).within fits
  rw [EStateM.run] at done
  exact ⟨printed ++ [], by rw [parseTokens, done]⟩

/-- The parser answers well-formed programs only. Each of them can be printed, and it is read back
from any tokens that spell it, unless more levels are open at once than the limit allows. -/
theorem parseTokens_print :
    (∀ tokens program, parseTokens tokens = .ok program → Statement.IsProgram program) ∧
    ∀ program, Statement.IsProgram program →
      (∃ printed, List.Forall₂ Symbol.SpelledBy (Statement.symbolsOfAll program) printed) ∧
      ∀ printed ending,
        List.Forall₂ Symbol.SpelledBy (Statement.symbolsOfAll program) printed →
        (∀ token ∈ ending.head?, token.kind = .endOfInput) →
        (Statement.levelsOfAll program ≤ nestingLimit →
          parseTokens (printed ++ ending) = .ok program) ∧
        (nestingLimit < Statement.levelsOfAll program → ∃ tokens,
          parseTokens (printed ++ ending) = .error { cause := .nestingTooDeep, tokens }) := by
  refine ⟨fun tokens program => isProgram_of_parseTokens, fun program isProgram =>
    ⟨exists_printed _, ?_⟩⟩
  intro printed ending spelled ends
  obtain ⟨statements, wellFormed, rfl⟩ := isProgram
  have symbols : Statement.symbolsOfAll (statements ++ [.endOfInput]) =
      Statement.symbolsOfAll statements := by
    simp [Statement.symbolsOfAll_eq_flatMap, Statement.symbols]
  have levels : ∀ limit, Statement.levelsOfAll (statements ++ [.endOfInput]) ≤ limit ↔
      Statement.levelsOfAll statements ≤ limit := by
    intro limit
    simp [Statement.levelsOfAll_le_iff, Statement.levels, or_imp, forall_and]
  rw [symbols] at spelled
  obtain ⟨after, shows, ended⟩ := Cursor.shows_ofTokens spelled ends
  have limited := Parse.limited_program wellFormed shows ended nestingLimit
  rw [← levels] at limited
  constructor
  · intro fits
    have done := limited.within fits
    rw [EStateM.run] at done
    rw [parseTokens, done]
  · intro deep
    obtain ⟨tokens, cursor, failed⟩ := limited.beyond (Nat.not_le.mpr deep)
    rw [EStateM.run] at failed
    exact ⟨tokens, by rw [parseTokens, failed]⟩

/-- A call with a bare scope, and a binary that needs parentheses to the right of another. -/
theorem parseTokens_print_binary :
    let token kind lexeme : Token := { kind, lexeme, position := .start }
    let program := [.assignment "x" (.binary (.call "f" [.scope []]) "-"
      (.binary (.name "b") "*" (.literal (.number (.ofBits 0x3ff8000000000000))))), .endOfInput]
    let printed := [token .identifier "x", token .colon ":", token .identifier "f",
      token (.opening .round) "(", token (.opening .curly) "\x7b", token (.closing .curly) "\x7d",
      token (.closing .round) ")", token .operator "-", token (.opening .round) "(",
      token .identifier "b", token .operator "*", token .number "1.50",
      token (.closing .round) ")", token .semicolon ";"]
    Statement.IsProgram program ∧ Statement.levelsOfAll program = 2 ∧
      parseTokens (printed ++ [.endOfInput .start]) = .ok program := by
  intro token program printed
  have wellFormed : Statement.IsProgram program := ⟨program.dropLast, rfl, rfl⟩
  have spelled : List.Forall₂ Symbol.SpelledBy (Statement.symbolsOfAll program) printed := by
    decide +kernel
  have levels : Statement.levelsOfAll program = 2 := rfl
  have read := (parseTokens_print.2 program wellFormed).2 printed [.endOfInput .start] spelled
    (by decide)
  exact ⟨wellFormed, levels, read.1 (by rw [levels]; decide)⟩

end Kite
