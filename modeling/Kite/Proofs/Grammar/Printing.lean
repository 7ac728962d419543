import Mathlib.Data.List.Forall2
import Kite.Grammar.Rules

/-!
# Printing syntax trees

A program is printed as a list of symbols, each of which one token can spell. Every
statement ends with a semicolon. An array, a function or a scope gets parentheses where
it stands as an expression or as an operand, and a binary where it is the operand to the
right; the operand to the left is printed as an expression, for operators group to the
left. `levels` counts how many nesting levels the printed symbols open at once: one for
every primary, for every pair of parentheses and for every scope. `Statement.IsProgram`
says which trees can be printed at all.
-/

set_option autoImplicit false

namespace Kite

/-! ## Symbols -/

/-- What a single token says to the grammar. -/
inductive Symbol where
  | name (text : String)
  | literal (value : Literal)
  | operator (text : String)
  | opening (shape : Bracket)
  | closing (shape : Bracket)
  | comma
  | semicolon
  | colon
  | arrow
  deriving DecidableEq, Repr

/-- The tokens that spell a symbol: the text of a bracket or a mark, and the place and the flags of
any token, are free. A number is spelled by every numeral of its value. -/
def Symbol.SpelledBy : Symbol → Token → Prop
  | .name text, token => token.kind = .identifier ∧ token.lexeme = text
  | .literal value, token => Literal.ofToken? token = some value
  | .operator text, token => token.kind = .operator ∧ token.lexeme = text
  | .opening shape, token => token.kind = .opening shape
  | .closing shape, token => token.kind = .closing shape
  | .comma, token => token.kind = .comma
  | .semicolon, token => token.kind = .semicolon
  | .colon, token => token.kind = .colon
  | .arrow, token => token.kind = .arrow

namespace Symbol

instance (symbol : Symbol) (token : Token) : Decidable (symbol.SpelledBy token) :=
  match symbol with
  | .name _ | .operator _ => inferInstanceAs (Decidable (_ ∧ _))
  | .literal _ => inferInstanceAs (Decidable (_ = some _))
  | .opening _ | .closing _ | .comma | .semicolon | .colon | .arrow =>
    inferInstanceAs (Decidable (_ = _))

/-- Symbols with a pair of brackets around them. -/
def bracketed (shape : Bracket) (symbols : List Symbol) : List Symbol :=
  .opening shape :: symbols ++ [.closing shape]

/-- Items with commas between them. -/
def separated : List (List Symbol) → List Symbol
  | [] => []
  | first :: others => first ++ others.flatMap fun item => .comma :: item

end Symbol

/-! ## Parts without brackets inside -/

def Element.symbols : Element → List Symbol
  | .literal value => [.literal value]
  | .name text => [.name text]

def Parameter.symbols (parameter : Parameter) : List Symbol :=
  match parameter.annotation with
  | some annotation => [.name parameter.name, .colon, .name annotation]
  | none => [.name parameter.name]

/-! ## Where parentheses are needed -/

namespace Expression

/-- The expressions that need no parentheses as operands. -/
def isOperand : Expression → Bool
  | .name _ | .literal _ | .call _ _ => true
  | _ => false

/-- The expressions that need no parentheses where any expression may stand. -/
def standsAlone : Expression → Bool
  | .array _ | .function _ _ | .scope _ => false
  | _ => true

end Expression

/-- Symbols in parentheses unless they need none. -/
def Symbol.grouped (bare : Bool) (symbols : List Symbol) : List Symbol :=
  if bare then symbols else bracketed .round symbols

/-- Parentheses open a level of their own. -/
def groupedLevels (bare : Bool) (levels : Nat) : Nat :=
  if bare then levels else levels + 1

/-! ## Symbols of a tree -/

mutual

/-- The symbols of an expression without parentheses around it. -/
def Expression.symbols : Expression → List Symbol
  | .name text => [.name text]
  | .literal value => [.literal value]
  | .array elements => Symbol.bracketed .square (Symbol.separated (elements.map Element.symbols))
  | .call callee arguments =>
    .name callee :: Symbol.bracketed .round (Symbol.separated (Body.symbolsOfAll arguments))
  | .function parameters body =>
    Symbol.bracketed .round (Symbol.separated (parameters.map Parameter.symbols)) ++
      .arrow :: body.symbols
  | .binary left operator right =>
    Symbol.grouped left.standsAlone left.symbols ++
      .operator operator :: Symbol.grouped right.isOperand right.symbols
  | .scope statements => Symbol.bracketed .curly (Statement.symbolsOfAll statements)

def Body.symbols : Body → List Symbol
  | .expression expression => Symbol.grouped expression.standsAlone expression.symbols
  | .scope statements => Symbol.bracketed .curly (Statement.symbolsOfAll statements)

def Body.symbolsOfAll : List Body → List (List Symbol)
  | [] => []
  | body :: bodies => body.symbols :: Body.symbolsOfAll bodies

/-- The symbols of a statement. The mark at the end of a program has none. -/
def Statement.symbols : Statement → List Symbol
  | .scope statements => Symbol.bracketed .curly (Statement.symbolsOfAll statements) ++ [.semicolon]
  | .assignment target value =>
    .name target :: .colon :: Symbol.grouped value.standsAlone value.symbols ++ [.semicolon]
  | .expression expression =>
    Symbol.grouped expression.standsAlone expression.symbols ++ [.semicolon]
  | .endOfInput => []

def Statement.symbolsOfAll : List Statement → List Symbol
  | [] => []
  | statement :: statements => statement.symbols ++ Statement.symbolsOfAll statements

end

/-! ## Nesting levels of a printed tree -/

mutual

/-- How many levels the symbols of an expression open at once. -/
def Expression.levels : Expression → Nat
  | .name _ | .literal _ | .array _ => 1
  | .call _ arguments => Body.levelsOfAll arguments + 1
  | .function _ body => body.levels + 1
  | .binary left _ right =>
    max (groupedLevels left.standsAlone left.levels) (groupedLevels right.isOperand right.levels)
  | .scope statements => Statement.levelsOfAll statements + 1 + 1

def Body.levels : Body → Nat
  | .expression expression => groupedLevels expression.standsAlone expression.levels
  | .scope statements => Statement.levelsOfAll statements + 1

def Body.levelsOfAll : List Body → Nat
  | [] => 0
  | body :: bodies => max body.levels (Body.levelsOfAll bodies)

def Statement.levels : Statement → Nat
  | .scope statements => Statement.levelsOfAll statements + 1
  | .assignment _ value => groupedLevels value.standsAlone value.levels
  | .expression expression => groupedLevels expression.standsAlone expression.levels
  | .endOfInput => 0

def Statement.levelsOfAll : List Statement → Nat
  | [] => 0
  | statement :: statements => max statement.levels (Statement.levelsOfAll statements)

end

/-! ## Well-formed trees -/

mutual

/-- Whether no statement inside is the mark at the end and each parameter has a type. -/
def Expression.wellFormed : Expression → Bool
  | .name _ | .literal _ | .array _ => true
  | .call _ arguments => Body.allWellFormed arguments
  | .function parameters body =>
    parameters.all (fun parameter => parameter.annotation.isSome) && body.wellFormed
  | .binary left _ right => left.wellFormed && right.wellFormed
  | .scope statements => Statement.allWellFormed statements

def Body.wellFormed : Body → Bool
  | .expression expression => expression.wellFormed
  | .scope statements => Statement.allWellFormed statements

def Body.allWellFormed : List Body → Bool
  | [] => true
  | body :: bodies => body.wellFormed && Body.allWellFormed bodies

/-- Whether a statement is well formed, and not the mark at the end of a program. -/
def Statement.wellFormed : Statement → Bool
  | .scope statements => Statement.allWellFormed statements
  | .assignment _ value => value.wellFormed
  | .expression expression => expression.wellFormed
  | .endOfInput => false

def Statement.allWellFormed : List Statement → Bool
  | [] => true
  | statement :: statements => statement.wellFormed && Statement.allWellFormed statements

end

/-- The mark of the end is the last statement and stands nowhere else, and every parameter has a
type. -/
def Statement.IsProgram (program : List Statement) : Prop :=
  ∃ statements, Statement.allWellFormed statements = true ∧ program = statements ++ [.endOfInput]

/-! ## What the lists come to -/

theorem Body.symbolsOfAll_eq_map (bodies : List Body) :
    Body.symbolsOfAll bodies = bodies.map Body.symbols := by
  induction bodies with
  | nil => rfl
  | cons body bodies ih => rw [Body.symbolsOfAll, ih, List.map_cons]

theorem Body.levelsOfAll_le_iff {bodies : List Body} {levels : Nat} :
    Body.levelsOfAll bodies ≤ levels ↔ ∀ body ∈ bodies, body.levels ≤ levels := by
  induction bodies with
  | nil => simp [Body.levelsOfAll]
  | cons body bodies ih => rw [Body.levelsOfAll, Nat.max_le, ih, List.forall_mem_cons]

theorem Body.allWellFormed_iff {bodies : List Body} :
    Body.allWellFormed bodies = true ↔ ∀ body ∈ bodies, body.wellFormed = true := by
  induction bodies with
  | nil => simp [Body.allWellFormed]
  | cons body bodies ih => rw [Body.allWellFormed, Bool.and_eq_true, ih, List.forall_mem_cons]

theorem Statement.symbolsOfAll_eq_flatMap (statements : List Statement) :
    Statement.symbolsOfAll statements = statements.flatMap Statement.symbols := by
  induction statements with
  | nil => rfl
  | cons statement statements ih => rw [Statement.symbolsOfAll, ih, List.flatMap_cons]

theorem Statement.levelsOfAll_le_iff {statements : List Statement} {levels : Nat} :
    Statement.levelsOfAll statements ≤ levels ↔
      ∀ statement ∈ statements, statement.levels ≤ levels := by
  induction statements with
  | nil => simp [Statement.levelsOfAll]
  | cons statement statements ih =>
    rw [Statement.levelsOfAll, Nat.max_le, ih, List.forall_mem_cons]

theorem Statement.allWellFormed_iff {statements : List Statement} :
    Statement.allWellFormed statements = true ↔
      ∀ statement ∈ statements, statement.wellFormed = true := by
  induction statements with
  | nil => simp [Statement.allWellFormed]
  | cons statement statements ih =>
    rw [Statement.allWellFormed, Bool.and_eq_true, ih, List.forall_mem_cons]

end Kite
