import Kite.Proofs.Grammar.Outcomes

/-!
# Reading printed trees

A printed tree is read back, in view of the kind that follows it: nothing but that kind
tells the parser that a part is complete. An expression is `Readable` if it is read back
in both of the places where it can be printed, as an operand and on its own. The symbols
of every well-formed tree are read back (`Expression.readable`, `Statement.readable`).
-/

set_option autoImplicit false

namespace Kite

namespace Parse

variable {before after cursor : Cursor}

/-! ## What the parser sees ahead of a printed expression -/

/-- What lies ahead where an expression stands on its own: a name that is the whole expression or
goes on with an operator or arguments, a literal, or a parenthesis. -/
inductive BeginsExpression (before after : Cursor) : Prop where
  | name (first : before.kindAt 0 = .identifier)
      (second : before.kindAt 1 = after.kindAt 0 ∨ before.kindAt 1 = .operator ∨
        before.kindAt 1 = .opening .round)
  | literal (first : (before.kindAt 0).isLiteral = true)
  | group (first : before.kindAt 0 = .opening .round)

theorem BeginsExpression.extend {middle : Cursor} (begins : BeginsExpression before middle)
    (operator : middle.kindAt 0 = .operator) : BeginsExpression before after := by
  cases begins with
  | name first second =>
    refine .name first (.inr ?_)
    rcases second with same | seen
    · exact .inl (same.trans operator)
    · exact seen
  | literal first => exact .literal first
  | group first => exact .group first

theorem BeginsExpression.kindAt_ne {kind : Kind} (begins : BeginsExpression before after)
    (never : kind ≠ .identifier ∧ kind.isLiteral = false ∧ kind ≠ .opening .round) :
    before.kindAt 0 ≠ kind := by
  intro seen
  cases begins with
  | name first => exact never.1 (seen.symm.trans first)
  | literal first => exact absurd first (by simp [seen, never.2.1])
  | group first => exact never.2.2 (seen.symm.trans first)

theorem beginsExpression_grouped {before after : Cursor} (expression : Expression)
    (shows : before.Shows (Symbol.grouped expression.standsAlone expression.symbols) after) :
    BeginsExpression before after := by
  match expression with
  | .name name =>
    obtain ⟨⟨kind, _⟩, seen, rest⟩ := Cursor.Shows.head shows
    obtain rfl : before.next = after := rest
    exact .name (seen.trans kind) (.inl (Cursor.kindAt_next before 0).symm)
  | .literal value =>
    obtain ⟨spelled, seen, _⟩ := Cursor.Shows.head shows
    refine .literal ?_
    rw [seen]
    rcases Literal.kind_of_ofToken? spelled with kind | ⟨style, kind⟩ <;> rw [kind] <;> rfl
  | .call callee arguments =>
    obtain ⟨⟨kind, _⟩, seen, rest⟩ := Cursor.Shows.head shows
    obtain ⟨opens, _⟩ := Cursor.Shows.bracketed rest
    exact .name (seen.trans kind) (.inr (.inr ((Cursor.kindAt_next before 0).symm.trans opens)))
  | .binary left operator right =>
    obtain ⟨middle, first, rest⟩ := Cursor.shows_append.mp shows
    obtain ⟨⟨kind, _⟩, seen, _⟩ := Cursor.Shows.head rest
    exact (beginsExpression_grouped left first).extend (seen.trans kind)
  | .array _ | .function _ _ | .scope _ => exact .group (Cursor.Shows.bracketed shows).1

/-- Parentheses around an expression are not taken for a list of parameters. -/
theorem beginParameters_eq_false (expression : Expression)
    (shows : before.Shows expression.symbols after) (closes : after.kindAt 0 = .closing .round) :
    beginParameters (before.kindAt 0) (before.kindAt 1) = false := by
  have alone (begins : BeginsExpression before after) :
      beginParameters (before.kindAt 0) (before.kindAt 1) = false := by
    cases begins with
    | name first second =>
      rw [first]
      rcases second with seen | seen | seen <;> simp [seen, closes, beginParameters]
    | literal first =>
      generalize before.kindAt 0 = kind at first
      cases kind <;> simp_all [beginParameters, Kind.isLiteral]
    | group first => simp [first, beginParameters]
  cases expression with
  | name name => exact alone (beginsExpression_grouped (.name name) shows)
  | literal value => exact alone (beginsExpression_grouped (.literal value) shows)
  | call callee arguments => exact alone (beginsExpression_grouped (.call callee arguments) shows)
  | binary left operator right =>
    exact alone (beginsExpression_grouped (.binary left operator right) shows)
  | array elements => simp [(Cursor.Shows.bracketed shows).1, beginParameters]
  | scope statements => simp [(Cursor.Shows.bracketed shows).1, beginParameters]
  | function parameters body =>
    obtain ⟨middle, first, _⟩ := Cursor.shows_append.mp shows
    simp [(Cursor.Shows.bracketed first).1, beginParameters]

/-! ## Expressions -/

/-- The kinds that can follow an operand in print. -/
def EndsOperand (kind : Kind) : Prop :=
  kind = .operator ∨ kind = .semicolon ∨ kind = .comma ∨ kind = .closing .round

/-- The kinds that can follow an expression in print. -/
def EndsExpression (kind : Kind) : Prop :=
  kind = .semicolon ∨ kind = .comma ∨ kind = .closing .round

theorem EndsExpression.endsOperand {kind : Kind} (ends : EndsExpression kind) :
    EndsOperand kind := .inr ends

theorem EndsOperand.ne {kind other : Kind} (ends : EndsOperand kind)
    (never : ¬EndsOperand other) : kind ≠ other := by
  rintro rfl
  exact never ends

/-- What the rules of a level enter goes by a rule for one level less, and nothing can be entered
where no level is left. -/
theorem limited_within {α : Type} {entry rule : Level → Parse α} {inner : Nat}
    {expected : EStateM.Result GrammarError Cursor α}
    (refuses : entry (Level.within 0) = fail .nestingTooDeep)
    (enters : ∀ levels, entry (Level.within (levels + 1)) = rule (Level.within levels))
    (limited : ∀ levels,
      Limited (inner ≤ levels) expected ((rule (Level.within levels)).run before))
    (levels : Nat) :
    Limited (inner + 1 ≤ levels) expected ((entry (Level.within levels)).run before) := by
  cases levels with
  | zero =>
    rw [refuses, fail_run]
    exact ⟨fun fits => absurd fits (by simp), fun _ => ⟨_, _, rfl⟩⟩
  | succ levels =>
    rw [enters]
    exact (limited levels).congr (by simp)

theorem limited_within_primary {inner : Nat}
    {expected : EStateM.Result GrammarError Cursor Expression}
    (limited : ∀ levels, Limited (inner ≤ levels) expected
      ((Parse.primary (Level.within levels)).run before)) (levels : Nat) :
    Limited (inner + 1 ≤ levels) expected ((Level.within levels).primary.run before) :=
  limited_within rfl (fun _ => rfl) limited levels

theorem limited_within_scope {inner : Nat}
    {expected : EStateM.Result GrammarError Cursor (List Statement)}
    (limited : ∀ levels, Limited (inner ≤ levels) expected
      ((Parse.scope (Level.within levels)).run before)) (levels : Nat) :
    Limited (inner + 1 ≤ levels) expected ((Level.within levels).scope.run before) :=
  limited_within rfl (fun _ => rfl) limited levels

theorem progresses_operation_within (levels : Nat) :
    Progresses (operation (Level.within levels)) :=
  progresses_operation (Level.reads_derivations levels)

/-- Behind a whole expression no operation goes on. -/
theorem expressionAfter_eq_ok (levels : Nat) (left : Expression)
    (ends : EndsExpression (cursor.kindAt 0)) :
    (expressionAfter (Level.within levels) left).run cursor = .ok left cursor := by
  have stops : (operation (Level.within levels)).run cursor = .ok none cursor := by
    rw [operation_run, if_neg]
    rcases ends with kind | kind | kind <;> simp [kind]
  rw [expressionAfter_run (progresses_operation_within levels), bind_of_ok stops]
  rfl

/-- An operator and its right operand extend what has been read. -/
theorem limited_expressionAfter {levels : Nat} {fits : Prop} {left right : Expression}
    {operator : String} {symbols : List Symbol}
    (shows : before.Shows (.operator operator :: symbols) after)
    (operand : Limited fits (.ok right after)
      ((Level.within levels).primary.run before.next)) :
    Limited fits
      ((expressionAfter (Level.within levels) (.binary left operator right)).run after)
      ((expressionAfter (Level.within levels) left).run before) := by
  obtain ⟨⟨kind, rfl⟩, seen, _⟩ := shows.head
  rw [expressionAfter_run (progresses_operation_within levels) left]
  have operated : Limited fits (.ok (some (before.token.lexeme, right)) after)
      ((operation (Level.within levels)).run before) := by
    rw [operation_run, if_pos (.inl (seen.trans kind))]
    exact operand.andThen rfl
  exact operated.andThen rfl

end Parse

/-! ## Trees that are read back -/

open Parse

/-- An expression is read back from its symbols, as an operand and where it stands on its own. In
the latter case the expression may be the left part of a greater one. -/
structure Expression.Readable (expression : Expression) : Prop where
  operand : ∀ levels before after,
    Cursor.Shows before (Symbol.grouped expression.isOperand expression.symbols) after →
    EndsOperand (after.kindAt 0) →
    Limited (groupedLevels expression.isOperand expression.levels ≤ levels)
      (.ok expression after) ((Level.within levels).primary.run before)
  standing : ∀ levels before after,
    Cursor.Shows before (Symbol.grouped expression.standsAlone expression.symbols) after →
    EndsOperand (after.kindAt 0) →
    Limited (groupedLevels expression.standsAlone expression.levels ≤ levels)
      ((expressionAfter (Level.within levels) expression).run after)
      ((Parse.expression (Level.within levels)).run before)

/-- Before the end of an expression, nothing but the expression is read. -/
theorem Expression.Readable.whole {expression : Expression} {before after : Cursor}
    (readable : expression.Readable) (levels : Nat)
    (shows : before.Shows (Symbol.grouped expression.standsAlone expression.symbols) after)
    (ends : EndsExpression (after.kindAt 0)) :
    Limited (groupedLevels expression.standsAlone expression.levels ≤ levels)
      (.ok expression after) ((Parse.expression (Level.within levels)).run before) := by
  have read := readable.standing levels before after shows ends.endsOperand
  rwa [expressionAfter_eq_ok levels expression ends] at read

/-- An argument or a function body is read back from its symbols. -/
def Body.Readable (body : Body) : Prop :=
  ∀ levels before after, Cursor.Shows before body.symbols after →
    EndsExpression (after.kindAt 0) →
    Limited (body.levels ≤ levels) (.ok body after)
      ((Parse.body (Level.within levels)).run before)

/-- A statement is read back from its symbols. -/
def Statement.Readable (statement : Statement) : Prop :=
  ∀ levels before after, Cursor.Shows before statement.symbols after →
    Limited (statement.levels ≤ levels) (.ok (some statement) after)
      ((Parse.statement (Level.within levels)).run before)

namespace Parse

variable {before after : Cursor}

/-- An operand is a primary that can be read before any operator. -/
theorem readable_of_operand {expression : Expression} (bare : expression.isOperand = true)
    (primary : ∀ levels before after, Cursor.Shows before expression.symbols after →
      EndsOperand (after.kindAt 0) →
      Limited (expression.levels ≤ levels) (.ok expression after)
        ((Level.within levels).primary.run before)) : expression.Readable := by
  have alone : expression.standsAlone = true := by
    cases expression <;> simp_all [Expression.isOperand, Expression.standsAlone]
  constructor
  · intro levels before after shows ends
    rw [bare] at shows ⊢
    exact primary levels before after shows ends
  · intro levels before after shows ends
    rw [alone] at shows ⊢
    rw [expression_eq_bind]
    exact (primary levels before after shows ends).andThen rfl

theorem limited_group {expression : Expression}
    (inner : ∀ levels before after, Cursor.Shows before expression.symbols after →
      after.kindAt 0 = .closing .round →
      Limited (expression.levels ≤ levels) (.ok expression after)
        ((Parse.expression (Level.within levels)).run before))
    (levels : Nat) (shows : before.Shows (Symbol.bracketed .round expression.symbols) after)
    (ends : EndsOperand (after.kindAt 0)) :
    Limited (expression.levels + 1 ≤ levels) (.ok expression after)
      ((Level.within levels).primary.run before) := by
  obtain ⟨openSeen, closing, symbols, closeSeen, rfl⟩ := shows.bracketed
  apply limited_within_primary
  intro levels
  have notParameters := beginParameters_eq_false expression symbols closeSeen
  rw [Cursor.kindAt_next, Cursor.kindAt_next] at notParameters
  have closed : (close .round before.token).run closing = .ok () closing.next :=
    close_eq_ok_iff.mpr ⟨closeSeen, rfl⟩
  have notArrow : closing.next.kindAt 0 ≠ .arrow := ends.ne (by simp [EndsOperand])
  rw [primary_run_of_opening openSeen, notParameters, if_neg (by simp), group, take_bind]
  refine (inner levels _ _ symbols closeSeen).andThen ?_
  rw [bind_of_ok closed, kindAt_bind, if_neg notArrow]
  rfl

/-- An expression that cannot stand alone is read in parentheses. -/
theorem readable_of_group {expression : Expression} (grouped : expression.standsAlone = false)
    (primary : ∀ levels before after, Cursor.Shows before expression.symbols after →
      after.kindAt 0 = .closing .round →
      Limited (expression.levels ≤ levels) (.ok expression after)
        ((Level.within levels).primary.run before)) : expression.Readable := by
  have notOperand : expression.isOperand = false := by
    cases expression <;> simp_all [Expression.isOperand, Expression.standsAlone]
  have inner : ∀ levels before after, Cursor.Shows before expression.symbols after →
      after.kindAt 0 = .closing .round →
      Limited (expression.levels ≤ levels) (.ok expression after)
        ((Parse.expression (Level.within levels)).run before) := by
    intro levels before after shows closes
    rw [expression_eq_bind]
    exact (primary levels before after shows closes).andThen
      (expressionAfter_eq_ok levels expression (.inr (.inr closes)))
  constructor
  · intro levels before after shows ends
    rw [notOperand] at shows ⊢
    exact limited_group inner levels shows ends
  · intro levels before after shows ends
    rw [grouped] at shows ⊢
    rw [expression_eq_bind]
    exact (limited_group inner levels shows ends).andThen rfl

/-- A binary is read operand by operand, and in parentheses as an operand itself. -/
theorem readable_binary {left right : Expression} (operator : String) (first : left.Readable)
    (second : right.Readable) : (Expression.binary left operator right).Readable := by
  have extended : ∀ levels before after,
      Cursor.Shows before (Expression.binary left operator right).symbols after →
      EndsOperand (after.kindAt 0) →
      Limited ((Expression.binary left operator right).levels ≤ levels)
        ((expressionAfter (Level.within levels) (.binary left operator right)).run after)
        ((Parse.expression (Level.within levels)).run before) := by
    intro levels before after shows ends
    obtain ⟨middle, leftShows, rest⟩ := Cursor.shows_append.mp shows
    obtain ⟨⟨kind, _⟩, seen, rightShows⟩ := rest.head
    have leftRead := first.standing levels before middle leftShows (.inl (seen.trans kind))
    have rightRead := second.operand levels middle.next after rightShows ends
    refine Limited.congr ?_ (leftRead.trans (limited_expressionAfter rest rightRead))
    rw [Expression.levels, Nat.max_le]
  constructor
  · intro levels before after shows ends
    refine limited_group ?_ levels shows ends
    intro levels before after shows closes
    have read := extended levels before after shows (.inr (.inr (.inr closes)))
    rw [expressionAfter_eq_ok levels _ (.inr (.inr closes))] at read
    exact read
  · exact extended

/-! ### Names and literals -/

theorem readable_name (text : String) : (Expression.name text).Readable := by
  apply readable_of_operand rfl
  intro levels before after shows ends
  obtain ⟨⟨kind, rfl⟩, seen, rest⟩ := Cursor.Shows.head shows
  obtain rfl : before.next = after := rest
  apply limited_within_primary
  intro levels
  have notCall : before.kindAt 1 ≠ .opening .round := by
    rw [← Cursor.kindAt_next]
    exact ends.ne (by simp [EndsOperand])
  rw [Parse.primary, kindAt_bind, seen.trans kind]
  simp only
  rw [kindAt_bind, if_neg notCall]
  exact (Limited.of_eq rfl).congr (by simp)

theorem literalValue_run {token : Token} {value : Literal}
    (spelled : Literal.ofToken? token = some value) :
    (literalValue token).run before = .ok value before :=
  literalValue_eq_ok_iff.mpr ⟨spelled, rfl⟩

theorem readable_literal (value : Literal) : (Expression.literal value).Readable := by
  apply readable_of_operand rfl
  intro levels before after shows ends
  obtain ⟨spelled, seen, rest⟩ := Cursor.Shows.head shows
  obtain rfl : before.next = after := rest
  apply limited_within_primary
  intro levels
  have done : literal.run before = .ok (.literal value) before.next := by
    rw [literal, take_bind, bind_of_ok (literalValue_run spelled)]
    rfl
  have reads : (Parse.primary (Level.within levels)).run before =
      .ok (.literal value) before.next := by
    rw [Parse.primary, kindAt_bind, seen]
    rcases Literal.kind_of_ofToken? spelled with kind | ⟨style, kind⟩ <;> rw [kind] <;> exact done
  exact (Limited.of_eq reads).congr (by simp)

/-! ### Arrays and functions -/

theorem element_run {value : Element} (opener : Token)
    (shows : before.Shows value.symbols after) :
    (element opener).run before = .ok value after := by
  cases value with
  | name text =>
    obtain ⟨⟨kind, rfl⟩, seen, rest⟩ := Cursor.Shows.head shows
    obtain rfl : before.next = after := rest
    rw [element, current_bind, kindAt_bind, seen.trans kind]
    rfl
  | literal value =>
    obtain ⟨spelled, seen, rest⟩ := Cursor.Shows.head shows
    obtain rfl : before.next = after := rest
    have done : (literalValue before.token >>= fun value => skip >>= fun _ =>
        pure (Element.literal value)).run before = .ok (.literal value) before.next := by
      rw [bind_of_ok (literalValue_run spelled)]
      rfl
    rw [element, current_bind, kindAt_bind, seen]
    rcases Literal.kind_of_ofToken? spelled with kind | ⟨style, kind⟩ <;> rw [kind] <;> exact done

theorem readable_array (elements : List Element) : (Expression.array elements).Readable := by
  apply readable_of_group rfl
  intro levels before after shows closes
  apply limited_within_primary
  intro levels
  have inner : Limited (∀ value ∈ elements, True) (.ok elements after)
      ((enclosed .square element).run before) := by
    refine limited_enclosed (fun opener _ => reads_element opener) ?_ ?_ shows
    · intro value member before after shows closes
      cases value with
      | name text =>
        obtain ⟨⟨kind, _⟩, seen, _⟩ := Cursor.Shows.head shows
        simp [seen, kind] at closes
      | literal value =>
        obtain ⟨spelled, seen, _⟩ := Cursor.Shows.head shows
        rcases Literal.kind_of_ofToken? spelled with kind | ⟨style, kind⟩ <;>
          simp [seen, kind] at closes
    · intro value member opener before after shows follows
      exact Limited.of_eq (element_run opener shows)
  rw [Parse.primary, kindAt_bind, (Cursor.Shows.bracketed shows).1]
  refine Limited.congr ?_ (inner.andThen rfl)
  simp

theorem kindAt_of_body {body : Body} (shows : before.Shows body.symbols after) :
    BeginsExpression before after ∨ before.kindAt 0 = .opening .curly := by
  cases body with
  | expression expression => exact .inl (beginsExpression_grouped expression shows)
  | scope statements => exact .inr (Cursor.Shows.bracketed shows).1

theorem limited_argument {body : Body} (readable : body.Readable) (levels : Nat) (opener : Token)
    (shows : before.Shows body.symbols after) (ends : EndsExpression (after.kindAt 0)) :
    Limited (body.levels ≤ levels) (.ok body after)
      ((argument (Level.within levels) opener).run before) := by
  have notEnd : before.kindAt 0 ≠ .endOfInput := by
    rcases kindAt_of_body shows with begins | opens
    · exact begins.kindAt_ne (by decide)
    · simp [opens]
  rw [argument, kindAt_bind, if_neg notEnd]
  exact readable levels before after shows ends

theorem readable_call (callee : String) {arguments : List Body}
    (readable : ∀ argument ∈ arguments, argument.Readable) :
    (Expression.call callee arguments).Readable := by
  apply readable_of_operand rfl
  intro levels before after shows _
  obtain ⟨⟨kind, rfl⟩, seen, rest⟩ := Cursor.Shows.head shows
  rw [Body.symbolsOfAll_eq_map] at rest
  have named : (expect .identifier).run before = .ok before.token before.next :=
    expect_eq_ok_iff.mpr ⟨seen.trans kind, rfl, rfl⟩
  have opens : before.kindAt 1 = .opening .round := by
    rw [← Cursor.kindAt_next]
    exact (Cursor.Shows.bracketed rest).1
  apply limited_within_primary
  intro levels
  have inner : Limited (∀ argument ∈ arguments, argument.levels ≤ levels) (.ok arguments after)
      ((enclosed .round (argument (Level.within levels))).run before.next) := by
    refine limited_enclosed
      (fun opener _ => reads_argument (Level.reads_derivations levels) opener) ?_ ?_ rest
    · intro argument member before after shows
      rcases kindAt_of_body shows with begins | opens
      · exact begins.kindAt_ne (by decide)
      · simp [opens]
    · intro argument member opener before after shows follows
      exact limited_argument (readable argument member) levels opener shows (.inr follows)
  rw [Parse.primary, kindAt_bind, seen.trans kind]
  simp only
  rw [kindAt_bind, if_pos opens, call, bind_of_ok named]
  refine Limited.congr ?_ (inner.andThen rfl)
  rw [Body.levelsOfAll_le_iff]

theorem parameter_run {value : Parameter} (annotated : value.annotation.isSome = true)
    (shows : before.Shows value.symbols after) : parameter.run before = .ok value after := by
  obtain ⟨text, annotation⟩ := value
  obtain ⟨type, rfl⟩ := Option.isSome_iff_exists.mp annotated
  obtain ⟨⟨nameKind, rfl⟩, nameSeen, rest⟩ := Cursor.Shows.head shows
  obtain ⟨colonKind, colonSeen, rest⟩ := rest.head
  obtain ⟨⟨typeKind, rfl⟩, typeSeen, rest⟩ := rest.head
  obtain rfl : before.next.next.next = after := rest
  rw [parameter, kindAt_bind, if_neg (not_not_intro (nameSeen.trans nameKind)), take_bind,
    kindAt_bind, if_neg (not_not_intro (colonSeen.trans colonKind)), skip_bind,
    kindAt_bind, if_neg (not_not_intro (typeSeen.trans typeKind)), take_bind]
  rfl

/-- Printed parameters are taken for a list of parameters. -/
theorem beginParameters_eq_true {parameters : List Parameter}
    (annotated : ∀ value ∈ parameters, value.annotation.isSome = true)
    (shows : before.Shows (Symbol.separated (parameters.map Parameter.symbols)) after)
    (closes : after.kindAt 0 = .closing .round) :
    beginParameters (before.kindAt 0) (before.kindAt 1) = true := by
  cases parameters with
  | nil =>
    obtain rfl : before = after := shows
    rw [closes, beginParameters]
  | cons value others =>
    obtain ⟨text, annotation⟩ := value
    obtain ⟨type, rfl⟩ := Option.isSome_iff_exists.mp (annotated _ List.mem_cons_self)
    obtain ⟨middle, first, _⟩ := Cursor.shows_append.mp shows
    obtain ⟨⟨nameKind, _⟩, nameSeen, rest⟩ := Cursor.Shows.head first
    obtain ⟨colonKind, colonSeen, _⟩ := rest.head
    have colon : before.kindAt 1 = .colon := by
      rw [← Cursor.kindAt_next]
      exact colonSeen.trans colonKind
    rw [nameSeen.trans nameKind, colon, beginParameters]

theorem readable_function {parameters : List Parameter} {body : Body}
    (annotated : ∀ value ∈ parameters, value.annotation.isSome = true)
    (readable : body.Readable) : (Expression.function parameters body).Readable := by
  apply readable_of_group rfl
  intro levels before after shows closes
  obtain ⟨middle, list, rest⟩ := Cursor.shows_append.mp shows
  obtain ⟨openSeen, closing, inside, closeSeen, behind⟩ := list.bracketed
  obtain ⟨arrowKind, arrowSeen, bodyShows⟩ := rest.head
  have ahead := beginParameters_eq_true annotated inside closeSeen
  rw [Cursor.kindAt_next, Cursor.kindAt_next] at ahead
  have listRead : Limited (∀ value ∈ parameters, True) (.ok parameters middle)
      ((enclosed .round fun _ => parameter).run before) := by
    refine limited_enclosed (fun _ _ => reads_parameter) ?_ ?_ list
    · intro value member before after shows closes
      obtain ⟨text, annotation⟩ := value
      obtain ⟨type, rfl⟩ := Option.isSome_iff_exists.mp (annotated _ member)
      obtain ⟨⟨nameKind, _⟩, nameSeen, _⟩ := Cursor.Shows.head shows
      simp [nameSeen, nameKind] at closes
    · intro value member opener before after shows follows
      exact Limited.of_eq (parameter_run (annotated value member) shows)
  apply limited_within_primary
  intro levels
  have bodyRead := readable levels middle.next after bodyShows (.inr (.inr closes))
  rw [primary_run_of_opening openSeen, ahead, if_pos rfl, function,
    bind_of_ok (listRead.within fun _ _ => trivial), kindAt_bind,
    if_neg (not_not_intro (arrowSeen.trans arrowKind)), skip_bind]
  exact bodyRead.andThen rfl

theorem readable_body_expression {expression : Expression} (readable : expression.Readable) :
    (Body.expression expression).Readable := by
  intro levels before after shows ends
  have begins := beginsExpression_grouped expression shows
  have read := readable.whole levels shows ends
  rw [body, kindAt_bind, if_neg (begins.kindAt_ne (by decide))]
  exact read.andThen rfl

/-! ### Statements and scopes -/

/-- A statement begins with an expression or with a curly bracket, if it is not the mark at the
end. -/
theorem kindAt_ne_of_statement {statement : Statement} {kind : Kind}
    (wellFormed : statement.wellFormed = true) (shows : before.Shows statement.symbols after)
    (never : kind ≠ .identifier ∧ kind.isLiteral = false ∧ kind ≠ .opening .round)
    (notCurly : kind ≠ .opening .curly) : before.kindAt 0 ≠ kind := by
  cases statement with
  | scope statements =>
    obtain ⟨middle, first, _⟩ := Cursor.shows_append.mp shows
    rw [(Cursor.Shows.bracketed first).1]
    exact notCurly.symm
  | assignment target value =>
    obtain ⟨⟨targetKind, _⟩, seen, _⟩ := Cursor.Shows.head shows
    rw [seen.trans targetKind]
    exact never.1.symm
  | expression expression =>
    obtain ⟨middle, first, _⟩ := Cursor.shows_append.mp shows
    exact (beginsExpression_grouped expression first).kindAt_ne never
  | endOfInput => simp [Statement.wellFormed] at wellFormed

theorem limited_statement {statement : Statement} {fits : Prop} {level : Level} {middle : Cursor}
    (wellFormed : statement.wellFormed = true) (shows : before.Shows statement.symbols after)
    (bare : Limited fits (.ok statement middle) ((bareStatement level).run before))
    (ends : middle.Shows [.semicolon] after) :
    Limited fits (.ok (some statement) after) ((Parse.statement level).run before) := by
  have notEmpty : before.kindAt 0 ≠ .semicolon :=
    kindAt_ne_of_statement wellFormed shows (by decide) (by decide)
  obtain ⟨kind, seen, rest⟩ := ends.head
  obtain rfl : middle.next = after := rest
  rw [Parse.statement, accept_bind, if_neg notEmpty]
  refine bare.andThen ?_
  rw [accept_bind, if_pos (seen.trans kind)]
  rfl

/-- A statement that begins with an expression and ends behind it is that expression. -/
theorem bareStatement_run_of_expression {level : Level}
    (begins : BeginsExpression before after) (semicolon : after.kindAt 0 = .semicolon) :
    (bareStatement level).run before =
      (Parse.expression level >>= fun inner => pure (Statement.expression inner)).run before := by
  rw [bareStatement, kindAt_bind]
  cases begins with
  | name first second =>
    have notColon : before.kindAt 1 ≠ .colon := by
      rcases second with seen | seen | seen <;> simp [seen, semicolon]
    rw [first]
    simp only
    rw [kindAt_bind, if_neg notColon]
  | literal first =>
    generalize before.kindAt 0 = kind at first
    cases kind <;> simp [Kind.isLiteral] at first <;> rfl
  | group first => rw [first]

theorem readable_statement_expression {expression : Expression}
    (wellFormed : expression.wellFormed = true) (readable : expression.Readable) :
    (Statement.expression expression).Readable := by
  intro levels before after shows
  obtain ⟨middle, symbols, ends⟩ := Cursor.shows_append.mp shows
  obtain ⟨kind, seen, _⟩ := ends.head
  have semicolon : middle.kindAt 0 = .semicolon := seen.trans kind
  have read := readable.whole levels symbols (.inl semicolon)
  refine limited_statement wellFormed shows ?_ ends
  rw [bareStatement_run_of_expression (beginsExpression_grouped expression symbols) semicolon]
  exact read.andThen rfl

theorem readable_statement_assignment (target : String) {value : Expression}
    (wellFormed : value.wellFormed = true) (readable : value.Readable) :
    (Statement.assignment target value).Readable := by
  intro levels before after shows
  obtain ⟨middle, symbols, ends⟩ := Cursor.shows_append.mp shows
  obtain ⟨kind, seen, _⟩ := ends.head
  obtain ⟨⟨targetKind, rfl⟩, targetSeen, rest⟩ := Cursor.Shows.head symbols
  obtain ⟨colonKind, colonSeen, valueShows⟩ := rest.head
  have named : (expect .identifier).run before = .ok before.token before.next :=
    expect_eq_ok_iff.mpr ⟨targetSeen.trans targetKind, rfl, rfl⟩
  have colon : (expect .colon).run before.next = .ok before.next.token before.next.next :=
    expect_eq_ok_iff.mpr ⟨colonSeen.trans colonKind, rfl, rfl⟩
  have second : before.kindAt 1 = .colon := by
    rw [← Cursor.kindAt_next]
    exact colonSeen.trans colonKind
  have semicolon : middle.kindAt 0 = .semicolon := seen.trans kind
  have read := readable.whole levels valueShows (.inl semicolon)
  refine limited_statement wellFormed shows ?_ ends
  rw [bareStatement, kindAt_bind, targetSeen.trans targetKind]
  simp only
  rw [kindAt_bind, if_pos second, assignment, bind_of_ok named, bind_of_ok colon]
  exact read.andThen rfl

/-- Statements are read one after the other up to a place where they have ended. -/
theorem limited_statementsUntil {statements : List Statement} {ended : Parse Bool}
    (peeks : Peeks ended)
    (readable : ∀ statement ∈ statements, statement.Readable)
    (goesOn : ∀ statement ∈ statements, ∀ before after,
      Cursor.Shows before statement.symbols after → ended.run before = .ok false before)
    (stops : ended.run after = .ok true after) (levels : Nat)
    (shows : before.Shows (Statement.symbolsOfAll statements) after) :
    Limited (Statement.levelsOfAll statements ≤ levels) (.ok statements after)
      ((statementsUntil (Level.within levels) ended).run before) := by
  let part (value : Option Statement) : List Symbol := value.toList.flatMap Statement.symbols
  have parts : Statement.symbolsOfAll statements = (statements.map some).flatMap part := by
    rw [Statement.symbolsOfAll_eq_flatMap, List.flatMap_map]
    congr 1
    funext statement
    simp [part]
  have rounds : Limited (∀ value ∈ statements.map some, ∀ statement ∈ value,
      statement.levels ≤ levels) (.ok (statements.map some) after)
      ((many (statementUnless (Level.within levels) ended)).run before) := by
    apply limited_many part (fun _ => True)
      (progresses_statementUnless (Level.reads_derivations levels) peeks)
    · exact fun _ _ _ _ => trivial
    · intro value listed before after shows _
      obtain ⟨statement, member, rfl⟩ := List.mem_map.mp listed
      have shown : before.Shows statement.symbols after := by simpa [part] using shows
      have read := readable statement member levels before after shown
      have more := goesOn statement member before after shown
      rw [statementUnless, bind_of_ok more, if_neg (by simp)]
      refine Limited.congr ?_ (read.andThen rfl)
      simp
    · exact trivial
    · rw [statementUnless, bind_of_ok stops]
      rfl
    · rwa [← parts]
  have found : (pure ((statements.map some).filterMap id) : Parse (List Statement)).run after =
      .ok statements after := by
    simp [List.filterMap_map]
  rw [statementsUntil_eq_many]
  refine Limited.congr ?_ (rounds.andThen found)
  rw [Statement.levelsOfAll_le_iff]
  simp

theorem limited_scope {statements : List Statement}
    (wellFormed : Statement.allWellFormed statements = true)
    (readable : ∀ statement ∈ statements, statement.Readable) (levels : Nat)
    (shows : before.Shows (Symbol.bracketed .curly (Statement.symbolsOfAll statements)) after) :
    Limited (Statement.levelsOfAll statements + 1 ≤ levels) (.ok statements after)
      ((Level.within levels).scope.run before) := by
  obtain ⟨openSeen, closing, inner, closeSeen, rfl⟩ := shows.bracketed
  have opened : (expect (.opening .curly)).run before = .ok before.token before.next :=
    expect_eq_ok_iff.mpr ⟨openSeen, rfl, rfl⟩
  apply limited_within_scope
  intro levels
  rw [Parse.scope, bind_of_ok opened]
  refine Limited.andThen
    (limited_statementsUntil (peeks_scopeEnds _) readable ?_ ?_ levels inner) ?_
  · intro statement member before after shows
    have statementFormed := Statement.allWellFormed_iff.mp wellFormed statement member
    have notCloser : before.kindAt 0 ≠ .closing .curly :=
      kindAt_ne_of_statement statementFormed shows (by decide) (by decide)
    have notEnd : before.kindAt 0 ≠ .endOfInput :=
      kindAt_ne_of_statement statementFormed shows (by decide) (by decide)
    rw [scopeEnds_run, if_neg notCloser, if_neg notEnd]
  · rw [scopeEnds_run, if_pos closeSeen]
  · rfl

theorem readable_scope {statements : List Statement}
    (wellFormed : Statement.allWellFormed statements = true)
    (readable : ∀ statement ∈ statements, statement.Readable) :
    (Expression.scope statements).Readable := by
  apply readable_of_group rfl
  intro levels before after shows closes
  apply limited_within_primary
  intro levels
  have read := limited_scope wellFormed readable levels shows
  rw [Parse.primary, kindAt_bind, (Cursor.Shows.bracketed shows).1]
  exact read.andThen rfl

theorem readable_body_scope {statements : List Statement}
    (wellFormed : Statement.allWellFormed statements = true)
    (readable : ∀ statement ∈ statements, statement.Readable) :
    (Body.scope statements).Readable := by
  intro levels before after shows ends
  have read := limited_scope wellFormed readable levels shows
  rw [body, kindAt_bind, if_pos (Cursor.Shows.bracketed shows).1]
  exact read.andThen rfl

theorem readable_statement_scope {statements : List Statement}
    (wellFormed : Statement.allWellFormed statements = true)
    (readable : ∀ statement ∈ statements, statement.Readable) :
    (Statement.scope statements).Readable := by
  intro levels before after shows
  obtain ⟨middle, symbols, ends⟩ := Cursor.shows_append.mp shows
  have read := limited_scope wellFormed readable levels symbols
  refine limited_statement wellFormed shows ?_ ends
  rw [bareStatement, kindAt_bind, (Cursor.Shows.bracketed symbols).1]
  exact read.andThen rfl

end Parse

/-! ### Every tree -/

mutual

/-- Every well-formed expression is read back. -/
theorem Expression.readable (expression : Expression) (wellFormed : expression.wellFormed = true) :
    expression.Readable := by
  match expression with
  | .name text => exact readable_name text
  | .literal value => exact readable_literal value
  | .array elements => exact readable_array elements
  | .call callee arguments =>
    exact readable_call callee (Body.readable_of_all arguments wellFormed)
  | .function parameters body =>
    rw [Expression.wellFormed, Bool.and_eq_true, List.all_eq_true] at wellFormed
    exact readable_function wellFormed.1 (Body.readable body wellFormed.2)
  | .binary left operator right =>
    rw [Expression.wellFormed, Bool.and_eq_true] at wellFormed
    exact readable_binary operator (Expression.readable left wellFormed.1)
      (Expression.readable right wellFormed.2)
  | .scope statements =>
    exact readable_scope wellFormed (Statement.readable_of_all statements wellFormed)

theorem Body.readable (body : Body) (wellFormed : body.wellFormed = true) : body.Readable := by
  match body with
  | .expression expression =>
    exact readable_body_expression (Expression.readable expression wellFormed)
  | .scope statements =>
    exact readable_body_scope wellFormed (Statement.readable_of_all statements wellFormed)

theorem Body.readable_of_all (bodies : List Body) (wellFormed : Body.allWellFormed bodies = true) :
    ∀ body ∈ bodies, body.Readable := by
  match bodies with
  | [] => simp
  | body :: bodies =>
    rw [Body.allWellFormed, Bool.and_eq_true] at wellFormed
    exact List.forall_mem_cons.mpr
      ⟨Body.readable body wellFormed.1, Body.readable_of_all bodies wellFormed.2⟩

theorem Statement.readable (statement : Statement) (wellFormed : statement.wellFormed = true) :
    statement.Readable := by
  match statement with
  | .scope statements =>
    exact readable_statement_scope wellFormed (Statement.readable_of_all statements wellFormed)
  | .assignment target value =>
    exact readable_statement_assignment target wellFormed (Expression.readable value wellFormed)
  | .expression expression =>
    exact readable_statement_expression wellFormed (Expression.readable expression wellFormed)
  | .endOfInput => simp [Statement.wellFormed] at wellFormed

theorem Statement.readable_of_all (statements : List Statement)
    (wellFormed : Statement.allWellFormed statements = true) :
    ∀ statement ∈ statements, statement.Readable := by
  match statements with
  | [] => simp
  | statement :: statements =>
    rw [Statement.allWellFormed, Bool.and_eq_true] at wellFormed
    exact List.forall_mem_cons.mpr
      ⟨Statement.readable statement wellFormed.1, Statement.readable_of_all statements wellFormed.2⟩

end

end Kite
