import Kite.Proofs.Grammar.Rules
import Mathlib.Data.List.Forall2

/-!
# Only kinds and texts of tokens matter

Two cursors are alike if their tokens are, one by one, under a relation of tokens that have
the same kind and the same text. Every rule of the parser does the same before alike cursors
(`Parse.Alike`): it answers the same value, or it fails for the same cause with alike
tokens, and the cursors that it leaves are alike. `Level.alike_within` shows this for every
number of levels. Sequences of alike tokens have alike cursors before them
(`Cursor.alike_ofTokens`).
-/

set_option autoImplicit false

namespace Kite

/-- A relation of tokens of the same kind and the same text. -/
structure Token.Likeness (alike : Token → Token → Prop) : Prop where
  kind : ∀ {first second : Token}, alike first second → first.kind = second.kind
  lexeme : ∀ {first second : Token}, alike first second → first.lexeme = second.lexeme

/-- Cursors with alike tokens ahead. -/
structure Cursor.Alike (alike : Token → Token → Prop) (first second : Cursor) : Prop where
  rest : List.Forall₂ alike first.rest second.rest
  stop : alike first.stop second.stop

/-- Errors of the same cause with alike tokens. -/
structure GrammarError.Alike (alike : Token → Token → Prop) (first second : GrammarError) :
    Prop where
  cause : first.cause = second.cause
  tokens : List.Forall₂ alike first.tokens second.tokens

/-- Results that agree in their values or errors and leave alike cursors. -/
inductive Parse.ResultAlike {α β : Type} (alike : Token → Token → Prop) (values : α → β → Prop) :
    EStateM.Result GrammarError Cursor α → EStateM.Result GrammarError Cursor β → Prop where
  | ok {value : α} {other : β} {first second : Cursor} (agree : values value other)
      (cursors : first.Alike alike second) :
      ResultAlike alike values (.ok value first) (.ok other second)
  | error {error other : GrammarError} {first second : Cursor} (errors : error.Alike alike other)
      (cursors : first.Alike alike second) :
      ResultAlike alike values (.error error first) (.error other second)

/-- Actions that do the same before alike cursors. -/
def Parse.Alike {α β : Type} (alike : Token → Token → Prop) (values : α → β → Prop)
    (first : Parse α) (second : Parse β) : Prop :=
  ∀ before other : Cursor, before.Alike alike other →
    ResultAlike alike values (first.run before) (second.run other)

variable {alike : Token → Token → Prop}

namespace Cursor.Alike

variable {first second : Cursor}

theorem token (cursors : first.Alike alike second) : alike first.token second.token := by
  obtain ⟨firstRest, firstStop⟩ := first
  obtain ⟨secondRest, secondStop⟩ := second
  cases cursors.rest with
  | nil => exact cursors.stop
  | cons token _ => exact token

theorem next (cursors : first.Alike alike second) : first.next.Alike alike second.next := by
  obtain ⟨firstRest, firstStop⟩ := first
  obtain ⟨secondRest, secondStop⟩ := second
  refine ⟨?_, cursors.stop⟩
  cases cursors.rest with
  | nil => exact .nil
  | cons _ rest => exact rest

theorem kindAt (likeness : Token.Likeness alike) (cursors : first.Alike alike second)
    (distance : Nat) : first.kindAt distance = second.kindAt distance := by
  have rest := cursors.rest
  unfold Cursor.kindAt
  generalize first.rest = tokens at rest
  generalize second.rest = others at rest
  induction rest generalizing distance with
  | nil => rfl
  | cons token _ ih =>
    cases distance with
    | zero => exact likeness.kind token
    | succ distance => simpa using ih distance

end Cursor.Alike

namespace Parse

variable {α β γ δ : Type} {values : α → β → Prop} {results : γ → δ → Prop}

/-! ## Actions -/

theorem alike_pure {value : α} {other : β} (agree : values value other) :
    Alike alike values (pure value) (pure other) :=
  fun _ _ cursors => .ok agree cursors

theorem Alike.bind {first : Parse α} {second : Parse β} {next : α → Parse γ} {onward : β → Parse δ}
    (one : Alike alike values first second)
    (two : ∀ value other, values value other → Alike alike results (next value) (onward other)) :
    Alike alike results (first >>= next) (second >>= onward) := by
  intro before other cursors
  rw [EStateM.run_bind, EStateM.run_bind]
  have answers := one before other cursors
  generalize first.run before = answer at answers
  generalize second.run other = answerOther at answers
  cases answers with
  | ok agree cursors => exact two _ _ agree _ _ cursors
  | error errors cursors => exact .error errors cursors

/-- The case of equal values, which is that of every action that answers no token. -/
theorem Alike.bindEq {first second : Parse α} {next : α → Parse γ} {onward : α → Parse δ}
    (one : Alike alike Eq first second)
    (two : ∀ value, Alike alike results (next value) (onward value)) :
    Alike alike results (first >>= next) (second >>= onward) :=
  one.bind fun value _ same => same ▸ two value

theorem Alike.map {first second : Parse α} (one : Alike alike Eq first second) (result : α → γ) :
    Alike alike Eq (first >>= fun value => pure (result value))
      (second >>= fun value => pure (result value)) :=
  one.bindEq fun _ => alike_pure rfl

theorem Alike.ite {first second : Parse α} {firstElse secondElse : Parse α} {condition : Prop}
    [Decidable condition] (yes : Alike alike Eq first second)
    (no : Alike alike Eq firstElse secondElse) :
    Alike alike Eq (if condition then first else firstElse)
      (if condition then second else secondElse) := by
  split
  · exact yes
  · exact no

theorem alike_kindAt (likeness : Token.Likeness alike) (distance : Nat) :
    Alike alike Eq (kindAt distance) (kindAt distance) :=
  fun _ _ cursors => .ok (cursors.kindAt likeness distance) cursors

theorem alike_current : Alike alike alike current current :=
  fun _ _ cursors => .ok cursors.token cursors

theorem alike_take : Alike alike alike take take :=
  fun _ _ cursors => .ok cursors.token cursors.next

theorem alike_skip : Alike alike Eq skip skip :=
  fun _ _ cursors => .ok rfl cursors.next

theorem alike_failWith (cause : GrammarError.Cause) {tokens others : List Token}
    (same : List.Forall₂ alike tokens others) :
    Alike alike values (failWith cause tokens) (failWith cause others) :=
  fun _ _ cursors => .error ⟨rfl, same⟩ cursors

theorem alike_fail (cause : GrammarError.Cause) :
    Alike alike values (fail cause) (fail cause) :=
  fun _ _ cursors => .error ⟨rfl, .cons cursors.token .nil⟩ cursors

theorem alike_failSince (cause : GrammarError.Cause) {earlier other : Token}
    (same : alike earlier other) :
    Alike alike values (failSince cause earlier) (failSince cause other) :=
  fun _ _ cursors => .error ⟨rfl, .cons cursors.token (.cons same .nil)⟩ cursors

section Reading

variable (likeness : Token.Likeness alike)

include likeness

theorem alike_accept (kind : Kind) : Alike alike Eq (accept kind) (accept kind) :=
  (alike_kindAt likeness 0).bindEq fun _ => .ite (alike_skip.map fun _ => true) (alike_pure rfl)

theorem alike_expect (kind : Kind) : Alike alike alike (expect kind) (expect kind) := by
  refine (alike_kindAt likeness 0).bindEq fun seen => ?_
  split
  · exact alike_take
  · exact alike_fail _

theorem alike_close (shape : Bracket) {opener other : Token} (same : alike opener other) :
    Alike alike Eq (close shape opener) (close shape other) :=
  (alike_kindAt likeness 0).bindEq fun _ =>
    .ite alike_skip (.ite (alike_failSince _ same) (alike_failSince _ same))

end Reading

theorem alike_manyWithin {item other : Parse (Option α)} (same : Alike alike Eq item other)
    {rounds others : List Token} (length : rounds.length = others.length) :
    Alike alike Eq (manyWithin item rounds) (manyWithin other others) := by
  induction rounds generalizing others with
  | nil =>
    obtain rfl := List.length_eq_zero_iff.mp length.symm
    exact alike_pure rfl
  | cons token rounds ih =>
    cases others with
    | nil => simp at length
    | cons otherToken others =>
      refine same.bindEq fun answer => ?_
      cases answer with
      | none => exact alike_pure rfl
      | some value => exact (ih (by simpa using length)).map (value :: ·)

theorem alike_many {item other : Parse (Option α)} (same : Alike alike Eq item other) :
    Alike alike Eq (many item) (many other) := by
  intro before otherBefore cursors
  have length : (before.stop :: before.rest).length =
      (otherBefore.stop :: otherBefore.rest).length := by
    simp [cursors.rest.length_eq]
  exact alike_manyWithin same length before otherBefore cursors

section Rules

variable (likeness : Token.Likeness alike)

include likeness

theorem alike_separated {item other : Parse α} (same : Alike alike Eq item other) :
    Alike alike Eq (separated item) (separated other) := by
  have afterComma : Alike alike Eq
      (accept .comma >>= fun comma =>
        if comma then item >>= fun value => pure (some value) else pure none)
      (accept .comma >>= fun comma =>
        if comma then other >>= fun value => pure (some value) else pure none) :=
    (alike_accept likeness .comma).bindEq fun _ => .ite (same.map some) (alike_pure rfl)
  exact same.bindEq fun first => (alike_many afterComma).map (first :: ·)

theorem alike_enclosed (shape : Bracket) {item : Token → Parse α}
    (same : ∀ opener other, alike opener other → Alike alike Eq (item opener) (item other)) :
    Alike alike Eq (enclosed shape item) (enclosed shape item) := by
  rw [enclosed_eq_listed]
  refine (alike_expect likeness _).bind fun opener other openers => ?_
  have items : Alike alike Eq (listed shape (item opener)) (listed shape (item other)) :=
    (alike_kindAt likeness 0).bindEq fun _ =>
      .ite (alike_pure rfl) (alike_separated likeness (same opener other openers))
  exact items.bindEq fun values => (alike_close likeness shape openers).map fun _ => values

/-! ## Parts without brackets inside -/

theorem alike_literalValue {token other : Token} (same : alike token other) :
    Alike alike Eq (literalValue token) (literalValue other) := by
  have value : Literal.ofToken? token = Literal.ofToken? other := by
    unfold Literal.ofToken?
    rw [likeness.kind same, likeness.lexeme same]
  unfold literalValue
  rw [value]
  cases Literal.ofToken? other with
  | none => exact alike_failWith _ (.cons same .nil)
  | some value => exact alike_pure rfl

theorem alike_literal : Alike alike Eq literal literal :=
  alike_take.bind fun _ _ same => (alike_literalValue likeness same).map Expression.literal

theorem alike_name : Alike alike Eq name name :=
  alike_take.bind fun _ _ same => alike_pure (congrArg Expression.name (likeness.lexeme same))

theorem alike_element {opener other : Token} (openers : alike opener other) :
    Alike alike Eq (element opener) (element other) := by
  refine alike_current.bind fun token otherToken same => ?_
  have readsLiteral : Alike alike Eq
      (literalValue token >>= fun value => skip >>= fun _ => pure (Element.literal value))
      (literalValue otherToken >>= fun value => skip >>= fun _ => pure (Element.literal value)) :=
    (alike_literalValue likeness same).bindEq fun value =>
      alike_skip.map fun _ => Element.literal value
  refine (alike_kindAt likeness 0).bindEq fun kind => ?_
  cases kind with
  | identifier =>
    rw [likeness.lexeme same]
    exact alike_skip.map fun _ => Element.name otherToken.lexeme
  | number => exact readsLiteral
  | quoted style => exact readsLiteral
  | endOfInput => exact alike_failSince _ openers
  | _ => exact alike_fail _

theorem alike_parameter : Alike alike Eq parameter parameter := by
  refine (alike_kindAt likeness 0).bindEq fun _ => .ite (alike_fail _) ?_
  refine alike_take.bind fun name otherName names => ?_
  refine (alike_kindAt likeness 0).bindEq fun _ => .ite (alike_failSince _ names) ?_
  refine alike_skip.bindEq fun _ => ?_
  refine (alike_kindAt likeness 0).bindEq fun _ => .ite (alike_failSince _ names) ?_
  refine alike_take.bind fun annotation otherAnnotation annotations => alike_pure ?_
  rw [likeness.lexeme names, likeness.lexeme annotations]

theorem alike_parametersAhead : Alike alike Eq parametersAhead parametersAhead := by
  refine (alike_kindAt likeness 1).bindEq fun second => ?_
  refine (alike_kindAt likeness 2).bindEq fun third => ?_
  split <;> exact alike_pure rfl

end Rules

end Parse

/-! ## Rules of a level -/

/-- The primaries and the scopes of a level do the same before alike cursors. -/
structure Level.Alike (alike : Token → Token → Prop) (level : Level) : Prop where
  primary : Parse.Alike alike Eq level.primary level.primary
  scope : Parse.Alike alike Eq level.scope level.scope

namespace Parse

variable {level : Level} (likeness : Token.Likeness alike) (inner : level.Alike alike)

include likeness inner

theorem alike_operation : Alike alike Eq (operation level) (operation level) := by
  have operates : Alike alike Eq
      (take >>= fun operator => level.primary >>= fun right => pure (some (operator.lexeme, right)))
      (take >>= fun operator =>
        level.primary >>= fun right => pure (some (operator.lexeme, right))) := by
    refine alike_take.bind fun operator other same => ?_
    rw [likeness.lexeme same]
    exact inner.primary.map fun right => some (other.lexeme, right)
  refine (alike_kindAt likeness 0).bindEq fun kind => ?_
  cases kind with
  | operator => exact operates
  | hyphen => exact operates
  | _ => exact alike_pure rfl

theorem alike_expression : Alike alike Eq (expression level) (expression level) :=
  inner.primary.bindEq fun _ => (alike_many (alike_operation likeness inner)).map _

theorem alike_body : Alike alike Eq (body level) (body level) :=
  (alike_kindAt likeness 0).bindEq fun _ => .ite (inner.scope.map Body.scope)
    ((alike_expression likeness inner).map Body.expression)

theorem alike_argument {opener other : Token} (openers : alike opener other) :
    Alike alike Eq (argument level opener) (argument level other) :=
  (alike_kindAt likeness 0).bindEq fun _ =>
    .ite (alike_failSince _ openers) (alike_body likeness inner)

theorem alike_call : Alike alike Eq (call level) (call level) := by
  refine (alike_expect likeness _).bind fun callee other same => ?_
  rw [likeness.lexeme same]
  exact (alike_enclosed likeness .round fun _ _ => alike_argument likeness inner).map
    (Expression.call other.lexeme)

theorem alike_function : Alike alike Eq (function level) (function level) := by
  refine (alike_enclosed likeness .round fun _ _ _ => alike_parameter likeness).bindEq
    fun parameters => ?_
  refine (alike_kindAt likeness 0).bindEq fun _ => .ite (alike_fail _) ?_
  exact alike_skip.bindEq fun _ =>
    (alike_body likeness inner).map (Expression.function parameters)

theorem alike_group : Alike alike Eq (group level) (group level) := by
  refine alike_take.bind fun opener other openers => ?_
  refine (alike_expression likeness inner).bindEq fun expression => ?_
  refine (alike_close likeness .round openers).bindEq fun _ => ?_
  exact (alike_kindAt likeness 0).bindEq fun _ =>
    .ite (alike_failSince _ openers) (alike_pure rfl)

theorem alike_primary : Alike alike Eq (Parse.primary level) (Parse.primary level) := by
  refine (alike_kindAt likeness 0).bindEq fun kind => ?_
  cases kind with
  | opening shape =>
    cases shape with
    | round =>
      exact (alike_parametersAhead likeness).bindEq fun _ =>
        .ite (alike_function likeness inner) (alike_group likeness inner)
    | square =>
      exact (alike_enclosed likeness .square fun _ _ => alike_element likeness).map
        Expression.array
    | curly => exact inner.scope.map Expression.scope
  | identifier =>
    exact (alike_kindAt likeness 1).bindEq fun _ =>
      .ite (alike_call likeness inner) (alike_name likeness)
  | number => exact alike_literal likeness
  | quoted style => exact alike_literal likeness
  | _ => exact alike_fail _

/-! ## Statements -/

theorem alike_assignment : Alike alike Eq (assignment level) (assignment level) := by
  refine (alike_expect likeness _).bind fun target other same => ?_
  refine (alike_expect likeness _).bind fun _ _ _ => ?_
  rw [likeness.lexeme same]
  exact (alike_expression likeness inner).map (Statement.assignment other.lexeme)

theorem alike_bareStatement : Alike alike Eq (bareStatement level) (bareStatement level) := by
  have expression := (alike_expression likeness inner).map Statement.expression
  refine (alike_kindAt likeness 0).bindEq fun kind => ?_
  cases kind with
  | opening shape =>
    cases shape with
    | round => exact expression
    | square => exact alike_fail _
    | curly => exact inner.scope.map Statement.scope
  | identifier =>
    exact (alike_kindAt likeness 1).bindEq fun _ =>
      .ite (alike_assignment likeness inner) expression
  | number => exact expression
  | quoted style => exact expression
  | _ => exact alike_fail _

theorem alike_statement : Alike alike Eq (statement level) (statement level) := by
  refine (alike_accept likeness _).bindEq fun _ => .ite (alike_pure rfl) ?_
  refine (alike_bareStatement likeness inner).bindEq fun bare => ?_
  exact (alike_accept likeness _).map fun _ => some bare

theorem alike_statementsUntil {ended other : Parse Bool} (same : Alike alike Eq ended other) :
    Alike alike Eq (statementsUntil level ended) (statementsUntil level other) := by
  refine (alike_many ?_).map (List.filterMap id)
  exact same.bindEq fun _ =>
    .ite (alike_pure rfl) ((alike_statement likeness inner).map some)

theorem alike_scope : Alike alike Eq (Parse.scope level) (Parse.scope level) := by
  refine (alike_expect likeness _).bind fun opener other openers => ?_
  have ends : Alike alike Eq (scopeEnds opener) (scopeEnds other) := by
    refine (alike_kindAt likeness 0).bindEq fun kind => ?_
    split
    · exact alike_pure rfl
    · exact alike_failSince _ openers
    · exact alike_pure rfl
  refine (alike_statementsUntil likeness inner ends).bindEq fun statements => ?_
  exact alike_skip.map fun _ => statements

theorem alike_program : Alike alike Eq (Parse.program level) (Parse.program level) := by
  have ends : Alike alike Eq inputEnds inputEnds :=
    (alike_kindAt likeness 0).map fun kind => decide (kind = .endOfInput)
  exact (alike_statementsUntil likeness inner ends).map (· ++ [.endOfInput])

end Parse

/-- The rules of every level do the same before alike cursors. -/
theorem Level.alike_within (likeness : Token.Likeness alike) (levels : Nat) :
    (Level.within levels).Alike alike := by
  induction levels with
  | zero => exact ⟨Parse.alike_fail _, Parse.alike_fail _⟩
  | succ levels ih => exact ⟨Parse.alike_primary likeness ih, Parse.alike_scope likeness ih⟩

/-! ## Cursors before sequences -/

namespace Cursor

variable {tokens others : List Token} {stop otherStop : Token}

/-- Of alike visible tokens, those before the end are alike, and so are the end tokens. -/
theorem alike_of_visible (likeness : Token.Likeness alike) (same : List.Forall₂ alike tokens others)
    (stops : (∀ token ∈ tokens, token.kind ≠ .endOfInput) → alike stop otherStop) :
    let ends (token : Token) : Bool := token.kind = .endOfInput
    let goesOn (token : Token) : Bool := token.kind ≠ .endOfInput
    Alike alike { rest := tokens.takeWhile goesOn, stop := (tokens.find? ends).getD stop }
      { rest := others.takeWhile goesOn, stop := (others.find? ends).getD otherStop } := by
  intro ends goesOn
  induction same with
  | nil => exact ⟨.nil, stops (by simp)⟩
  | @cons token other tokens others here _ ih =>
    have kinds : token.kind = other.kind := likeness.kind here
    by_cases ended : token.kind = .endOfInput
    · have endedOther : other.kind = .endOfInput := kinds.symm.trans ended
      rw [List.takeWhile_cons_of_neg (by simp [goesOn, ended]),
        List.takeWhile_cons_of_neg (by simp [goesOn, endedOther]),
        List.find?_cons_of_pos (by simp [ends, ended]),
        List.find?_cons_of_pos (by simp [ends, endedOther])]
      exact ⟨.nil, here⟩
    · have unended : other.kind ≠ .endOfInput := fun again => ended (kinds.trans again)
      rw [List.takeWhile_cons_of_pos (by simp [goesOn, ended]),
        List.takeWhile_cons_of_pos (by simp [goesOn, unended]),
        List.find?_cons_of_neg (by simp [ends, ended]),
        List.find?_cons_of_neg (by simp [ends, unended])]
      have behind := ih fun plain => stops (List.forall_mem_cons.mpr ⟨ended, plain⟩)
      exact ⟨.cons here behind.rest, behind.stop⟩

theorem alike_ofTokens (likeness : Token.Likeness alike) (same : List.Forall₂ alike tokens others)
    (stops : (∀ token ∈ tokens, token.kind ≠ .endOfInput) →
      alike (missingStop (tokens.filter fun token => token.kind ≠ .comment))
        (missingStop (others.filter fun token => token.kind ≠ .comment))) :
    (ofTokens tokens).Alike alike (ofTokens others) := by
  refine alike_of_visible likeness (List.rel_filter ?_ same) fun plain => stops ?_
  · intro token other here
    simp [likeness.kind here]
  · intro token member ended
    exact plain token (List.mem_filter.mpr ⟨member, by simp [ended]⟩) ended

end Cursor

/-! ## Whole programs -/

/-- Replacing tokens by tokens of the same kind and the same text changes nothing but the tokens of
an error. -/
theorem parseTokens_map {image : Token → Token}
    (likeness : Token.Likeness fun token other => image token = other)
    {tokens : List Token} (ended : ∃ token ∈ tokens, token.kind = .endOfInput) :
    parseTokens (tokens.map image) =
      (parseTokens tokens).mapError fun error =>
        { error with tokens := error.tokens.map image } := by
  have cursors : (Cursor.ofTokens tokens).Alike (fun token other => image token = other)
      (Cursor.ofTokens (tokens.map image)) := by
    apply Cursor.alike_ofTokens likeness
    · simp [List.forall₂_map_right_iff, List.forall₂_same]
    · intro plain
      obtain ⟨token, member, ends⟩ := ended
      exact absurd ends (plain token member)
  have results := Parse.alike_program likeness (Level.alike_within likeness nestingLimit) _ _
    cursors
  unfold parseTokens
  simp only [EStateM.run] at results
  generalize Parse.program (Level.within nestingLimit) _ = result at results
  generalize Parse.program (Level.within nestingLimit) _ = other at results
  cases results with
  | ok same cursors => exact congrArg Except.ok same.symm
  | @error error other _ _ errors cursors =>
    obtain ⟨cause, tokens⟩ := error
    obtain ⟨otherCause, otherTokens⟩ := other
    obtain ⟨rfl, same⟩ := errors
    have image : tokens.map image = otherTokens := by
      rw [← List.forall₂_eq_eq_eq, List.forall₂_map_left_iff]
      exact same
    rw [← image]
    rfl

end Kite
