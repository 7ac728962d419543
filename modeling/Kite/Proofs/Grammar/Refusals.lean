import Kite.Proofs.Grammar.Blame

/-!
# Where tokens are refused

`Refusal` lists the ways in which reading can fail, each with what is known about the place:
the token under the cursor, the tokens passed before it and the bracket that is open there.
An action explains its failures (`Parse.Explains`) if each of them is listed, and if its
success leads to the place from which the next part is explained. Two things are kept
account of from place to place: no call is missed, so a round bracket behind a name is that
of a call, and behind a whole operand no comma and no opening bracket is left over.
`refusal_of_parseTokens` finds every failure of the parser in the list.
-/

set_option autoImplicit false

namespace Kite

/-! ## Places -/

/-- The kind of the last of the tokens. -/
def lastKind? (tokens : List Token) : Option Kind :=
  tokens.getLast?.map Token.kind

theorem lastKind?_concat {tokens : List Token} {token : Token} {kind : Kind}
    (itsKind : token.kind = kind) : lastKind? (tokens ++ [token]) = some kind := by
  simp [lastKind?, itsKind]

theorem exists_of_lastKind? {tokens : List Token} {kind : Kind}
    (last : lastKind? tokens = some kind) :
    ∃ before token, tokens = before ++ [token] ∧ token.kind = kind := by
  obtain ⟨token, found, itsKind⟩ := Option.map_eq_some_iff.mp last
  obtain ⟨before, rfl⟩ := List.getLast?_eq_some_iff.mp found
  exact ⟨before, token, rfl, itsKind⟩

/-- Whether an item or a statement inside brackets may begin behind a token of this kind. -/
def Kind.beginsItem : Kind → Bool
  | .comma | .opening _ => true
  | _ => false

/-- No item or statement inside brackets is due to begin behind the tokens. -/
def Settled (tokens : List Token) : Prop :=
  ∀ kind ∈ lastKind? tokens, kind.beginsItem = false

theorem settled_of_lastKind? {tokens : List Token} {kind : Kind}
    (last : lastKind? tokens = some kind) (inner : kind.beginsItem = false) : Settled tokens := by
  simpa [Settled, last] using inner

/-- The bracket stands behind the tokens `outside`, and the tokens after it close every bracket that
they open. -/
def Token.StandsOpen (opener : Token) (outside passed : List Token) : Prop :=
  ∃ inside, passed = outside ++ opener :: inside ∧ openBrackets? inside = some []

theorem openBrackets?_append {tokens : List Token} (closed : openBrackets? tokens = some [])
    (others : List Token) : openBrackets? (tokens ++ others) = openBrackets? others := by
  have same : List.foldlM Token.follow? [] tokens = some [] := closed
  simp [openBrackets?, List.foldlM_append, same]

theorem Token.standsOpen_self (opener : Token) (outside : List Token) :
    opener.StandsOpen outside (outside ++ [opener]) :=
  ⟨[], rfl, rfl⟩

theorem Token.StandsOpen.append {opener : Token} {outside passed seen : List Token}
    (stands : opener.StandsOpen outside passed) (closed : openBrackets? seen = some []) :
    opener.StandsOpen outside (passed ++ seen) := by
  obtain ⟨inside, rfl, balanced⟩ := stands
  exact ⟨inside ++ seen, by simp, by rw [openBrackets?_append balanced, closed]⟩

namespace Cursor

variable {cursor : Cursor} {behind : List Token}

/-- The cursor does not stand between a name and the bracket of its call. -/
def Uncalled (cursor : Cursor) (behind : List Token) : Prop :=
  cursor.kindAt 0 = .opening .round → lastKind? behind ≠ some .identifier

/-- The cursor stands where an operand is due. If the input ends here inside brackets of which no
item has begun, then they are those of a group. -/
structure AwaitsOperand (cursor : Cursor) (behind : List Token) : Prop where
  uncalled : cursor.Uncalled behind
  ending : cursor.kindAt 0 = .endOfInput → ∀ outside last, behind = outside ++ [last] →
    last.kind.beginsItem = true →
      last.kind = .opening .round ∧ lastKind? outside ≠ some .identifier

/-- The cursor stands behind an operand or a statement. -/
structure PastOperand (cursor : Cursor) (behind : List Token) : Prop where
  uncalled : cursor.Uncalled behind
  settled : Settled behind

theorem uncalled_of_lastKind? {kind : Kind} (last : lastKind? behind = some kind)
    (notName : kind ≠ .identifier) : cursor.Uncalled behind := by
  intro _ named
  exact notName (Option.some.inj (last.symm.trans named))

theorem pastOperand_of_lastKind? {kind : Kind} (last : lastKind? behind = some kind)
    (notName : kind ≠ .identifier) (inner : kind.beginsItem = false) :
    cursor.PastOperand behind :=
  ⟨uncalled_of_lastKind? last notName, settled_of_lastKind? last inner⟩

theorem pastOperand_concat {token : Token} {kind : Kind} (itsKind : token.kind = kind)
    (notName : kind ≠ .identifier) (inner : kind.beginsItem = false) :
    cursor.PastOperand (behind ++ [token]) :=
  pastOperand_of_lastKind? (lastKind?_concat itsKind) notName inner

theorem Uncalled.awaitsOperand (uncalled : cursor.Uncalled behind)
    (notEnd : cursor.kindAt 0 ≠ .endOfInput) : cursor.AwaitsOperand behind :=
  ⟨uncalled, fun ended => absurd ended notEnd⟩

theorem PastOperand.awaitsOperand (past : cursor.PastOperand behind) :
    cursor.AwaitsOperand behind := by
  refine ⟨past.uncalled, fun _ outside last same begins => ?_⟩
  subst same
  simp [past.settled last.kind (lastKind?_concat rfl)] at begins

end Cursor

/-! ## The ways to fail -/

/-- The ways in which reading fails at a cursor behind the passed tokens. -/
inductive Refusal (passed : List Token) (cursor : Cursor) : GrammarError → Prop where
  | statement (notEnd : cursor.kindAt 0 ≠ .endOfInput) :
      Refusal passed cursor { cause := .unrecognizedStatement, tokens := [cursor.token] }
  | primary (awaits : cursor.AwaitsOperand passed) :
      Refusal passed cursor { cause := .unrecognizedPrimary, tokens := [cursor.token] }
  | tooDeep : Refusal passed cursor { cause := .nestingTooDeep, tokens := [cursor.token] }
  | number {token : Token} (member : token ∈ passed ++ [cursor.token])
      (kind : token.kind.isLiteral = true) (valueless : Literal.ofToken? token = none) :
      Refusal passed cursor { cause := .invalidNumber, tokens := [token] }
  /-- The brackets are those of a call, an array or a scope, or their last item is whole. -/
  | unclosed {shape : Bracket} {outside : List Token} {opener : Token}
      (ended : cursor.kindAt 0 = .endOfInput) (opens : opener.kind = .opening shape)
      (stands : opener.StandsOpen outside passed)
      (place : (shape = .round → lastKind? outside = some .identifier) ∨ Settled passed) :
      Refusal passed cursor { cause := .unclosed shape, tokens := [cursor.token, opener] }
  | mismatched {shape : Bracket} {opener : Token} (notEnd : cursor.kindAt 0 ≠ .endOfInput) :
      Refusal passed cursor
        { cause := .expected (.closing shape), tokens := [cursor.token, opener] }
  | element (notEnd : cursor.kindAt 0 ≠ .endOfInput) :
      Refusal passed cursor { cause := .invalidElement, tokens := [cursor.token] }
  /-- The first parameter is there whenever a list of parameters begins. -/
  | parameter {outside : List Token} {opener : Token} (opens : opener.kind = .opening .round)
      (uncalled : lastKind? outside ≠ some .identifier) (stands : opener.StandsOpen outside passed)
      (later : lastKind? passed = some .comma) :
      Refusal passed cursor { cause := .malformedParameter, tokens := [cursor.token] }
  | untyped {name : Token} (begun : lastKind? passed = some .identifier ∨
      lastKind? passed = some .colon) :
      Refusal passed cursor { cause := .malformedParameter, tokens := [cursor.token, name] }
  | group {opener : Token} (arrow : cursor.kindAt 0 = .arrow) :
      Refusal passed cursor { cause := .malformedParameter, tokens := [cursor.token, opener] }
  | arrow (closed : lastKind? passed = some (.closing .round)) :
      Refusal passed cursor { cause := .expectedArrow, tokens := [cursor.token] }

/-! ## Actions that explain their failures -/

namespace Parse

variable {α β : Type} {behind seen : List Token} {before after : Cursor}

/-- Before an end token and behind the given tokens, success of the action leads to the given place,
and each failure is one of the ways to fail. -/
def Explains (action : Parse α) (behind : List Token) (before : Cursor)
    (leads : Cursor → List Token → Prop) : Prop :=
  before.stop.kind = .endOfInput →
    ∃ seen, before.Passes seen (cursorOf (action.run before)) ∧
      match action.run before with
      | .ok _ after => leads after (behind ++ seen)
      | .error error after => Refusal (behind ++ seen) after error

variable {leads middle : Cursor → List Token → Prop}

theorem Explains.of_ends {action : Parse α}
    (explains : before.stop.kind = .endOfInput → action.Explains behind before leads) :
    action.Explains behind before leads :=
  fun ends => explains ends ends

theorem Explains.of_run_eq {action other : Parse α} (same : action.run before = other.run before)
    (explains : other.Explains behind before leads) : action.Explains behind before leads := by
  unfold Explains
  rwa [same]

/-- An action may be followed from the place where it does what another one does. -/
theorem Explains.onward {action other : Parse α} (passes : before.Passes seen after)
    (same : action.run before = other.run after)
    (explains : other.Explains (behind ++ seen) after leads) :
    action.Explains behind before leads := by
  intro ends
  obtain ⟨more, passesMore, outcome⟩ := explains (passes.stop ▸ ends)
  refine ⟨seen ++ more, by rw [same]; exact passes.trans passesMore, ?_⟩
  rwa [same, ← List.append_assoc]

theorem Explains.bind {action : Parse α} {next : α → Parse β}
    (one : action.Explains behind before middle)
    (two : ∀ value after seen, action.run before = .ok value after → before.Passes seen after →
      middle after (behind ++ seen) → (next value).Explains (behind ++ seen) after leads) :
    (action >>= next).Explains behind before leads := by
  intro ends
  obtain ⟨seen, passes, outcome⟩ := one ends
  cases result : action.run before with
  | ok value after =>
    rw [result] at passes outcome
    exact Explains.onward passes (bind_of_ok result) (two value after seen result passes outcome) ends
  | error error after =>
    rw [result] at passes outcome
    exact ⟨seen, by rwa [bind_of_error result], by rwa [bind_of_error result]⟩

theorem explains_pure {value : α} (place : leads before behind) :
    (pure value : Parse α).Explains behind before leads :=
  fun _ => ⟨[], .refl before, by simpa using place⟩

theorem Explains.map {action : Parse α} (explains : action.Explains behind before leads)
    (result : α → β) :
    (action >>= fun value => pure (result value)).Explains behind before leads :=
  explains.bind fun _ _ _ _ _ place => explains_pure place

/-- More may be said of the place to which an action leads if it holds of each run. -/
theorem Explains.imp {action : Parse α} (explains : action.Explains behind before middle)
    (implies : ∀ value after seen, action.run before = .ok value after →
      before.Passes seen after → middle after (behind ++ seen) → leads after (behind ++ seen)) :
    action.Explains behind before leads := by
  intro ends
  obtain ⟨seen, passes, outcome⟩ := explains ends
  refine ⟨seen, passes, ?_⟩
  cases result : action.run before with
  | ok value after =>
    rw [result] at passes outcome
    exact implies value after seen result passes outcome
  | error error after =>
    rw [result] at outcome
    exact outcome

/-- Passing the token under the cursor, which is not the end token. -/
theorem Explains.step {action other : Parse α} {kind : Kind} (seen : before.kindAt 0 = kind)
    (notEnd : kind ≠ .endOfInput) (same : action.run before = other.run before.next)
    (onward : before.token.kind = kind →
      other.Explains (behind ++ [before.token]) before.next leads) :
    action.Explains behind before leads := by
  obtain ⟨passes, itsKind⟩ := Cursor.exists_of_kindAt seen notEnd
  exact .onward passes same (onward itsKind)

theorem explains_of_error {action : Parse α} {error : GrammarError}
    (failed : action.run before = .error error before) (refusal : Refusal behind before error) :
    action.Explains behind before leads :=
  fun _ => ⟨[], by rw [failed]; exact .refl before, by simpa [failed] using refusal⟩

/-- A token that is there is read. -/
theorem Explains.expect {kind : Kind} {next : Token → Parse β} (seen : before.kindAt 0 = kind)
    (explains : (take >>= next).Explains behind before leads) :
    (Parse.expect kind >>= next).Explains behind before leads := by
  have done := expect_eq_ok_iff.mpr ⟨seen, rfl, rfl⟩
  exact .of_run_eq ((bind_of_ok done).trans (take_bind next).symm) explains

/-! ### Repetition -/

theorem explains_manyWithin {item : Parse (Option α)} {place : Cursor → List Token → Prop}
    (explains : ∀ behind before, place before behind → item.Explains behind before place)
    (rounds : List Token) (start : place before behind) :
    (manyWithin item rounds).Explains behind before place := by
  induction rounds generalizing behind before with
  | nil => exact explains_pure start
  | cons token rounds ih =>
    refine (explains _ _ start).bind fun answer after _ _ _ place => ?_
    cases answer with
    | none => exact explains_pure place
    | some value => exact (ih place).map (value :: ·)

/-- Rounds that lead from the place to itself may be repeated. -/
theorem explains_many {item : Parse (Option α)} {place : Cursor → List Token → Prop}
    (explains : ∀ behind before, place before behind → item.Explains behind before place)
    (start : place before behind) : (many item).Explains behind before place := by
  have rounds : (many item).run before =
      (manyWithin item (before.stop :: before.rest)).run before := rfl
  exact .of_run_eq rounds (explains_manyWithin explains _ start)

/-! ### Lists in brackets -/

theorem explains_separated {item : Parse α} {place : Cursor → List Token → Prop}
    (first : item.Explains behind before place)
    (later : ∀ behind before, place before behind → before.token.kind = .comma →
      item.Explains (behind ++ [before.token]) before.next place) :
    (separated item).Explains behind before place := by
  rw [separated_eq_many]
  refine first.bind fun value _ _ _ _ start => (explains_many ?_ start).map (value :: ·)
  intro behind before start
  have decides : (afterComma item).run before =
      if before.kindAt 0 = .comma then (item >>= fun value => pure (some value)).run before.next
      else (pure none : Parse (Option α)).run before :=
    accept_bind .comma _
  by_cases comma : before.kindAt 0 = .comma
  · rw [if_pos comma] at decides
    exact .step comma (by simp) decides fun kind => (later _ _ start kind).map some
  · rw [if_neg comma] at decides
    exact .of_run_eq decides (explains_pure start)

/-- Behind a whole item, the input may not end and nothing but the closing bracket may follow. -/
theorem explains_close {opener : Token} {shape : Bracket} {outside : List Token}
    (opens : opener.kind = .opening shape) (stands : opener.StandsOpen outside behind)
    (place : before.kindAt 0 = .closing shape ∨ Settled behind) :
    (close shape opener).Explains behind before
      fun _ passed => lastKind? passed = some (.closing shape) := by
  refine .of_run_eq (kindAt_bind 0 _) ?_
  split
  next closed =>
    have same : skip.run before = (pure () : Parse Unit).run before.next := rfl
    exact .step closed (by simp) same fun kind => explains_pure (lastKind?_concat kind)
  next notClosed =>
    have settled := place.resolve_left notClosed
    split
    next ended =>
      exact explains_of_error (failSince_run _ _) (.unclosed ended opens stands (.inr settled))
    next notEnd => exact explains_of_error (failSince_run _ _) (.mismatched notEnd)

/-- An action that closes every bracket that it opens. -/
def Balances (action : Parse α) : Prop :=
  ∀ before value after seen, before.stop.kind = .endOfInput →
    action.run before = .ok value after → before.Passes seen after → openBrackets? seen = some []

theorem Keeps.balances {action : Parse α} (keeps : action.Keeps []) : action.Balances := by
  intro before value after seen ends done passes
  obtain ⟨tokens, through, outcome⟩ := keeps [] before ⟨rfl, ends⟩
  rw [done] at through outcome
  rw [passes.tokens_unique through]
  simpa using outcome.leave

/-- Behind the opening bracket and behind each comma an item has to be explained; the brackets then
lead behind the closing one. -/
theorem explains_enclosed {shape : Bracket} {item : Token → Parse α}
    (seen : before.kindAt 0 = .opening shape) (balances : ∀ opener, (item opener).Balances)
    (first : before.token.kind = .opening shape → before.next.kindAt 0 ≠ .closing shape →
      (item before.token).Explains (behind ++ [before.token]) before.next fun _ => Settled)
    (later : ∀ (opener : Token) inner (before : Cursor), opener.kind = .opening shape →
      opener.StandsOpen behind inner → lastKind? inner = some .comma →
        (item opener).Explains inner before fun _ => Settled) :
    (enclosed shape item).Explains behind before
      fun _ passed => lastKind? passed = some (.closing shape) := by
  rw [enclosed_eq_listed]
  refine .expect seen (.step seen (by simp) (take_bind _) fun opens => ?_)
  generalize opener_eq : before.token = opener at first opens ⊢
  have stands := opener.standsOpen_self behind
  -- items close what they open, so the bracket of the list stays the one that is open
  let place : Cursor → List Token → Prop := fun _ passed =>
    Settled passed ∧ opener.StandsOpen behind passed
  have inside : ∀ inner (start : Cursor), opener.StandsOpen behind inner →
      (item opener).Explains inner start (fun _ => Settled) →
        (item opener).Explains inner start place := by
    intro inner start stands explains
    refine .of_ends fun ends => explains.imp fun value after seen done passes settled => ?_
    exact ⟨settled, stands.append (balances opener _ _ _ _ ends done passes)⟩
  have items : (listed shape (item opener)).Explains (behind ++ [opener]) before.next
      fun after passed => (after.kindAt 0 = .closing shape ∨ Settled passed) ∧
        opener.StandsOpen behind passed := by
    refine .of_run_eq (kindAt_bind 0 _) ?_
    split
    next closed => exact explains_pure ⟨.inl closed, stands⟩
    next notClosed =>
      refine Explains.imp (explains_separated (inside _ _ stands (first opens notClosed)) ?_)
        fun _ _ _ _ _ place => ⟨.inr place.1, place.2⟩
      rintro inner start ⟨-, stands⟩ comma
      have plain : openBrackets? [start.token] = some [] := by
        simp [openBrackets?, Token.follow?, comma]
      have within := stands.append plain
      exact inside _ _ within (later _ _ _ opens within (lastKind?_concat comma))
  refine items.bind fun values after _ _ _ place => ?_
  exact (explains_close opens place.2 place.1).map fun _ => values

end Parse

end Kite
