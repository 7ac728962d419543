import Mathlib.Data.List.Induction
import Kite.Proofs.Grammar.Sessions

/-!
# Open brackets, and errors that point at them

`openBrackets?` keeps account of the brackets that tokens leave open, the innermost first.
`GrammarError.PointsAt` says which tokens an error has to carry if reading stopped behind
given tokens; for an error about a bracket this is the innermost open one. An action tracks
the brackets (`Parse.Tracks`) if its success leaves open what it should and its failure
points at the right tokens. Steps in sequence, repetition and lists in brackets track them.
-/

set_option autoImplicit false

namespace Kite

/-! ## Open brackets -/

/-- What a token makes of the open brackets, the innermost of which comes first: an opening bracket
is added to them, and a closing one takes away the innermost, which has to be of its shape. -/
def Token.follow? (opened : List Token) (token : Token) : Option (List Token) :=
  match token.kind with
  | .opening _ => some (token :: opened)
  | .closing shape =>
    match opened with
    | opener :: outer => if opener.kind = .opening shape then some outer else none
    | [] => none
  | _ => some opened

/-- The brackets that tokens leave open, the innermost first, if every closing bracket among them
closes one of its shape. -/
def openBrackets? (tokens : List Token) : Option (List Token) :=
  tokens.foldlM Token.follow? []

/-- Whether a token of this kind may be passed and leaves all brackets as they are. -/
def Kind.isPlain : Kind → Bool
  | .opening _ | .closing _ | .endOfInput => false
  | _ => true

section Follow

variable {token opener : Token} {opened behind : List Token} {shape : Bracket}

theorem Token.follow?_of_opening (kind : token.kind = .opening shape) :
    token.follow? opened = some (token :: opened) := by
  simp [follow?, kind]

theorem Token.follow?_of_closing (kind : token.kind = .closing shape)
    (opens : opener.kind = .opening shape) : token.follow? (opener :: opened) = some opened := by
  simp [follow?, kind, opens]

theorem Token.follow?_of_plain (plain : token.kind.isPlain = true) :
    token.follow? opened = some opened := by
  unfold follow?
  split <;> simp_all [Kind.isPlain]

theorem openBrackets?_concat (tokens : List Token) (token : Token) :
    openBrackets? (tokens ++ [token]) =
      (openBrackets? tokens).bind fun opened => token.follow? opened := by
  simp [openBrackets?, List.foldlM_append]

theorem Token.mem_of_follow? {inner : List Token} (follows : token.follow? opened = some inner) :
    ∀ other ∈ inner, other ∈ opened ∨ other = token := by
  unfold follow? at follows
  split at follows
  · obtain rfl := Option.some.inj follows
    simp [or_comm]
  · split at follows
    · obtain ⟨-, same⟩ := Option.ite_none_right_eq_some.mp follows
      obtain rfl := Option.some.inj same
      exact fun other member => .inl (List.mem_cons_of_mem _ member)
    · simp at follows
  · obtain rfl := Option.some.inj follows
    exact fun other member => .inl member

/-- Only a bracket among the tokens is left open by them. -/
theorem mem_of_openBrackets? (leave : openBrackets? behind = some opened) :
    ∀ token ∈ opened, token ∈ behind := by
  induction behind using List.reverseRecOn generalizing opened with
  | nil =>
    obtain rfl : [] = opened := Option.some.inj leave
    simp
  | append_singleton behind last ih =>
    rw [openBrackets?_concat] at leave
    obtain ⟨earlier, before, follows⟩ := Option.bind_eq_some_iff.mp leave
    intro token member
    rcases Token.mem_of_follow? follows token member with known | rfl
    · exact List.mem_append_left _ (ih before token known)
    · simp

end Follow

/-! ## What an error points at -/

/-- The token is the innermost of the brackets that the passed tokens leave open, and it is of the
given shape. -/
def Token.IsInnermost (opener : Token) (shape : Bracket) (passed : List Token) : Prop :=
  opener.kind = .opening shape ∧ ∃ outer, openBrackets? passed = some (opener :: outer)

/-- The error carries the right tokens for reading that stopped at `current` behind the passed
tokens. -/
structure GrammarError.PointsAt (error : GrammarError) (passed : List Token) (current : Token) :
    Prop where
  length : error.tokens.length = 1 ∨ error.tokens.length = 2
  taken : ∀ token ∈ error.tokens, token ∈ passed ++ [current]
  /-- The first token is the one where reading stopped. A number may have been passed already. -/
  head : error.tokens.head? = some current ∨
    error.cause = .invalidNumber ∧ error.tokens.head? = passed.getLast?
  unclosed : ∀ shape, error.cause = .unclosed shape →
    current.kind = .endOfInput ∧
      ∃ opener, error.tokens = [current, opener] ∧ opener.IsInnermost shape passed
  mismatched : ∀ shape, error.cause = .expected (.closing shape) →
    (current.kind ≠ .endOfInput ∧ current.kind ≠ .closing shape) ∧
      ∃ opener, error.tokens = [current, opener] ∧ opener.IsInnermost shape passed

/-- Whether an error of this cause is about an open bracket. -/
def GrammarError.Cause.blamesBracket : Cause → Bool
  | .unclosed _ | .expected (.closing _) => true
  | _ => false

theorem GrammarError.PointsAt.of_not_blamesBracket {cause : Cause} {tokens passed : List Token}
    {current : Token} (other : cause.blamesBracket = false)
    (length : tokens.length = 1 ∨ tokens.length = 2)
    (taken : ∀ token ∈ tokens, token ∈ passed ++ [current])
    (head : tokens.head? = some current ∨
      cause = .invalidNumber ∧ tokens.head? = passed.getLast?) :
    PointsAt { cause, tokens } passed current where
  length := length
  taken := taken
  head := head
  unclosed shape same := by
    obtain rfl : cause = .unclosed shape := same
    exact Bool.noConfusion other
  mismatched shape same := by
    obtain rfl : cause = .expected (.closing shape) := same
    exact Bool.noConfusion other

/-! ## Actions that keep account of the brackets -/

/-- The cursor stands before an end token and behind tokens that leave the given brackets open. -/
structure Cursor.Within (cursor : Cursor) (behind opened : List Token) : Prop where
  leave : openBrackets? behind = some opened
  ends : cursor.stop.kind = .endOfInput

theorem Cursor.Within.kindAt_zero {cursor : Cursor} {behind opened : List Token}
    (within : cursor.Within behind opened) : cursor.kindAt 0 = cursor.token.kind := by
  have ends := within.ends
  obtain ⟨rest, stop⟩ := cursor
  cases rest with
  | nil => exact ends.symm
  | cons token rest => rfl

theorem Cursor.Within.mem_of_opened {cursor : Cursor} {opener : Token} {behind opened : List Token}
    (within : cursor.Within behind (opener :: opened)) : opener ∈ behind :=
  mem_of_openBrackets? within.leave opener List.mem_cons_self

namespace Parse

variable {α β : Type} {behind opened seen : List Token} {before after : Cursor}

/-- Behind the given tokens, success of the action leaves open the brackets that go with its value,
and failure points at the right tokens. -/
def Tracks (action : Parse α) (behind : List Token) (before : Cursor)
    (further : α → List Token) : Prop :=
  ∃ seen, before.Passes seen (cursorOf (action.run before)) ∧
    match action.run before with
    | .ok value after => after.Within (behind ++ seen) (further value)
    | .error error after => error.PointsAt (behind ++ seen) after.token

/-- An action may be followed from the place where it does what another one does. -/
theorem Tracks.onward {action other : Parse α} {further : α → List Token}
    (passes : before.Passes seen after) (same : action.run before = other.run after)
    (tracks : other.Tracks (behind ++ seen) after further) :
    action.Tracks behind before further := by
  obtain ⟨more, passesMore, outcome⟩ := tracks
  refine ⟨seen ++ more, by rw [same]; exact passes.trans passesMore, ?_⟩
  rwa [same, ← List.append_assoc]

theorem Tracks.of_run_eq {action other : Parse α} {further : α → List Token}
    (same : action.run before = other.run before) (tracks : other.Tracks behind before further) :
    action.Tracks behind before further := by
  unfold Tracks
  rwa [same]

theorem Tracks.bind {action : Parse α} {next : α → Parse β} {middle : α → List Token}
    {further : β → List Token} (one : action.Tracks behind before middle)
    (two : ∀ value after seen, action.run before = .ok value after → before.Passes seen after →
      after.Within (behind ++ seen) (middle value) →
        (next value).Tracks (behind ++ seen) after further) :
    (action >>= next).Tracks behind before further := by
  obtain ⟨seen, passes, outcome⟩ := one
  cases result : action.run before with
  | ok value after =>
    rw [result] at passes outcome
    exact .onward passes (bind_of_ok result) (two value after seen result passes outcome)
  | error error after =>
    rw [result] at passes outcome
    exact ⟨seen, by rwa [bind_of_error result], by rwa [bind_of_error result]⟩

theorem tracks_pure {value : α} {further : α → List Token}
    (within : before.Within behind (further value)) :
    (pure value : Parse α).Tracks behind before further :=
  ⟨[], .refl before, by simpa using within⟩

/-! ### One token -/

/-- Passing a token that makes of the open brackets what is given. -/
theorem Tracks.step {action other : Parse α} {further : α → List Token} {inner : List Token}
    (within : before.Within behind opened) (notEnd : before.kindAt 0 ≠ .endOfInput)
    (follows : before.token.follow? opened = some inner)
    (same : action.run before = other.run before.next)
    (onward : before.next.Within (behind ++ [before.token]) inner →
      other.Tracks (behind ++ [before.token]) before.next further) :
    action.Tracks behind before further := by
  have passes := (Cursor.exists_of_kindAt rfl notEnd).1
  refine .onward passes same (onward ⟨?_, passes.stop ▸ within.ends⟩)
  rw [openBrackets?_concat, within.leave]
  exact follows

theorem Tracks.plain {action other : Parse α} {further : α → List Token}
    (within : before.Within behind opened) (plain : (before.kindAt 0).isPlain = true)
    (same : action.run before = other.run before.next)
    (onward : before.next.Within (behind ++ [before.token]) opened →
      other.Tracks (behind ++ [before.token]) before.next further) :
    action.Tracks behind before further := by
  have notEnd : before.kindAt 0 ≠ .endOfInput := by
    intro ended
    simp [ended, Kind.isPlain] at plain
  exact .step within notEnd (Token.follow?_of_plain (within.kindAt_zero ▸ plain)) same onward

theorem Tracks.opening {action other : Parse α} {further : α → List Token} {shape : Bracket}
    (within : before.Within behind opened) (seen : before.kindAt 0 = .opening shape)
    (same : action.run before = other.run before.next)
    (onward : before.token.kind = .opening shape →
      before.next.Within (behind ++ [before.token]) (before.token :: opened) →
        other.Tracks (behind ++ [before.token]) before.next further) :
    action.Tracks behind before further := by
  have kind := within.kindAt_zero.symm.trans seen
  exact .step within (by simp [seen]) (Token.follow?_of_opening kind) same (onward kind)

theorem Tracks.closing {action other : Parse α} {further : α → List Token} {shape : Bracket}
    {opener : Token} (within : before.Within behind (opener :: opened))
    (opens : opener.kind = .opening shape) (seen : before.kindAt 0 = .closing shape)
    (same : action.run before = other.run before.next)
    (onward : before.next.Within (behind ++ [before.token]) opened →
      other.Tracks (behind ++ [before.token]) before.next further) :
    action.Tracks behind before further := by
  have kind := within.kindAt_zero.symm.trans seen
  exact .step within (by simp [seen]) (Token.follow?_of_closing kind opens) same onward

/-! ### Failures -/

theorem tracks_of_error {action : Parse α} {error : GrammarError} {further : α → List Token}
    (failed : action.run before = .error error before)
    (points : error.PointsAt behind before.token) : action.Tracks behind before further :=
  ⟨[], by rw [failed]; exact .refl before, by simpa [failed] using points⟩

theorem tracks_fail {cause : GrammarError.Cause} {further : α → List Token}
    (other : cause.blamesBracket = false) :
    (fail cause : Parse α).Tracks behind before further :=
  tracks_of_error (fail_run cause)
    (.of_not_blamesBracket other (.inl rfl) (by simp) (.inl rfl))

theorem tracks_failSince {cause : GrammarError.Cause} {earlier : Token} {further : α → List Token}
    (other : cause.blamesBracket = false) (passed : earlier ∈ behind) :
    (failSince cause earlier : Parse α).Tracks behind before further :=
  tracks_of_error (failSince_run cause earlier)
    (.of_not_blamesBracket other (.inr rfl) (by simp [passed]) (.inl rfl))

/-- A token is read if it has the expected kind, and if it has not, that is no matter of a bracket
unless a closing one is expected. -/
theorem Tracks.expect {kind : Kind} {next : Token → Parse β} {further : β → List Token}
    (other : (GrammarError.Cause.expected kind).blamesBracket = false)
    (onward : before.kindAt 0 = kind → (take >>= next).Tracks behind before further) :
    (Parse.expect kind >>= next).Tracks behind before further := by
  by_cases seen : before.kindAt 0 = kind
  · have done := expect_eq_ok_iff.mpr ⟨seen, rfl, rfl⟩
    exact .of_run_eq ((bind_of_ok done).trans (take_bind next).symm) (onward seen)
  · refine tracks_of_error (bind_of_error (by rw [expect_run, if_neg seen])) ?_
    exact .of_not_blamesBracket other (.inl rfl) (by simp) (.inl rfl)

section Opener

variable {opener : Token} {shape : Bracket} {further : α → List Token}

/-- At the end of the input, the innermost open bracket is the one that is not closed. -/
theorem tracks_unclosed (within : before.Within behind (opener :: opened))
    (opens : opener.kind = .opening shape) (ended : before.kindAt 0 = .endOfInput) :
    (failSince (.unclosed shape) opener : Parse α).Tracks behind before further := by
  refine tracks_of_error (failSince_run _ opener)
    ⟨.inr rfl, by simp [within.mem_of_opened], .inl rfl, ?_, by simp⟩
  rintro _ ⟨⟩
  exact ⟨within.kindAt_zero.symm.trans ended, opener, rfl, opens, opened, within.leave⟩

/-- Before any other token, the innermost open bracket is the one that should be closed here. -/
theorem tracks_mismatched (within : before.Within behind (opener :: opened))
    (opens : opener.kind = .opening shape) (notEnd : before.kindAt 0 ≠ .endOfInput)
    (notClosed : before.kindAt 0 ≠ .closing shape) :
    (failSince (.expected (.closing shape)) opener : Parse α).Tracks behind before further := by
  refine tracks_of_error (failSince_run _ opener)
    ⟨.inr rfl, by simp [within.mem_of_opened], .inl rfl, by simp, ?_⟩
  rintro _ ⟨⟩
  rw [within.kindAt_zero] at notEnd notClosed
  exact ⟨⟨notEnd, notClosed⟩, opener, rfl, opens, opened, within.leave⟩

end Opener

/-! ### Brackets -/

theorem tracks_close {opener : Token} {shape : Bracket}
    (within : before.Within behind (opener :: opened)) (opens : opener.kind = .opening shape) :
    (close shape opener).Tracks behind before fun _ => opened := by
  refine .of_run_eq (kindAt_bind 0 _) ?_
  split
  next closed =>
    have same : skip.run before = (pure () : Parse Unit).run before.next := rfl
    exact .closing within opens closed same fun within => tracks_pure within
  next notClosed =>
    split
    next ended => exact tracks_unclosed within opens ended
    next notEnd => exact tracks_mismatched within opens notEnd notClosed

/-- An action that leaves the given brackets open, and no others. -/
def Keeps (action : Parse α) (opened : List Token) : Prop :=
  ∀ behind before, before.Within behind opened → action.Tracks behind before fun _ => opened

theorem Keeps.bind {action : Parse α} {next : α → Parse β} (one : action.Keeps opened)
    (two : ∀ value, (next value).Keeps opened) : (action >>= next).Keeps opened :=
  fun _ _ within => (one _ _ within).bind fun value _ _ _ _ inner => two value _ _ inner

theorem keeps_pure (value : α) : (pure value : Parse α).Keeps opened :=
  fun _ _ within => tracks_pure within

theorem Keeps.map {action : Parse α} (keeps : action.Keeps opened) (result : α → β) :
    (action >>= fun value => pure (result value)).Keeps opened :=
  keeps.bind fun value => keeps_pure (result value)

theorem keeps_manyWithin {item : Parse (Option α)} (keeps : item.Keeps opened)
    (rounds : List Token) : (manyWithin item rounds).Keeps opened := by
  induction rounds with
  | nil => exact keeps_pure []
  | cons token rounds ih =>
    refine keeps.bind fun answer => ?_
    cases answer with
    | none => exact keeps_pure []
    | some value => exact ih.map (value :: ·)

theorem keeps_many {item : Parse (Option α)} (keeps : item.Keeps opened) :
    (many item).Keeps opened := by
  intro behind before within
  have rounds : (many item).run before =
      (manyWithin item (before.stop :: before.rest)).run before := rfl
  exact .of_run_eq rounds (keeps_manyWithin keeps _ _ _ within)

theorem keeps_accept {kind : Kind} (plain : kind.isPlain = true) : (accept kind).Keeps opened := by
  intro behind before within
  refine .of_run_eq (kindAt_bind 0 _) ?_
  split
  next seen =>
    exact .plain within (seen ▸ plain) (skip_bind _) fun within => tracks_pure within
  next => exact tracks_pure within

theorem keeps_separated {item : Parse α} (keeps : item.Keeps opened) :
    (separated item).Keeps opened := by
  have others : (many (afterComma item)).Keeps opened := by
    have comma : (accept .comma).Keeps opened := keeps_accept rfl
    refine keeps_many (comma.bind fun accepted => ?_)
    cases accepted with
    | true => exact keeps.map some
    | false => exact keeps_pure none
  exact keeps.bind fun first => others.map (first :: ·)

theorem keeps_enclosed {shape : Bracket} {item : Token → Parse α}
    (keeps : ∀ opener : Token, opener.kind = .opening shape →
      (item opener).Keeps (opener :: opened)) :
    (enclosed shape item).Keeps opened := by
  intro behind before within
  rw [enclosed_eq_listed]
  refine .expect rfl fun seen => .opening within seen (take_bind _) fun opens inside => ?_
  have items : (listed shape (item before.token)).Keeps (before.token :: opened) := by
    intro behind before within
    refine .of_run_eq (kindAt_bind 0 _) ?_
    split
    · exact tracks_pure within
    · exact keeps_separated (keeps _ opens) _ _ within
  refine (items _ _ inside).bind fun values _ _ _ _ inside => ?_
  exact (tracks_close inside opens).bind fun _ _ _ _ _ within => tracks_pure within

end Parse

end Kite
