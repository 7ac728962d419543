import Kite.Proofs.Grammar.Sessions

/-!
# How far ahead the parser looks

The parser never looks further than two tokens behind the one under the cursor, and it
never goes back. So what it does up to the place where it stops depends on the tokens before
that place and on the three from there on only. An action is near-sighted
(`Parse.Nearsighted`) if it passes the same tokens and answers the same before every cursor
that shows these tokens. All steps are, and sequences and repetition of near-sighted actions
are, so every rule is (`Level.nearsighted_within`). `Request.run_window` is the statement
about requests: it bounds what can influence an answer, an error among them.
-/

set_option autoImplicit false

namespace Kite

/-! ## Cursors that show the same -/

namespace Cursor

variable {before after other : Cursor} {seen : List Token} {window : Nat}

theorem Passes.next_eq {token : Token} (passes : before.Passes [token] after) :
    before.next = after := by
  obtain ⟨rest, stop⟩ := before
  obtain ⟨others, finish⟩ := after
  obtain rfl : rest = token :: others := passes.rest
  obtain rfl : stop = finish := passes.stop
  rfl

theorem Passes.unique {cursor : Cursor} (one : before.Passes seen cursor)
    (two : before.Passes seen after) : cursor = after := by
  obtain ⟨rest, stop⟩ := cursor
  obtain ⟨others, finish⟩ := after
  obtain rfl : rest = others := List.append_cancel_left (one.rest.symm.trans two.rest)
  obtain rfl : stop = finish := one.stop.symm.trans two.stop
  rfl

/-- The cursors show the same tokens, or the same ones for as far as the window reaches. -/
def Agrees (window : Nat) (cursor other : Cursor) : Prop :=
  cursor = other ∨
    ∃ shown left right, shown.length = window ∧
      cursor.rest = shown ++ left ∧ other.rest = shown ++ right

theorem Agrees.mono {fewer : Nat} (agrees : Agrees window before other) (le : fewer ≤ window) :
    Agrees fewer before other := by
  obtain same | ⟨shown, left, right, length, here, there⟩ := agrees
  · exact .inl same
  · refine .inr ⟨shown.take fewer, shown.drop fewer ++ left, shown.drop fewer ++ right, ?_, ?_, ?_⟩
    · rw [List.length_take, length, Nat.min_eq_left le]
    · rw [← List.append_assoc, List.take_append_drop, here]
    · rw [← List.append_assoc, List.take_append_drop, there]

/-- Behind the tokens that are passed, a window is left that is smaller by as many. -/
theorem Agrees.passes (agrees : Agrees (seen.length + window) before other)
    (passes : before.Passes seen after) :
    ∃ onward, other.Passes seen onward ∧ after.Agrees window onward := by
  obtain rfl | ⟨shown, left, right, length, here, there⟩ := agrees
  · exact ⟨after, passes, .inl rfl⟩
  · have split : seen ++ after.rest = shown ++ left := passes.rest.symm.trans here
    obtain ⟨begun, more, rfl, begunLength⟩ : ∃ begun more, shown = begun ++ more ∧
        begun.length = seen.length :=
      ⟨shown.take seen.length, shown.drop seen.length, (List.take_append_drop ..).symm,
        by simp [length]⟩
    rw [List.append_assoc] at split
    obtain ⟨rfl, rest⟩ := List.append_inj split begunLength.symm
    rw [List.append_assoc] at there
    refine ⟨{ rest := more ++ right, stop := other.stop }, ⟨there, rfl⟩, .inr ?_⟩
    exact ⟨more, left, right, by simpa using length, rest, rfl⟩

theorem Agrees.kindAt {distance : Nat} (agrees : Agrees window before other)
    (inside : distance < window) : before.kindAt distance = other.kindAt distance := by
  obtain rfl | ⟨shown, left, right, length, here, there⟩ := agrees
  · rfl
  · have within : distance < shown.length := length ▸ inside
    simp only [Cursor.kindAt, here, there, List.getElem?_append_left within]

theorem Agrees.token (agrees : Agrees window before other) (inside : 0 < window) :
    before.token = other.token := by
  obtain rfl | ⟨shown, left, right, length, here, there⟩ := agrees
  · rfl
  · obtain ⟨first, others, rfl⟩ := List.exists_cons_of_length_pos (length ▸ inside)
    simp [Cursor.token, here, there]

end Cursor

/-! ## Near-sighted actions -/

namespace Parse

variable {α β : Type} {before : Cursor}

theorem answerOf_eq_ok_iff {result : EStateM.Result GrammarError Cursor α} {value : α} :
    answerOf result = .ok value ↔ result = .ok value (cursorOf result) := by
  cases result <;> simp [answerOf, cursorOf]

theorem answerOf_eq_error_iff {result : EStateM.Result GrammarError Cursor α}
    {error : GrammarError} :
    answerOf result = .error error ↔ result = .error error (cursorOf result) := by
  cases result <;> simp [answerOf, cursorOf]

/-- The action only passes tokens, and it does the same before every other cursor that shows these
tokens and three more. -/
def Nearsighted (action : Parse α) (before : Cursor) : Prop :=
  ∃ seen, before.Passes seen (cursorOf (action.run before)) ∧
    ∀ other, before.Agrees (seen.length + 3) other →
      other.Passes seen (cursorOf (action.run other)) ∧
        answerOf (action.run other) = answerOf (action.run before)

/-- Actions that leave the cursor where it is have to answer the same where the window agrees. -/
theorem nearsighted_of_stays {action : Parse α}
    (stays : ∀ before, cursorOf (action.run before) = before)
    (same : ∀ other, before.Agrees 3 other →
      answerOf (action.run other) = answerOf (action.run before)) :
    action.Nearsighted before := by
  refine ⟨[], by rw [stays]; exact .refl before, fun other agrees => ?_⟩
  exact ⟨by rw [stays]; exact .refl other, same other (agrees.mono (by simp))⟩

theorem nearsighted_pure (value : α) : (pure value : Parse α).Nearsighted before :=
  nearsighted_of_stays (fun _ => rfl) fun _ _ => rfl

theorem nearsighted_failWith (cause : GrammarError.Cause) (tokens : List Token) :
    (failWith cause tokens : Parse α).Nearsighted before :=
  nearsighted_of_stays (fun _ => rfl) fun _ _ => rfl

theorem nearsighted_kindAt {distance : Nat} (near : distance ≤ 2) :
    (kindAt distance).Nearsighted before :=
  nearsighted_of_stays (fun _ => rfl) fun _ agrees =>
    congrArg Except.ok (agrees.kindAt (Nat.lt_succ_of_le near)).symm

theorem nearsighted_current : current.Nearsighted before :=
  nearsighted_of_stays (fun _ => rfl) fun _ agrees =>
    congrArg Except.ok (agrees.token (by decide)).symm

theorem nearsighted_take : take.Nearsighted before := by
  obtain ⟨rest, stop⟩ := before
  cases rest with
  | nil =>
    refine ⟨[], .refl _, fun other agrees => ?_⟩
    obtain rfl | ⟨shown, left, right, length, here, -⟩ := agrees
    · exact ⟨.refl _, rfl⟩
    · simp [(List.append_eq_nil_iff.mp here.symm).1] at length
  | cons token rest =>
    have passes : Cursor.Passes ⟨token :: rest, stop⟩ [token] ⟨rest, stop⟩ := ⟨rfl, rfl⟩
    refine ⟨[token], passes, fun other agrees => ?_⟩
    obtain ⟨onward, passesOther, -⟩ := agrees.passes passes
    obtain rfl := passesOther.next_eq
    exact ⟨passesOther, congrArg Except.ok (agrees.token (by simp)).symm⟩

theorem Nearsighted.bind {action : Parse α} {next : α → Parse β} (one : action.Nearsighted before)
    (two : ∀ value after, action.run before = .ok value after → (next value).Nearsighted after) :
    (action >>= next).Nearsighted before := by
  obtain ⟨seen, passes, same⟩ := one
  cases result : action.run before with
  | error error after =>
    rw [result] at passes same
    refine ⟨seen, by rwa [bind_of_error result], fun other agrees => ?_⟩
    obtain ⟨passesOther, answer⟩ := same other agrees
    rw [bind_of_error result, bind_of_error (answerOf_eq_error_iff.mp answer)]
    exact ⟨passesOther, rfl⟩
  | ok value after =>
    rw [result] at passes same
    obtain ⟨more, passesMore, sameMore⟩ := two value after result
    refine ⟨seen ++ more, by rw [bind_of_ok result]; exact passes.trans passesMore,
      fun other agrees => ?_⟩
    rw [List.length_append, Nat.add_assoc] at agrees
    obtain ⟨passesOther, answer⟩ := same other (agrees.mono (by omega))
    obtain ⟨onward, passesOnward, ahead⟩ := agrees.passes passes
    have done := answerOf_eq_ok_iff.mp answer
    rw [bind_of_ok result, bind_of_ok done]
    obtain rfl := passesOther.unique passesOnward
    obtain ⟨passesLast, answerLast⟩ := sameMore _ ahead
    exact ⟨passesOther.trans passesLast, answerLast⟩

/-- Rounds that read on go one by one, so the induction is on how many tokens lie ahead. -/
theorem nearsighted_many {item : Parse (Option α)} (progresses : Progresses item)
    (near : ∀ before, item.Nearsighted before) : (many item).Nearsighted before := by
  induction length : before.rest.length using Nat.strongRecOn generalizing before with
  | ind length ih =>
    have rounds : many item = _ := funext fun _ => many_run progresses
    rw [rounds]
    refine (near before).bind fun answer after answered => ?_
    cases answer with
    | none => exact nearsighted_pure []
    | some value =>
      have shorter := progresses before value after answered
      exact (ih _ (length ▸ shorter) rfl).bind fun _ _ _ => nearsighted_pure _

end Parse

/-- The primaries and the scopes of a level are near-sighted. -/
structure Level.Nearsighted (level : Level) : Prop where
  primary : ∀ before, level.primary.Nearsighted before
  scope : ∀ before, level.scope.Nearsighted before

theorem Parse.Composed.nearsighted {α : Type} {action : Level → Parse α}
    (composed : Composed action) {level : Level} (inner : level.Nearsighted)
    (moves : level.Progresses) (before : Cursor) : (action level).Nearsighted before := by
  induction composed generalizing before with
  | pure value => exact nearsighted_pure value
  | kindAt near => exact nearsighted_kindAt near
  | current => exact nearsighted_current
  | take => exact nearsighted_take
  | failWith cause tokens => exact nearsighted_failWith cause tokens
  | primary => exact inner.primary before
  | scope => exact inner.scope before
  | bind _ _ one two => exact (one before).bind fun value after _ => two value after
  | many _ progresses one => exact nearsighted_many (progresses moves) one

theorem Level.nearsighted_within (levels : Nat) : (Level.within levels).Nearsighted := by
  induction levels with
  | zero =>
    have refuses {α : Type} (before : Cursor) :
        (Parse.fail .nestingTooDeep : Parse α).Nearsighted before :=
      Parse.nearsighted_current.bind fun token _ _ => Parse.nearsighted_failWith _ [token]
    exact ⟨refuses, refuses⟩
  | succ levels ih =>
    have moves := Level.progresses_within levels
    exact ⟨Parse.composed_primary.nearsighted ih moves, Parse.composed_scope.nearsighted ih moves⟩

/-- A request answers the same before every cursor that shows what it passes and three tokens
more. -/
theorem Request.exists_passes_run (request : Request) (cursor : Cursor) :
    ∃ seen, cursor.Passes seen (request.run cursor).2 ∧
      ∀ other, cursor.Agrees (seen.length + 3) other →
        other.Passes seen (request.run other).2 ∧
          (request.run other).1 = (request.run cursor).1 := by
  obtain ⟨seen, passes, same⟩ := request.composed_action.nearsighted
    (Level.nearsighted_within nestingLimit) (Level.progresses_within nestingLimit) cursor
  simp only [run_eq]
  exact ⟨seen, passes, same⟩

/-! ## Sequences of tokens -/

/-- Tokens without comments, of which the last one ends the input. -/
structure Terminated (tokens : List Token) : Prop where
  visible : ∀ token ∈ tokens, token.kind ≠ .comment
  ended : ∃ stop ∈ tokens.getLast?, stop.kind = .endOfInput

namespace Cursor

variable {tokens others : List Token} {window : Nat}

/-- The tokens that a cursor moves over are terminated. -/
theorem terminated_sequence (tokens : List Token) : Terminated (sequence tokens) where
  visible := kind_ne_of_mem_sequence
  ended := by
    simp only [sequence]
    split
    next ended =>
      obtain ⟨stop, last, ends⟩ := Option.any_eq_true _ _ |>.mp ended
      exact ⟨stop, last, of_decide_eq_true ends⟩
    next => exact ⟨_, List.getLast?_concat, rfl⟩

end Cursor

namespace Terminated

variable {tokens others : List Token} {window : Nat}

theorem sequence_eq (whole : Terminated tokens) : Cursor.sequence tokens = tokens := by
  have visible : tokens.filter (fun token => token.kind ≠ .comment) = tokens :=
    List.filter_eq_self.mpr fun token member => decide_eq_true (whole.visible token member)
  obtain ⟨stop, last, ends⟩ := whole.ended
  rw [Cursor.sequence, visible, if_pos]
  exact (Option.any_eq_true _ _).mpr ⟨stop, last, decide_eq_true ends⟩

theorem standsAt_ofTokens (whole : Terminated tokens) :
    (Cursor.ofTokens tokens).StandsAt tokens 0 := by
  simpa only [whole.sequence_eq] using Cursor.standsAt_ofTokens tokens

/-- Cursors before sequences that begin alike show the same as far as these do. -/
theorem agrees (whole : Terminated tokens) (other : Terminated others)
    (begins : tokens.take window <+: others) :
    Cursor.Agrees window (.ofTokens tokens) (.ofTokens others) := by
  have stands := whole.standsAt_ofTokens
  have standsOther := other.standsAt_ofTokens
  generalize Cursor.ofTokens tokens = cursor at stands
  obtain ⟨behind, ahead⟩ := stands.ahead
  have plain : ∀ token ∈ cursor.rest, token.kind ≠ .endOfInput := by simpa using stands.plain
  obtain rfl : tokens = cursor.rest ++ cursor.stop :: behind := ahead
  obtain ⟨more, rfl⟩ := begins
  rcases Nat.lt_or_ge cursor.rest.length window with reached | beyond
  · -- the first end token lies in the window, so it is the first one of the other sequence too
    obtain ⟨further, rfl⟩ := Nat.exists_eq_add_of_lt reached
    have again : cursor.StandsAt
        ((cursor.rest ++ cursor.stop :: behind).take (cursor.rest.length + further + 1) ++ more)
        0 :=
      .of_ahead ⟨behind.take further ++ more, by
        simp [Nat.add_assoc, List.take_append, List.take_of_length_le]⟩
        (by simpa using plain) stands.ends
    exact .inl (again.ofTokens_drop other.visible).symm
  · have shown : (cursor.rest ++ cursor.stop :: behind).take window = cursor.rest.take window :=
      List.take_append_of_le_length beyond
    have rest := standsOther.takeWhile_eq
    rw [shown, List.takeWhile_append_of_pos] at rest
    · exact .inr ⟨cursor.rest.take window, cursor.rest.drop window, _,
        List.length_take_of_le beyond, (List.take_append_drop ..).symm,
        by simpa [shown] using rest.symm⟩
    · exact fun token member => decide_eq_true (plain token (List.mem_of_mem_take member))

end Terminated

/-- What stands behind an end token is not seen by a cursor before it. -/
theorem Cursor.ofTokens_append_end (before : List Token) {stop : Token}
    (ends : stop.kind = .endOfInput) (behind others : List Token) :
    ofTokens (before ++ stop :: behind) = ofTokens (before ++ stop :: others) := by
  have member : stop ∈ before ++ [stop] := by simp
  obtain ⟨first, found⟩ : ∃ first,
      (before ++ [stop]).find? (fun token => token.kind = .endOfInput) = some first :=
    Option.isSome_iff_exists.mp (List.find?_isSome.mpr ⟨stop, member, decide_eq_true ends⟩)
  obtain ⟨decided, plain, more, split, earlier⟩ := List.find?_eq_some_iff_append.mp found
  have whole (behind : List Token) :
      before ++ stop :: behind = plain ++ first :: (more ++ behind) := by
    rw [← List.singleton_append, ← List.append_assoc, split]
    simp
  have plain : ∀ token ∈ plain, token.kind ≠ .endOfInput := by simpa using earlier
  rw [whole, whole, ofTokens_of_end plain (of_decide_eq_true decided),
    ofTokens_of_end plain (of_decide_eq_true decided)]

/-- A request that stops at an index of a terminated sequence does the same, and stops at the same
index, for every terminated sequence that has the tokens before the index and the three from there
on, or as many as there are, in common with it. Whatever stands behind an end token does not
matter. -/
theorem Request.run_window (request : Request) {tokens : List Token} (whole : Terminated tokens) :
    ∃ index,
      (∀ place, (request.run (.ofTokens tokens)).2.StandsAt tokens place ↔ place = index) ∧
      (∀ others, Terminated others → tokens.take (index + 3) <+: others →
        (request.run (.ofTokens others)).1 = (request.run (.ofTokens tokens)).1 ∧
        ∀ place, (request.run (.ofTokens others)).2.StandsAt others place ↔ place = index) ∧
      ∀ before stop behind others, tokens = before ++ stop :: behind → stop.kind = .endOfInput →
        request.run (.ofTokens (before ++ stop :: others)) = request.run (.ofTokens tokens) := by
  obtain ⟨seen, passes, same⟩ := request.exists_passes_run (.ofTokens tokens)
  have standsBehind {others : List Token} (other : Terminated others)
      (passes : (Cursor.ofTokens others).Passes seen (request.run (.ofTokens others)).2) (place) :
      (request.run (.ofTokens others)).2.StandsAt others place ↔ place = seen.length := by
    simpa using (other.standsAt_ofTokens.passes passes).iff_eq
  refine ⟨seen.length, standsBehind whole passes, fun others other begins => ?_, ?_⟩
  · obtain ⟨passesOther, answer⟩ := same _ (whole.agrees other begins)
    exact ⟨answer, standsBehind other passesOther⟩
  · rintro before stop behind others rfl ends
    rw [Cursor.ofTokens_append_end before ends]

/-- A statement is read up to its semicolon, so only two tokens behind the next one may matter: here
a name and a comma, before a bracket in the one sequence and a second end token in the other. -/
theorem Request.run_window_statement :
    let token kind lexeme : Token := { kind, lexeme, position := .start }
    let shared := [token .identifier "x", token .semicolon ";", token (.opening .round) "(",
      token .identifier "a", token .comma ","]
    let tokens := shared ++ [token (.closing .round) ")", Token.endOfInput .start]
    let others := shared ++ [Token.endOfInput .start, Token.endOfInput .start]
    Terminated tokens ∧ Terminated others ∧
      (∀ place, (statement.run (.ofTokens tokens)).2.StandsAt tokens place ↔ place = 2) ∧
      (statement.run (.ofTokens others)).1 = (statement.run (.ofTokens tokens)).1 ∧
      (∀ place, (statement.run (.ofTokens others)).2.StandsAt others place ↔ place = 2) ∧
      statement.run (.ofTokens (others ++ [token .identifier "b"])) =
        statement.run (.ofTokens others) := by
  intro token shared tokens others
  have whole : Terminated tokens := ⟨by decide, _, rfl, rfl⟩
  have other : Terminated others := ⟨by decide, _, rfl, rfl⟩
  obtain ⟨index, stands, window, -⟩ := run_window statement whole
  obtain ⟨-, -, -, behind⟩ := run_window statement other
  have two : (statement.run (.ofTokens tokens)).2.StandsAt tokens 2 :=
    .of_ahead ⟨[], rfl⟩ (by decide) rfl
  obtain rfl := (stands 2).mp two
  obtain ⟨answer, standsOther⟩ := window others other (List.prefix_append shared _)
  exact ⟨whole, other, stands, answer, standsOther, behind shared _ _ _ rfl rfl⟩

/-! ## Looking ahead in the uncut sequence -/

namespace Cursor

/-- The kind of the token at a place of a sequence, and behind its end that of the last one. -/
def clampedKind (sequence : List Token) (place : Nat) : Kind :=
  match sequence[min place (sequence.length - 1)]? with
  | some token => token.kind
  | none => .endOfInput

variable {cursor : Cursor} {whole : List Token} {index : Nat}

/-- Up to the first end token a cursor sees what stands in its sequence. -/
theorem StandsAt.kindAt_eq_clampedKind (stands : cursor.StandsAt whole index) {distance : Nat}
    (near : distance ≤ cursor.rest.length) :
    cursor.kindAt distance = clampedKind whole (index + distance) := by
  obtain ⟨behind, ahead⟩ := stands.ahead
  have inside := congrArg List.length ahead
  simp only [List.length_drop, List.length_append, List.length_cons] at inside
  have place : min (index + distance) (whole.length - 1) = index + distance := by omega
  rw [clampedKind, place, ← List.getElem?_drop, ahead, kindAt]
  rcases Nat.lt_or_eq_of_le near with before | rfl
  · rw [List.getElem?_append_left before, List.getElem?_eq_getElem before]
  · rw [List.getElem?_append_right (Nat.le_refl _), Nat.sub_self]
    simp [stands.ends]

/-- Behind the first end token nothing is looked up: parameters begin where they do when the
sequence is not cut there. -/
theorem StandsAt.beginParameters_clampedKind (stands : cursor.StandsAt whole index)
    (nonempty : cursor.rest ≠ []) :
    Parse.beginParameters (cursor.kindAt 1) (cursor.kindAt 2) =
      Parse.beginParameters (clampedKind whole (index + 1)) (clampedKind whole (index + 2)) := by
  have positive := List.length_pos_iff.mpr nonempty
  rw [stands.kindAt_eq_clampedKind positive]
  rcases Nat.lt_or_ge 1 cursor.rest.length with second | last
  · rw [stands.kindAt_eq_clampedKind second]
  · have ended : cursor.kindAt 1 = .endOfInput := by
      rw [kindAt, List.getElem?_eq_none last]
    rw [← stands.kindAt_eq_clampedKind positive, ended]
    rfl

end Cursor

end Kite
