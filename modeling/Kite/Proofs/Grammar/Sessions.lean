import Mathlib.Data.List.TakeWhile
import Kite.Proofs.Grammar.Composition

/-!
# Requests one after the other

The cursor moves over one sequence of tokens, the visible ones up to an end token, and a
request does nothing but pass tokens of it, whether it succeeds or fails
(`Request.advances`). So after any requests the cursor stands at some index of the
sequence, at the first end token at most (`Request.exists_standsAt`), and what lies ahead is
all that the next request depends on: it is answered as if the tokens from there on were
read for the first time, with all levels free (`Request.runAll_resumes`).
-/

set_option autoImplicit false

namespace Kite

/-! ## What a request does to the cursor -/

namespace Parse

variable {α β : Type}

/-- The cursor that a result leaves. -/
def cursorOf : EStateM.Result GrammarError Cursor α → Cursor
  | .ok _ cursor => cursor
  | .error _ cursor => cursor

/-- What a result answers, a value or an error. -/
def answerOf : EStateM.Result GrammarError Cursor α → Except GrammarError α
  | .ok value _ => .ok value
  | .error error _ => .error error

/-- An action that passes tokens, and does nothing else to the cursor, whether it succeeds or
fails. -/
def Advances (action : Parse α) : Prop :=
  ∀ before : Cursor, ∃ tokens, before.Passes tokens (cursorOf (action.run before))

theorem advances_of_stays {action : Parse α}
    (stays : ∀ before, cursorOf (action.run before) = before) : action.Advances :=
  fun before => ⟨[], by rw [stays]; exact .refl before⟩

theorem advances_take : take.Advances := by
  rintro ⟨rest, stop⟩
  cases rest with
  | nil => exact ⟨[], ⟨rfl, rfl⟩⟩
  | cons token rest => exact ⟨[token], ⟨rfl, rfl⟩⟩

theorem Advances.bind {action : Parse α} {next : α → Parse β} (one : action.Advances)
    (two : ∀ value, (next value).Advances) : (action >>= next).Advances := by
  intro before
  obtain ⟨tokens, passes⟩ := one before
  cases result : action.run before with
  | error error after =>
    rw [result] at passes
    exact ⟨tokens, by rwa [bind_of_error result]⟩
  | ok value after =>
    rw [result] at passes
    obtain ⟨others, onward⟩ := two value after
    exact ⟨tokens ++ others, by rw [bind_of_ok result]; exact passes.trans onward⟩

theorem advances_manyWithin {item : Parse (Option α)} (one : item.Advances)
    (rounds : List Token) : (manyWithin item rounds).Advances := by
  induction rounds with
  | nil => exact advances_of_stays fun _ => rfl
  | cons token rounds ih =>
    refine one.bind fun answer => ?_
    cases answer with
    | none => exact advances_of_stays fun _ => rfl
    | some value => exact ih.bind fun _ => advances_of_stays fun _ => rfl

theorem advances_many {item : Parse (Option α)} (one : item.Advances) : (many item).Advances :=
  fun before => advances_manyWithin one (before.stop :: before.rest) before

end Parse

/-- The primaries and the scopes of a level only pass tokens. -/
structure Level.Advances (level : Level) : Prop where
  primary : level.primary.Advances
  scope : level.scope.Advances

theorem Parse.Composed.advances {α : Type} {action : Level → Parse α} (composed : Composed action)
    {level : Level} (inner : level.Advances) : (action level).Advances := by
  induction composed with
  | take => exact advances_take
  | primary => exact inner.primary
  | scope => exact inner.scope
  | bind _ _ one two => exact one.bind two
  | many _ _ one => exact advances_many one
  | pure | kindAt | current | failWith => exact advances_of_stays fun _ => rfl

theorem Level.advances_within (levels : Nat) : (Level.within levels).Advances := by
  induction levels with
  | zero =>
    exact ⟨Parse.advances_of_stays fun _ => rfl, Parse.advances_of_stays fun _ => rfl⟩
  | succ levels ih =>
    exact ⟨Parse.composed_primary.advances ih, Parse.composed_scope.advances ih⟩

theorem Request.run_eq (request : Request) (cursor : Cursor) :
    request.run cursor =
      (Parse.answerOf ((request.action (Level.within nestingLimit)).run cursor),
        Parse.cursorOf ((request.action (Level.within nestingLimit)).run cursor)) := by
  unfold run runWithin EStateM.run
  cases request.action (Level.within nestingLimit) cursor <;> rfl

/-- A request only passes tokens. -/
theorem Request.advances (request : Request) (cursor : Cursor) :
    ∃ tokens, cursor.Passes tokens (request.run cursor).2 := by
  rw [run_eq]
  exact request.composed_action.advances (Level.advances_within nestingLimit) cursor

/-! ## The sequence under the cursor -/

namespace Cursor

/-- The tokens that a cursor moves over: those without comments, ended by an end token if they are
not ended by one already. -/
def sequence (tokens : List Token) : List Token :=
  let visible := tokens.filter fun token => token.kind ≠ .comment
  if visible.getLast?.any fun token => token.kind = .endOfInput then visible
  else visible ++ [missingStop visible]

/-- The cursor stands at an index of a sequence, not behind the first end token. -/
structure StandsAt (cursor : Cursor) (sequence : List Token) (index : Nat) : Prop where
  inside : index < sequence.length
  ahead : ∃ behind, sequence.drop index = cursor.rest ++ cursor.stop :: behind
  plain : ∀ token ∈ sequence.take index ++ cursor.rest, token.kind ≠ .endOfInput
  ends : cursor.stop.kind = .endOfInput

theorem kind_ne_of_mem_sequence {tokens : List Token} :
    ∀ token ∈ sequence tokens, token.kind ≠ .comment := by
  have visible : ∀ token ∈ tokens.filter (fun token => token.kind ≠ .comment),
      token.kind ≠ .comment :=
    fun token member => of_decide_eq_true (List.mem_filter.mp member).2
  intro token member
  simp only [sequence] at member
  split at member
  · exact visible token member
  · rcases List.mem_append.mp member with inner | last
    · exact visible token inner
    · obtain rfl := List.mem_singleton.mp last
      exact Kind.noConfusion

theorem StandsAt.of_ahead {cursor : Cursor} {whole : List Token} {index : Nat}
    (ahead : ∃ behind, whole.drop index = cursor.rest ++ cursor.stop :: behind)
    (plain : ∀ token ∈ whole.take index ++ cursor.rest, token.kind ≠ .endOfInput)
    (ends : cursor.stop.kind = .endOfInput) : cursor.StandsAt whole index := by
  obtain ⟨behind, dropped⟩ := ahead
  refine ⟨List.length_lt_of_drop_ne_nil ?_, ⟨behind, dropped⟩, plain, ends⟩
  simp [dropped]

/-- A new cursor stands at the beginning of its sequence. -/
theorem standsAt_ofTokens (tokens : List Token) :
    (ofTokens tokens).StandsAt (sequence tokens) 0 := by
  simp only [ofTokens, sequence]
  generalize tokens.filter (fun token => token.kind ≠ .comment) = visible
  cases found : visible.find? fun token => token.kind = .endOfInput with
  | none =>
    have plain : ∀ token ∈ visible, token.kind ≠ .endOfInput := by
      simpa using List.find?_eq_none.mp found
    have unended : ¬ visible.getLast?.any (fun token => token.kind = .endOfInput) = true := by
      rw [Option.any_eq_true]
      rintro ⟨last, shown, ends⟩
      exact plain last (List.mem_of_getLast? shown) (of_decide_eq_true ends)
    have whole : visible.takeWhile (fun token => token.kind ≠ .endOfInput) = visible :=
      List.takeWhile_eq_self_iff.mpr (by simpa using plain)
    rw [if_neg unended, whole]
    exact .of_ahead ⟨[], rfl⟩ (by simpa using plain) rfl
  | some stop =>
    obtain ⟨decided, before, behind, rfl, earlier⟩ := List.find?_eq_some_iff_append.mp found
    have ends : stop.kind = .endOfInput := of_decide_eq_true decided
    have plain : ∀ token ∈ before, token.kind ≠ .endOfInput := by simpa using earlier
    rw [takeWhile_of_end plain ends]
    refine .of_ahead ?_ (by simpa using plain) ends
    split
    · exact ⟨behind, rfl⟩
    · exact ⟨behind ++ [missingStop (before ++ stop :: behind)], by simp⟩

variable {cursor after : Cursor} {tokens whole : List Token} {index : Nat}

/-- Passing tokens leads so many tokens further. -/
theorem StandsAt.passes (stands : cursor.StandsAt whole index)
    (passes : cursor.Passes tokens after) : after.StandsAt whole (index + tokens.length) := by
  obtain ⟨behind, ahead⟩ := stands.ahead
  rw [passes.rest, passes.stop, List.append_assoc] at ahead
  have dropped : whole.drop (index + tokens.length) = after.rest ++ after.stop :: behind := by
    rw [← List.drop_drop, ahead, List.drop_left]
  refine .of_ahead ⟨behind, dropped⟩ ?_ (passes.stop ▸ stands.ends)
  rw [List.take_add, ahead, List.take_left, List.append_assoc, ← passes.rest]
  exact stands.plain

/-- The tokens from the index on are a sequence of their own. -/
theorem StandsAt.drop {before : Nat} (stands : cursor.StandsAt whole (before + index)) :
    cursor.StandsAt (whole.drop before) index := by
  obtain ⟨behind, ahead⟩ := stands.ahead
  refine .of_ahead ⟨behind, by rw [List.drop_drop, ahead]⟩ (fun token member => ?_) stands.ends
  apply stands.plain token
  rw [List.take_add, List.append_assoc]
  exact List.mem_append_right _ member

/-- The tokens before the first end token are those behind the cursor and those ahead of it. -/
theorem StandsAt.takeWhile_eq (stands : cursor.StandsAt whole index) :
    whole.takeWhile (fun token => token.kind ≠ .endOfInput) = whole.take index ++ cursor.rest := by
  obtain ⟨behind, ahead⟩ := stands.ahead
  have parts : whole = whole.take index ++ cursor.rest ++ cursor.stop :: behind := by
    rw [List.append_assoc, ← ahead, List.take_append_drop]
  exact (congrArg _ parts).trans (takeWhile_of_end stands.plain stands.ends)

/-- A cursor stands at one index only. -/
theorem StandsAt.iff_eq (stands : cursor.StandsAt whole index) {other : Nat} :
    cursor.StandsAt whole other ↔ other = index := by
  constructor
  · intro again
    have lengths := congrArg List.length (stands.takeWhile_eq.symm.trans again.takeWhile_eq)
    have inside := stands.inside
    have insideAgain := again.inside
    simp only [List.length_append, List.length_take] at lengths
    omega
  · rintro rfl
    exact stands

/-- A new cursor before the tokens from the index on is the cursor that stands there. -/
theorem StandsAt.ofTokens_drop (stands : cursor.StandsAt whole index)
    (visible : ∀ token ∈ whole, token.kind ≠ .comment) : ofTokens (whole.drop index) = cursor := by
  obtain ⟨behind, ahead⟩ := stands.ahead
  have plain : ∀ token ∈ cursor.rest, token.kind ≠ .endOfInput :=
    fun token member => stands.plain token (List.mem_append_right _ member)
  have shown : cursor.rest.filter (fun token => token.kind ≠ .comment) = cursor.rest := by
    refine List.filter_eq_self.mpr fun token member => decide_eq_true ?_
    have listed : token ∈ whole.drop index := by simp [ahead, member]
    exact visible token (List.mem_of_mem_drop listed)
  rw [ahead, ofTokens_of_end plain stands.ends, shown]

end Cursor

namespace Request

variable {cursor : Cursor} {whole : List Token} {index : Nat}

/-- A request leads the cursor on in its sequence, or leaves it where it is. -/
theorem exists_standsAt_run (request : Request) (stands : cursor.StandsAt whole index) :
    ∃ next, index ≤ next ∧ (request.run cursor).2.StandsAt whole next := by
  obtain ⟨tokens, passes⟩ := request.advances cursor
  exact ⟨index + tokens.length, Nat.le_add_right index _, stands.passes passes⟩

/-- So do requests one after the other. -/
theorem exists_standsAt_runAll (requests : List Request) (stands : cursor.StandsAt whole index) :
    ∃ next, index ≤ next ∧ (runAll requests cursor).2.StandsAt whole next := by
  induction requests generalizing cursor index with
  | nil => exact ⟨index, Nat.le_refl index, stands⟩
  | cons request requests ih =>
    obtain ⟨middle, one, between⟩ := request.exists_standsAt_run stands
    obtain ⟨next, two, after⟩ := ih between
    exact ⟨next, Nat.le_trans one two, after⟩

theorem runAll_append (earlier later : List Request) (cursor : Cursor) :
    runAll (earlier ++ later) cursor =
      ((runAll earlier cursor).1 ++ (runAll later (runAll earlier cursor).2).1,
        (runAll later (runAll earlier cursor).2).2) := by
  induction earlier generalizing cursor with
  | nil => rfl
  | cons request earlier ih => simp [runAll, ih]

/-- After any requests, failed ones among them, the cursor stands at one index of the sequence, at
the first end token at most. A further request is answered from there as by a new cursor before the
tokens from the index on, with all nesting levels free, and leads as many tokens further. -/
theorem runAll_resumes (tokens : List Token) (earlier : List Request) (request : Request) :
    ∃ index next answer after,
      (∀ place, (runAll earlier (.ofTokens tokens)).2.StandsAt (Cursor.sequence tokens) place ↔
        place = index) ∧
      index ≤ next ∧
      runAll (earlier ++ [request]) (.ofTokens tokens) =
        ((runAll earlier (.ofTokens tokens)).1 ++ [answer], after) ∧
      (∀ place, after.StandsAt (Cursor.sequence tokens) place ↔ place = next) ∧
      request.run (.ofTokens ((Cursor.sequence tokens).drop index)) = (answer, after) ∧
      ∀ place, after.StandsAt ((Cursor.sequence tokens).drop index) place ↔
        place = next - index := by
  obtain ⟨index, -, stands⟩ := exists_standsAt_runAll earlier (Cursor.standsAt_ofTokens tokens)
  obtain ⟨next, le, onward⟩ := request.exists_standsAt_run stands
  have fresh := stands.ofTokens_drop Cursor.kind_ne_of_mem_sequence
  have within : (request.run (runAll earlier (.ofTokens tokens)).2).2.StandsAt
      ((Cursor.sequence tokens).drop index) (next - index) := by
    refine Cursor.StandsAt.drop ?_
    rwa [Nat.add_sub_cancel' le]
  refine ⟨index, next, (request.run (runAll earlier (.ofTokens tokens)).2).1, _,
    fun _ => stands.iff_eq, le, ?_, fun _ => onward.iff_eq, by rw [fresh], fun _ => within.iff_eq⟩
  rw [runAll_append]
  rfl

end Request

end Kite
