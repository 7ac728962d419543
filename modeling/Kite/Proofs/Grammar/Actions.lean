import Mathlib.Data.List.TakeWhile
import Kite.Grammar.Parse

/-!
# What parsing actions do

Equations for the actions from which the rules of the grammar are put together. Actions
in sequence succeed if each of them does (`bind_eq_ok_iff`), and those that decide on a
kind or move the cursor are read off the cursor. `Cursor.Passes` is the record of what
lies between two cursors.
-/

set_option autoImplicit false

namespace Kite

/-! ## Cursors -/

namespace Cursor

/-- `before.Passes tokens after` says that exactly `tokens` lie between the two cursors. -/
structure Passes (before : Cursor) (tokens : List Token) (after : Cursor) : Prop where
  rest : before.rest = tokens ++ after.rest
  stop : before.stop = after.stop

theorem Passes.refl (cursor : Cursor) : cursor.Passes [] cursor := ⟨rfl, rfl⟩

theorem Passes.trans {first second third : Cursor} {tokens others : List Token}
    (one : first.Passes tokens second) (two : second.Passes others third) :
    first.Passes (tokens ++ others) third where
  rest := by rw [one.rest, two.rest, List.append_assoc]
  stop := one.stop.trans two.stop

/-- Only one list of tokens lies between two cursors. -/
theorem Passes.tokens_unique {before after : Cursor} {tokens others : List Token}
    (one : before.Passes tokens after) (two : before.Passes others after) : tokens = others :=
  List.append_cancel_right (one.rest.symm.trans two.rest)

theorem Passes.shorter {before after : Cursor} {tokens : List Token}
    (passes : before.Passes tokens after) (nonempty : tokens ≠ []) :
    after.rest.length < before.rest.length := by
  have length : before.rest.length = tokens.length + after.rest.length := by
    rw [passes.rest, List.length_append]
  have positive : 0 < tokens.length := List.length_pos_iff.mpr nonempty
  omega

/-- Before the end of the input a token lies ahead, and it has the kind that is seen. -/
theorem exists_of_kindAt {cursor : Cursor} {kind : Kind} (seen : cursor.kindAt 0 = kind)
    (notEnd : kind ≠ .endOfInput) :
    cursor.Passes [cursor.token] cursor.next ∧ cursor.token.kind = kind := by
  obtain ⟨rest, stop⟩ := cursor
  cases rest with
  | nil => exact absurd seen.symm notEnd
  | cons token rest => exact ⟨⟨rfl, rfl⟩, seen⟩

theorem takeWhile_of_end {before after : List Token} {stop : Token}
    (plain : ∀ token ∈ before, token.kind ≠ .endOfInput) (ends : stop.kind = .endOfInput) :
    (before ++ stop :: after).takeWhile (fun token => token.kind ≠ .endOfInput) = before := by
  rw [List.takeWhile_append_of_pos (by simpa using plain)]
  simp [ends]

/-- The cursor before tokens with an end token sees those before it, comments apart. -/
theorem ofTokens_of_end {before after : List Token} {stop : Token}
    (plain : ∀ token ∈ before, token.kind ≠ .endOfInput) (ends : stop.kind = .endOfInput) :
    ofTokens (before ++ stop :: after) =
      { rest := before.filter fun token => token.kind ≠ .comment, stop } := by
  have visible : (before ++ stop :: after).filter (fun token => token.kind ≠ .comment) =
      before.filter (fun token => token.kind ≠ .comment) ++
        stop :: after.filter fun token => token.kind ≠ .comment := by
    rw [List.filter_append, List.filter_cons_of_pos (by simp [ends])]
  have plainVisible : ∀ token ∈ before.filter (fun token => token.kind ≠ .comment),
      token.kind ≠ .endOfInput :=
    fun token member => plain token (List.mem_filter.mp member).1
  generalize before.filter (fun token => token.kind ≠ .comment) = shown at visible plainVisible
  have found : (shown ++ stop :: after.filter fun token => token.kind ≠ .comment).find?
      (fun token => token.kind = .endOfInput) = some stop := by
    rw [List.find?_append, List.find?_eq_none.mpr (by simpa using plainVisible)]
    simp [ends]
  rw [ofTokens, visible, takeWhile_of_end plainVisible ends, found]
  rfl

/-- Of tokens in front of an end token, or of nothing, a cursor sees all but the comments. -/
theorem rest_ofTokens_of_plain {tokens ending : List Token}
    (plain : ∀ token ∈ tokens, token.kind ≠ .endOfInput)
    (ends : ∀ token ∈ ending.head?, token.kind = .endOfInput) :
    (ofTokens (tokens ++ ending)).rest = tokens.filter fun token => token.kind ≠ .comment := by
  cases ending with
  | nil =>
    rw [List.append_nil]
    apply List.takeWhile_eq_self_iff.mpr
    intro token member
    exact decide_eq_true (plain token (List.mem_filter.mp member).1)
  | cons stop ending => rw [ofTokens_of_end plain (ends stop rfl)]

end Cursor

namespace Parse

variable {α β : Type} {before after cursor : Cursor}

/-! ## Sequences of actions -/

/-- A sequence of actions succeeds exactly if each of them does. -/
theorem bind_eq_ok_iff {first : Parse α} {next : α → Parse β} {value : β} :
    (first >>= next).run before = .ok value after ↔
      ∃ middle cursor, first.run before = .ok middle cursor ∧
        (next middle).run cursor = .ok value after := by
  rw [EStateM.run_bind]
  cases first.run before with
  | ok middle cursor =>
    constructor
    · intro done
      exact ⟨middle, cursor, rfl, done⟩
    · rintro ⟨_, _, same, done⟩
      cases same
      exact done
  | error error cursor => simp

theorem pure_eq_ok_iff {value result : α} :
    (pure value : Parse α).run before = .ok result after ↔ value = result ∧ before = after := by
  rw [EStateM.run_pure, EStateM.Result.ok.injEq]

/-- An action whose answer is only changed succeeds exactly if it does. -/
theorem map_eq_ok_iff {action : Parse α} {result : α → β} {value : β} :
    (action >>= fun found => pure (result found)).run before = .ok value after ↔
      ∃ found, action.run before = .ok found after ∧ result found = value := by
  rw [bind_eq_ok_iff]
  constructor
  · rintro ⟨found, cursor, done, last⟩
    obtain ⟨same, rfl⟩ := pure_eq_ok_iff.mp last
    exact ⟨found, done, same⟩
  · rintro ⟨found, done, rfl⟩
    exact ⟨found, after, done, rfl⟩

theorem bind_of_ok {first : Parse α} {next : α → Parse β} {middle : α}
    (done : first.run before = .ok middle cursor) :
    (first >>= next).run before = (next middle).run cursor := by
  rw [EStateM.run_bind, done]

theorem bind_of_error {first : Parse α} {next : α → Parse β} {error : GrammarError}
    (failed : first.run before = .error error cursor) :
    (first >>= next).run before = .error error cursor := by
  rw [EStateM.run_bind, failed]

/-! ## Actions on the cursor -/

@[simp] theorem kindAt_bind (distance : Nat) (next : Kind → Parse β) :
    (kindAt distance >>= next).run cursor = (next (cursor.kindAt distance)).run cursor := rfl

@[simp] theorem current_bind (next : Token → Parse β) :
    (current >>= next).run cursor = (next cursor.token).run cursor := rfl

@[simp] theorem take_bind (next : Token → Parse β) :
    (take >>= next).run cursor = (next cursor.token).run cursor.next := rfl

@[simp] theorem skip_bind (next : Unit → Parse β) :
    (skip >>= next).run cursor = (next ()).run cursor.next := rfl

@[simp] theorem failWith_run (cause : GrammarError.Cause) (tokens : List Token) :
    (failWith cause tokens : Parse α).run cursor = .error { cause, tokens } cursor := rfl

@[simp] theorem fail_run (cause : GrammarError.Cause) :
    (fail cause : Parse α).run cursor = .error { cause, tokens := [cursor.token] } cursor := rfl

@[simp] theorem failSince_run (cause : GrammarError.Cause) (earlier : Token) :
    (failSince cause earlier : Parse α).run cursor =
      .error { cause, tokens := [cursor.token, earlier] } cursor := rfl

theorem accept_run (kind : Kind) :
    (accept kind).run cursor =
      if cursor.kindAt 0 = kind then .ok true cursor.next else .ok false cursor := by
  rw [accept, kindAt_bind]
  split <;> rfl

theorem accept_bind (kind : Kind) (next : Bool → Parse β) :
    (accept kind >>= next).run cursor =
      if cursor.kindAt 0 = kind then (next true).run cursor.next else (next false).run cursor := by
  rw [EStateM.run_bind, accept_run]
  by_cases seen : cursor.kindAt 0 = kind
  · rw [if_pos seen, if_pos seen]
  · rw [if_neg seen, if_neg seen]

theorem expect_run (kind : Kind) :
    (expect kind).run cursor =
      if cursor.kindAt 0 = kind then .ok cursor.token cursor.next
      else .error { cause := .expected kind, tokens := [cursor.token] } cursor := by
  rw [expect, kindAt_bind]
  split <;> rfl

theorem expect_eq_ok_iff {kind : Kind} {token : Token} :
    (expect kind).run before = .ok token after ↔
      before.kindAt 0 = kind ∧ before.token = token ∧ before.next = after := by
  rw [expect_run]
  split <;> simp_all

theorem close_eq_ok_iff {shape : Bracket} {opener : Token} {done : Unit} :
    (close shape opener).run before = .ok done after ↔
      before.kindAt 0 = .closing shape ∧ before.next = after := by
  rw [close, kindAt_bind]
  split
  · next seen => simp [skip, EStateM.run, seen]
  · next seen => split <;> simp [seen]

/-! ## Repetition -/

/-- An item that reads at least one token whenever it answers a value. -/
def Progresses (item : Parse (Option α)) : Prop :=
  ∀ before value after, item.run before = .ok (some value) after →
    after.rest.length < before.rest.length

/-- `Repeats item before values after` says that rounds of `item` that each answer a value lead
from one cursor to the other. -/
inductive Repeats (item : Parse (Option α)) : Cursor → List α → Cursor → Prop where
  | done (cursor : Cursor) : Repeats item cursor [] cursor
  | round {before cursor after : Cursor} {value : α} {values : List α}
      (answered : item.run before = .ok (some value) cursor)
      (others : Repeats item cursor values after) : Repeats item before (value :: values) after

/-- More rounds than tokens change nothing for an item that progresses. -/
theorem manyWithin_eq_of_lt {item : Parse (Option α)} (progresses : Progresses item)
    {rounds others : List Token} (enough : before.rest.length < rounds.length)
    (enoughOthers : before.rest.length < others.length) :
    (manyWithin item rounds).run before = (manyWithin item others).run before := by
  induction rounds generalizing others before with
  | nil => simp at enough
  | cons token rounds ih =>
    cases others with
    | nil => simp at enoughOthers
    | cons other others =>
      rw [manyWithin, manyWithin]
      cases answered : item.run before with
      | error error cursor => rw [bind_of_error answered, bind_of_error answered]
      | ok answer cursor =>
        rw [bind_of_ok answered, bind_of_ok answered]
        cases answer with
        | none => rfl
        | some value =>
          have shorter := progresses before value cursor answered
          have same :
              (manyWithin item rounds).run cursor = (manyWithin item others).run cursor := by
            simp only [List.length_cons] at enough enoughOthers
            exact ih (by omega) (by omega)
          simp only [EStateM.run_bind, same]

/-- Repetition is the item, and then repetition again if the item has answered a value. -/
theorem many_run {item : Parse (Option α)} (progresses : Progresses item) :
    (many item).run before =
      (item >>= fun answer =>
        match answer with
        | none => pure []
        | some value => many item >>= fun values => pure (value :: values)).run before := by
  change (manyWithin item (before.stop :: before.rest)).run before = _
  rw [manyWithin]
  cases answered : item.run before with
  | error error cursor => rw [bind_of_error answered, bind_of_error answered]
  | ok answer cursor =>
    rw [bind_of_ok answered, bind_of_ok answered]
    cases answer with
    | none => rfl
    | some value =>
      have shorter := progresses before value cursor answered
      have same : (manyWithin item before.rest).run cursor = (many item).run cursor :=
        manyWithin_eq_of_lt progresses shorter (by simp)
      simp only [EStateM.run_bind, same]

/-- Repetition goes on from where some rounds have led. -/
theorem Repeats.many_run {item : Parse (Option α)} (progresses : Progresses item)
    {values : List α} (rounds : Repeats item before values after) :
    (many item).run before = (many item >>= fun others => pure (values ++ others)).run after := by
  induction rounds with
  | done cursor => simp
  | @round before cursor after value values answered _ ih =>
    rw [Parse.many_run progresses, bind_of_ok answered]
    simp only [EStateM.run_bind, ih]
    cases (many item).run after <;> rfl

/-- Rounds that read on lead to one that answers no value. -/
theorem exists_repeats {item : Parse (Option α)} (progresses : Progresses item)
    (before : Cursor) :
    ∃ values last, Repeats item before values last ∧ values.length ≤ before.rest.length ∧
      ∀ value after, item.run last ≠ .ok (some value) after := by
  -- by induction on how many tokens are ahead
  induction length : before.rest.length using Nat.strongRecOn generalizing before with
  | ind length ih =>
    by_cases goesOn : ∃ value cursor, item.run before = .ok (some value) cursor
    · obtain ⟨value, cursor, answered⟩ := goesOn
      have shorter := progresses before value cursor answered
      obtain ⟨values, last, rounds, fits, ended⟩ := ih _ (length ▸ shorter) cursor rfl
      refine ⟨value :: values, last, .round answered rounds, ?_, ended⟩
      rw [List.length_cons]
      omega
    · refine ⟨[], before, .done before, Nat.zero_le _, ?_⟩
      intro value after answered
      exact goesOn ⟨value, after, answered⟩

/-- Repetition answers the values of rounds up to one that answers none. -/
theorem many_eq_ok_iff {item : Parse (Option α)} (progresses : Progresses item)
    {values : List α} :
    (many item).run before = .ok values after ↔
      ∃ last, Repeats item before values last ∧ item.run last = .ok none after := by
  constructor
  · intro done
    obtain ⟨found, last, rounds, -, ended⟩ := exists_repeats progresses before
    rw [rounds.many_run progresses] at done
    obtain ⟨others, repeated, rfl⟩ := map_eq_ok_iff.mp done
    rw [many_run progresses] at repeated
    obtain ⟨answer, cursor, answered, rest⟩ := bind_eq_ok_iff.mp repeated
    cases answer with
    | some value => exact absurd answered (ended value cursor)
    | none =>
      obtain ⟨rfl, rfl⟩ := pure_eq_ok_iff.mp rest
      rw [List.append_nil]
      exact ⟨last, rounds, answered⟩
  · rintro ⟨last, rounds, ended⟩
    rw [rounds.many_run progresses]
    refine map_eq_ok_iff.mpr ⟨[], ?_, List.append_nil values⟩
    rw [many_run progresses, bind_of_ok ended, EStateM.run_pure]

/-! ## Lists -/

/-- A comma and an item, or nothing. -/
def afterComma (item : Parse α) : Parse (Option α) := do
  if ← accept .comma then return some (← item) else return none

theorem separated_eq_many (item : Parse α) :
    separated item = do return (← item) :: (← many (afterComma item)) := rfl

/-- Items with commas between them, or nothing before the closing bracket. -/
def listed (shape : Bracket) (item : Parse α) : Parse (List α) := do
  if (← kindAt 0) = .closing shape then return [] else separated item

theorem enclosed_eq_listed (shape : Bracket) (item : Token → Parse α) :
    enclosed shape item = do
      let opener ← expect (.opening shape)
      let items ← listed shape (item opener)
      close shape opener
      return items := by
  unfold enclosed listed
  simp only [bind_assoc]
  congr 1
  funext opener
  congr 1
  funext kind
  split <;> rfl

end Parse

end Kite
