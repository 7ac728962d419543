import Kite.Proofs.Grammar.Printing
import Kite.Proofs.Grammar.Soundness

/-!
# Outcomes before printed symbols

`Cursor.Shows` says that printed symbols lie ahead of a cursor. An action that reads them
either answers the tree, if the levels that may still be opened suffice for it, or
refuses it because of too deep nesting: `Parse.Limited` says which, and it is kept by
sequences, by repetition and by lists in brackets.
-/

set_option autoImplicit false

namespace Kite

/-! ## Cursors before printed symbols -/

/-- Between the two cursors lie tokens that spell the symbols. -/
def Cursor.Shows : Cursor → List Symbol → Cursor → Prop
  | before, [], after => before = after
  | before, symbol :: symbols, after =>
    before.rest ≠ [] ∧ symbol.SpelledBy before.token ∧ before.next.Shows symbols after

namespace Cursor

variable {before after cursor : Cursor}

theorem shows_append {symbols others : List Symbol} :
    before.Shows (symbols ++ others) after ↔
      ∃ middle, before.Shows symbols middle ∧ middle.Shows others after := by
  induction symbols generalizing before with
  | nil => simp [Shows]
  | cons symbol symbols ih => simp [Shows, ih, and_assoc]

theorem shows_of_forall₂ {symbols : List Symbol} {tokens : List Token} (stop : Token)
    (spelled : List.Forall₂ Symbol.SpelledBy symbols tokens) :
    Cursor.Shows { rest := tokens, stop } symbols { rest := [], stop } := by
  induction spelled with
  | nil => rfl
  | cons first _ ih => exact ⟨by simp, first, ih⟩

theorem kindAt_next (cursor : Cursor) (distance : Nat) :
    cursor.next.kindAt distance = cursor.kindAt (distance + 1) := by
  simp [next, kindAt]

theorem kindAt_of_ne_nil (ahead : cursor.rest ≠ []) : cursor.kindAt 0 = cursor.token.kind := by
  cases left : cursor.rest with
  | nil => exact absurd left ahead
  | cons first rest => simp [kindAt, Cursor.token, left]

/-- The kind that is seen before a symbol is that of the token that spells it. -/
theorem Shows.head {symbol : Symbol} {symbols : List Symbol}
    (shows : before.Shows (symbol :: symbols) after) :
    symbol.SpelledBy before.token ∧ before.kindAt 0 = before.token.kind ∧
      before.next.Shows symbols after := by
  obtain ⟨ahead, spelled, others⟩ := shows
  exact ⟨spelled, kindAt_of_ne_nil ahead, others⟩

theorem Shows.bracketed {shape : Bracket} {symbols : List Symbol}
    (shows : before.Shows (Symbol.bracketed shape symbols) after) :
    before.kindAt 0 = .opening shape ∧ ∃ closing, before.next.Shows symbols closing ∧
      closing.kindAt 0 = .closing shape ∧ closing.next = after := by
  obtain ⟨opens, openSeen, rest⟩ := Shows.head shows
  obtain ⟨closing, inner, last⟩ := shows_append.mp rest
  obtain ⟨closes, closeSeen, behind⟩ := last.head
  exact ⟨openSeen.trans opens, closing, inner, closeSeen.trans closes, behind⟩

end Cursor

/-- A literal is spelled by a number or by a quoted literal. -/
theorem Literal.kind_of_ofToken? {token : Token} {value : Literal}
    (spelled : Literal.ofToken? token = some value) :
    token.kind = .number ∨ ∃ style, token.kind = .quoted style := by
  unfold Literal.ofToken? at spelled
  split at spelled <;> simp_all

/-! ## Outcomes in limited nesting -/

/-- A result that is the expected one if the tree fits in the levels that are left, and a refusal
because of nesting otherwise. -/
structure Parse.Limited {α : Type} (fits : Prop)
    (expected result : EStateM.Result GrammarError Cursor α) : Prop where
  within : fits → result = expected
  beyond : ¬fits → ∃ tokens cursor, result = .error { cause := .nestingTooDeep, tokens } cursor

namespace Parse

variable {α β : Type} {before after cursor : Cursor}

namespace Limited

variable {fits others : Prop}

theorem of_eq {expected result : EStateM.Result GrammarError Cursor α} (same : result = expected) :
    Limited True expected result where
  within _ := same
  beyond not := absurd trivial not

theorem congr {expected result : EStateM.Result GrammarError Cursor α} (same : fits ↔ others)
    (limited : Limited fits expected result) : Limited others expected result where
  within holds := limited.within (same.mpr holds)
  beyond fails := limited.beyond fun holds => fails (same.mp holds)

/-- If the first of two parts does not fit, the second is not reached. -/
theorem trans {expected middle result : EStateM.Result GrammarError Cursor α}
    (first : Limited fits middle result) (second : Limited others expected middle) :
    Limited (fits ∧ others) expected result where
  within holds := (first.within holds.1).trans (second.within holds.2)
  beyond fails := by
    by_cases holds : fits
    · rw [first.within holds]
      exact second.beyond fun also => fails ⟨holds, also⟩
    · exact first.beyond holds

/-- An action goes on from where its first part has led. -/
theorem andThen {first : Parse α} {next : α → Parse β} {middle : α}
    {expected : EStateM.Result GrammarError Cursor β}
    (limited : Limited fits (.ok middle cursor) (first.run before))
    (onward : (next middle).run cursor = expected) :
    Limited fits expected ((first >>= next).run before) where
  within holds := (bind_of_ok (limited.within holds)).trans onward
  beyond fails := by
    obtain ⟨tokens, cursor, failed⟩ := limited.beyond fails
    exact ⟨tokens, cursor, bind_of_error failed⟩

theorem bind {first : Parse α} {next : α → Parse β} {middle : α}
    {expected : EStateM.Result GrammarError Cursor β}
    (limited : Limited fits (.ok middle cursor) (first.run before))
    (onward : Limited others expected ((next middle).run cursor)) :
    Limited (fits ∧ others) expected ((first >>= next).run before) :=
  (limited.andThen rfl).trans onward

end Limited

/-! ## Lists -/

section Lists

variable {fits : α → Prop} {symbols : α → List Symbol} {values : List α}

/-- Rounds read one part after the other. What follows a part is the next one or what follows
them all. -/
theorem limited_many {item : Parse (Option α)} (part : α → List Symbol)
    (follows : Cursor → Prop) (progresses : Progresses item)
    (begins : ∀ value before after, before.Shows (part value) after → follows before)
    (each : ∀ value ∈ values, ∀ before after, before.Shows (part value) after →
      follows after → Limited (fits value) (.ok (some value) after) (item.run before))
    (ends : follows after) (last : item.run after = .ok none after)
    (shows : before.Shows (values.flatMap part) after) :
    Limited (∀ value ∈ values, fits value) (.ok values after) ((many item).run before) := by
  induction values generalizing before with
  | nil =>
    obtain rfl : before = after := shows
    rw [many_run progresses, bind_of_ok last]
    exact (Limited.of_eq rfl).congr (by simp)
  | cons value values ih =>
    rw [List.flatMap_cons, Cursor.shows_append] at shows
    obtain ⟨middle, one, others⟩ := shows
    have next : follows middle := by
      cases values with
      | nil =>
        obtain rfl : middle = after := others
        exact ends
      | cons second values =>
        rw [List.flatMap_cons, Cursor.shows_append] at others
        obtain ⟨_, second, _⟩ := others
        exact begins _ _ _ second
    have first := each value List.mem_cons_self before middle one next
    have rest := ih (fun value member => each value (List.mem_cons_of_mem _ member)) others
    rw [many_run progresses]
    refine Limited.congr List.forall_mem_cons.symm (first.bind ?_)
    exact rest.andThen rfl

variable {shape : Bracket}

theorem limited_afterComma {item : Parse α} {value : α}
    (shows : before.Shows (.comma :: symbols value) after)
    (each : ∀ before, before.Shows (symbols value) after →
      Limited (fits value) (.ok value after) (item.run before)) :
    Limited (fits value) (.ok (some value) after) ((afterComma item).run before) := by
  obtain ⟨comma, seen, inner⟩ := shows.head
  rw [afterComma, accept_bind, if_pos (seen.trans comma)]
  exact (each _ inner).andThen rfl

/-- Items with commas between them are read one after the other. What follows an item is a comma
or the closing bracket. -/
theorem limited_separated {item : Parse α} {relation : List Token → α → Prop} {first : α}
    (reads : ∀ before, item.Reads relation before)
    (each : ∀ value ∈ first :: values, ∀ before after : Cursor,
      before.Shows (symbols value) after →
      after.kindAt 0 = .comma ∨ after.kindAt 0 = .closing shape →
      Limited (fits value) (.ok value after) (item.run before))
    (closes : after.kindAt 0 = .closing shape)
    (shows : before.Shows (Symbol.separated ((first :: values).map symbols)) after) :
    Limited (∀ value ∈ first :: values, fits value) (.ok (first :: values) after)
      ((separated item).run before) := by
  obtain ⟨middle, one, rest⟩ := Cursor.shows_append.mp shows
  rw [List.flatMap_map] at rest
  have follows : middle.kindAt 0 = .comma ∨ middle.kindAt 0 = .closing shape := by
    cases values with
    | nil =>
      obtain rfl : middle = after := rest
      exact .inr closes
    | cons second others =>
      obtain ⟨comma, seen, _⟩ := Cursor.Shows.head rest
      exact .inl (seen.trans comma)
  have stops : (afterComma item).run after = .ok none after := by
    rw [afterComma, accept_bind, if_neg (by simp [closes])]
    rfl
  have others : Limited (∀ value ∈ values, fits value) (.ok values after)
      ((many (afterComma item)).run middle) := by
    apply limited_many (fun value => .comma :: symbols value)
      (fun cursor => cursor.kindAt 0 = .comma ∨ cursor.kindAt 0 = .closing shape)
      (progresses_afterComma reads) ?_ ?_ (.inr closes) stops rest
    · intro value before after shows
      obtain ⟨comma, seen, _⟩ := shows.head
      exact .inl (seen.trans comma)
    · intro value member before after shows follows
      exact limited_afterComma shows fun before inner =>
        each value (List.mem_cons_of_mem _ member) before after inner follows
  rw [separated_eq_many]
  refine Limited.congr List.forall_mem_cons.symm
    ((each first List.mem_cons_self _ _ one follows).bind ?_)
  exact others.andThen rfl

theorem limited_enclosed {item : Token → Parse α} {relation : List Token → α → Prop}
    (reads : ∀ opener before, (item opener).Reads relation before)
    (begins : ∀ value ∈ values, ∀ before after : Cursor, before.Shows (symbols value) after →
      before.kindAt 0 ≠ .closing shape)
    (each : ∀ value ∈ values, ∀ opener, ∀ before after : Cursor,
      before.Shows (symbols value) after →
      after.kindAt 0 = .comma ∨ after.kindAt 0 = .closing shape →
      Limited (fits value) (.ok value after) ((item opener).run before))
    (shows : before.Shows (Symbol.bracketed shape (Symbol.separated (values.map symbols))) after) :
    Limited (∀ value ∈ values, fits value) (.ok values after)
      ((enclosed shape item).run before) := by
  obtain ⟨openSeen, closing, inner, closeSeen, rfl⟩ := shows.bracketed
  have opened : (expect (.opening shape)).run before = .ok before.token before.next :=
    expect_eq_ok_iff.mpr ⟨openSeen, rfl, rfl⟩
  have closed : (close shape before.token).run closing = .ok () closing.next :=
    close_eq_ok_iff.mpr ⟨closeSeen, rfl⟩
  rw [enclosed_eq_listed, bind_of_ok opened]
  refine Limited.andThen ?_ (bind_of_ok closed)
  rw [listed, kindAt_bind]
  cases values with
  | nil =>
    obtain rfl : before.next = closing := inner
    rw [if_pos closeSeen]
    exact (Limited.of_eq rfl).congr (by simp)
  | cons first others =>
    have starts : before.next.kindAt 0 ≠ .closing shape := by
      obtain ⟨middle, one, _⟩ := Cursor.shows_append.mp inner
      exact begins first List.mem_cons_self _ _ one
    rw [if_neg starts]
    exact limited_separated (reads _) (fun value member => each value member _) closeSeen inner

end Lists

end Parse

end Kite
