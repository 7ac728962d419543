import Kite.Proofs.Grammar.Soundness

/-!
# What a success depends on

An action that succeeds has read some tokens and has seen the kind behind them. It succeeds
in the same way before any other input that begins with these tokens, if the kind behind
them is alike (`Parse.Settles`): inside brackets it has to be the same kind, and at the end
of an expression any two kinds are alike that no expression goes on with
(`Kind.EndsAlike`). `Level.settles_within` shows this for every number of levels.
-/

set_option autoImplicit false

namespace Kite

/-- Whether an expression or the name that begins an assignment may go on with the kind. -/
def Kind.continues : Kind → Bool
  | .operator | .hyphen | .arrow | .opening .round | .colon => true
  | _ => false

/-- Kinds that an expression cannot tell apart behind its last token. -/
def Kind.EndsAlike (first second : Kind) : Prop :=
  first = second ∨ first.continues = false ∧ second.continues = false

theorem Kind.EndsAlike.refl (kind : Kind) : kind.EndsAlike kind := .inl rfl

/-- Kinds that a statement cannot tell apart behind its last token: it takes a semicolon there. -/
def Kind.EndsStatementAlike (first second : Kind) : Prop :=
  first.EndsAlike second ∧ (first = .semicolon ↔ second = .semicolon)

theorem Kind.EndsStatementAlike.refl (kind : Kind) : kind.EndsStatementAlike kind :=
  ⟨.refl kind, Iff.rfl⟩

theorem Kind.EndsAlike.ne_iff {first second kind : Kind} (alike : first.EndsAlike second)
    (continues : kind.continues = true) : first ≠ kind ↔ second ≠ kind := by
  rcases alike with rfl | ⟨one, two⟩
  · rfl
  · constructor
    · rintro - rfl
      simp [two] at continues
    · rintro - rfl
      simp [one] at continues

namespace Cursor

variable {before after : Cursor}

theorem Passes.kindAt_of_lt {tokens : List Token} (passes : before.Passes tokens after)
    {distance : Nat} (near : distance < tokens.length) :
    before.kindAt distance = tokens[distance].kind := by
  simp [kindAt, passes.rest, List.getElem?_append_left near, near]

theorem Passes.kindAt_length {tokens : List Token} (passes : before.Passes tokens after) :
    before.kindAt tokens.length = after.kindAt 0 := by
  simp [kindAt, passes.rest, List.getElem?_append_right]

theorem Passes.kindAt_zero {first : Token} {tokens : List Token}
    (passes : before.Passes (first :: tokens) after) : before.kindAt 0 = first.kind :=
  passes.kindAt_of_lt (Nat.succ_pos _)

theorem Passes.next {first : Token} {tokens : List Token}
    (passes : before.Passes (first :: tokens) after) : before.next.Passes tokens after where
  rest := by rw [Cursor.next, passes.rest]; rfl
  stop := passes.stop

theorem Passes.token_eq {first : Token} {tokens : List Token}
    (passes : before.Passes (first :: tokens) after) : before.token = first := by
  simp [Cursor.token, passes.rest]

theorem Passes.eq_of_nil (passes : before.Passes [] after) : before = after := by
  obtain ⟨rest, stop⟩ := passes
  cases before
  cases after
  simp_all

/-- What lies between two cursors can be passed in two parts. -/
theorem Passes.split {tokens others : List Token}
    (passes : before.Passes (tokens ++ others) after) :
    ∃ middle, before.Passes tokens middle ∧ middle.Passes others after := by
  refine ⟨{ after with rest := others ++ after.rest }, ⟨?_, passes.stop⟩, ⟨rfl, rfl⟩⟩
  rw [passes.rest, List.append_assoc]

end Cursor

namespace Parse

variable {α β : Type} {alike : Kind → Kind → Prop} {least more : Nat} {before after : Cursor}

/-- A success of the action at the cursor passes at least so many tokens, and it is repeated before
any cursors with the same tokens between them and an alike kind behind them. -/
def Settles (alike : Kind → Kind → Prop) (least : Nat) (action : Parse α) (before : Cursor) :
    Prop :=
  ∀ value after, action.run before = .ok value after →
    ∃ tokens, least ≤ tokens.length ∧ before.Passes tokens after ∧
      ∀ other behind : Cursor, other.Passes tokens behind →
        alike (after.kindAt 0) (behind.kindAt 0) → action.run other = .ok value behind

theorem Settles.of_le {action : Parse α} (settles : action.Settles alike more before)
    (enough : least ≤ more) : action.Settles alike least before := by
  intro value after done
  obtain ⟨tokens, length, settled⟩ := settles value after done
  exact ⟨tokens, Nat.le_trans enough length, settled⟩

theorem Settles.mono {action : Parse α} {finer : Kind → Kind → Prop}
    (settles : action.Settles alike least before)
    (implies : ∀ first second, finer first second → alike first second) :
    action.Settles finer least before := by
  intro value after done
  obtain ⟨tokens, length, passes, again⟩ := settles value after done
  refine ⟨tokens, length, passes, fun other behind between ends => ?_⟩
  exact again other behind between (implies _ _ ends)

theorem Settles.toEq {action : Parse α} (settles : action.Settles alike least before)
    (reflexive : ∀ kind, alike kind kind) : action.Settles Eq least before :=
  settles.mono fun _ _ same => same ▸ reflexive _

theorem Settles.congr {action other : Parse α}
    (same : ∀ cursor, action.run cursor = other.run cursor)
    (settles : other.Settles alike least before) : action.Settles alike least before := by
  intro value after done
  simp only [same] at done ⊢
  exact settles value after done

theorem settles_of_error {action : Parse α} {error : GrammarError} {cursor : Cursor}
    (failed : action.run before = .error error cursor) : action.Settles alike least before := by
  intro value after done
  simp [failed] at done

theorem settles_pure (value : α) : (pure value : Parse α).Settles alike 0 before := by
  intro result after done
  obtain ⟨rfl, rfl⟩ := pure_eq_ok_iff.mp done
  refine ⟨[], Nat.le_refl _, .refl before, fun other behind between _ => ?_⟩
  rw [between.eq_of_nil]
  rfl

/-- Two actions in sequence, the second of which reads a token, so that the first one always sees
the same kind behind it. -/
theorem Settles.through {first : Parse α} {next : α → Parse β} (more : Nat) (some : 0 < more)
    (one : first.Settles Eq least before)
    (two : ∀ value cursor, first.run before = .ok value cursor →
      (next value).Settles alike more cursor) :
    (first >>= next).Settles alike (least + more) before := by
  intro value after done
  obtain ⟨middle, cursor, answered, rest⟩ := bind_eq_ok_iff.mp done
  obtain ⟨tokens, length, passes, again⟩ := one _ _ answered
  obtain ⟨others, lengthOthers, passesOthers, againOthers⟩ := two _ _ answered _ _ rest
  refine ⟨tokens ++ others, by simp; omega, passes.trans passesOthers,
    fun other behind between ends => ?_⟩
  obtain ⟨seam, left, right⟩ := between.split
  have near : 0 < others.length := by omega
  have same : cursor.kindAt 0 = seam.kindAt 0 := by
    rw [passesOthers.kindAt_of_lt near, right.kindAt_of_lt near]
  rw [bind_of_ok (again _ _ left same)]
  exact againOthers _ _ right ends

/-- Two actions in sequence, the second of which need not read a token. -/
theorem Settles.bind {first : Parse α} {next : α → Parse β} (more : Nat)
    (reflexive : ∀ kind, alike kind kind) (one : first.Settles alike least before)
    (two : ∀ value cursor, first.run before = .ok value cursor →
      (next value).Settles alike more cursor) :
    (first >>= next).Settles alike (least + more) before := by
  intro value after done
  obtain ⟨middle, cursor, answered, rest⟩ := bind_eq_ok_iff.mp done
  obtain ⟨tokens, length, passes, again⟩ := one _ _ answered
  obtain ⟨others, lengthOthers, passesOthers, againOthers⟩ := two _ _ answered _ _ rest
  refine ⟨tokens ++ others, by simp; omega, passes.trans passesOthers,
    fun other behind between ends => ?_⟩
  obtain ⟨seam, left, right⟩ := between.split
  have same : alike (cursor.kindAt 0) (seam.kindAt 0) := by
    cases others with
    | nil =>
      rw [passesOthers.eq_of_nil, right.eq_of_nil]
      exact ends
    | cons first others =>
      rw [passesOthers.kindAt_of_lt (by simp), right.kindAt_of_lt (by simp)]
      exact reflexive _
  rw [bind_of_ok (again _ _ left same)]
  exact againOthers _ _ right ends

theorem Settles.map {first : Parse α} (result : α → β)
    (settles : first.Settles alike least before) :
    (first >>= fun value => pure (result value)).Settles alike least before := by
  intro value after done
  obtain ⟨middle, answered, rfl⟩ := map_eq_ok_iff.mp done
  obtain ⟨tokens, length, passes, again⟩ := settles _ _ answered
  exact ⟨tokens, length, passes, fun other behind between ends =>
    bind_of_ok (again other behind between ends)⟩

/-- A kind among the tokens that are read is the same in every repetition. -/
theorem settles_kindAt {distance : Nat} {next : Kind → Parse α} (near : distance < least)
    (settles : (next (before.kindAt distance)).Settles alike least before) :
    (kindAt distance >>= next).Settles alike least before := by
  intro value after done
  obtain ⟨tokens, length, passes, again⟩ := settles value after done
  refine ⟨tokens, length, passes, fun other behind between ends => ?_⟩
  have within : distance < tokens.length := by omega
  rw [kindAt_bind, between.kindAt_of_lt within, ← passes.kindAt_of_lt within]
  exact again other behind between ends

theorem settles_current {next : Token → Parse α} (some : 0 < least)
    (settles : (next before.token).Settles alike least before) :
    (current >>= next).Settles alike least before := by
  intro value after done
  obtain ⟨tokens, length, passes, again⟩ := settles value after done
  refine ⟨tokens, length, passes, fun other behind between ends => ?_⟩
  cases tokens with
  | nil => simp at length; omega
  | cons first tokens =>
    rw [current_bind, between.token_eq, ← passes.token_eq]
    exact again other behind between ends

/-- The kind behind what has been read so far, where it has to be the same. -/
theorem settles_kindAt_zero : (kindAt 0).Settles Eq 0 before := by
  intro value after done
  obtain ⟨rfl, rfl⟩ := EStateM.Result.ok.inj done
  refine ⟨[], Nat.le_refl _, .refl before, fun other behind between same => ?_⟩
  rw [between.eq_of_nil, same]
  rfl

theorem settles_take (ahead : before.kindAt 0 ≠ .endOfInput) : take.Settles alike 1 before := by
  intro value after done
  obtain ⟨rfl, rfl⟩ := EStateM.Result.ok.inj done
  obtain ⟨passes, -⟩ := Cursor.exists_of_kindAt rfl ahead
  refine ⟨[before.token], Nat.le_refl _, passes, fun other behind between _ => ?_⟩
  have next : other.next = behind := by
    rw [Cursor.next, between.rest, between.stop]
    rfl
  rw [← between.token_eq, ← next]
  rfl

theorem settles_skip (ahead : before.kindAt 0 ≠ .endOfInput) : skip.Settles alike 1 before :=
  ((settles_take ahead).map fun _ => ()).congr fun _ => rfl

theorem settles_expect {kind : Kind} (notEnd : kind ≠ .endOfInput) :
    (expect kind).Settles alike 1 before := by
  refine settles_kindAt Nat.one_pos ?_
  split
  next seen => exact settles_take (by rwa [seen])
  next => exact settles_of_error (fail_run _)

theorem settles_close {shape : Bracket} {opener : Token} :
    (close shape opener).Settles alike 1 before := by
  refine settles_kindAt Nat.one_pos ?_
  split
  next seen => exact settles_skip (by simp [seen])
  next =>
    split
    · exact settles_of_error (failSince_run _ _)
    · exact settles_of_error (failSince_run _ _)

theorem accept_bind_eq (kind : Kind) (next : Bool → Parse α) :
    accept kind >>= next =
      kindAt 0 >>= fun seen => if seen = kind then skip >>= fun _ => next true else next false := by
  rw [accept, bind_assoc]
  congr 1
  funext seen
  split <;> rfl

/-- A kind that no expression goes on with is not seen instead of one that it goes on with. -/
theorem settles_kindAt_ne {distance : Nat} {kind : Kind} (continues : kind.continues = true)
    (unseen : before.kindAt distance ≠ kind) {found missed : Parse α}
    (settles : missed.Settles Kind.EndsAlike distance before) :
    (kindAt distance >>= fun seen => if seen = kind then found else missed).Settles
      Kind.EndsAlike distance before := by
  intro value after done
  rw [kindAt_bind, if_neg unseen] at done
  obtain ⟨tokens, length, passes, again⟩ := settles value after done
  refine ⟨tokens, length, passes, fun other behind between ends => ?_⟩
  have alsoUnseen : other.kindAt distance ≠ kind := by
    rcases Nat.lt_or_eq_of_le length with within | rfl
    · rw [between.kindAt_of_lt within, ← passes.kindAt_of_lt within]
      exact unseen
    · rw [passes.kindAt_length] at unseen
      rw [between.kindAt_length]
      exact (ends.ne_iff continues).mp unseen
  rw [kindAt_bind, if_neg alsoUnseen]
  exact again other behind between ends

/-! ## Lists -/

theorem settles_many {item : Parse (Option α)} (reflexive : ∀ kind, alike kind kind)
    (progresses : Progresses item) (settles : ∀ before, item.Settles alike 0 before) :
    (many item).Settles alike 0 before := by
  -- every round leaves fewer tokens
  induction length : before.rest.length using Nat.strongRecOn generalizing before with
  | ind length ih =>
    subst length
    refine Settles.congr (fun _ => many_run progresses) ?_
    refine Settles.bind 0 reflexive (settles before) fun answer cursor answered => ?_
    cases answer with
    | none => exact settles_pure []
    | some value =>
      have shorter := progresses before value cursor answered
      exact (ih _ shorter rfl).map (value :: ·)

section Lists

variable {item : Parse α}

theorem settles_afterComma (settles : ∀ before, item.Settles Eq 1 before) :
    (afterComma item).Settles Eq 0 before := by
  rw [afterComma, accept_bind_eq]
  refine Settles.bind 0 Eq.refl settles_kindAt_zero fun seen cursor found => ?_
  obtain ⟨rfl, rfl⟩ := EStateM.Result.ok.inj found
  split
  next comma =>
    have ahead : before.kindAt 0 ≠ .endOfInput := by simp [comma]
    exact ((settles_skip ahead).bind 1 Eq.refl fun _ cursor _ =>
      (settles cursor).map some).of_le (Nat.zero_le _)
  next => exact settles_pure none

theorem settles_separated {relation : List Token → α → Prop}
    (reads : ∀ before, item.Reads relation before)
    (settles : ∀ before, item.Settles Eq 1 before) : (separated item).Settles Eq 1 before := by
  rw [separated_eq_many]
  refine (settles before).bind 0 Eq.refl fun first cursor _ => ?_
  exact (settles_many Eq.refl (progresses_afterComma reads) fun _ =>
    settles_afterComma settles).map (first :: ·)

theorem settles_listed {shape : Bracket} {relation : List Token → α → Prop}
    (reads : ∀ before, item.Reads relation before)
    (settles : ∀ before, item.Settles Eq 1 before) :
    (listed shape item).Settles Eq 0 before := by
  refine settles_kindAt_zero.bind 0 Eq.refl fun seen cursor _ => ?_
  split
  · exact settles_pure []
  · exact (settles_separated reads settles).of_le (Nat.zero_le _)

end Lists

/-- A list in brackets does not depend on what follows the closing bracket. -/
theorem settles_enclosed {shape : Bracket} {item : Token → Parse α}
    {relation : List Token → α → Prop}
    (reads : ∀ opener before, (item opener).Reads relation before)
    (settles : ∀ opener before, (item opener).Settles Eq 1 before) :
    (enclosed shape item).Settles alike 2 before := by
  rw [enclosed_eq_listed]
  refine Settles.through 1 Nat.one_pos (settles_expect (by simp)) fun opener cursor _ => ?_
  refine Settles.through 1 Nat.one_pos (settles_listed (reads opener) (settles opener))
    fun items cursor _ => ?_
  exact settles_close.map fun _ => items

/-! ## Parts without brackets inside -/

theorem settles_literalValue (token : Token) : (literalValue token).Settles alike 0 before := by
  unfold literalValue
  cases Literal.ofToken? token with
  | none => exact settles_of_error (failWith_run _ _)
  | some value => exact settles_pure value

theorem settles_literal (ahead : before.kindAt 0 ≠ .endOfInput)
    (reflexive : ∀ kind, alike kind kind) : literal.Settles alike 1 before :=
  (settles_take ahead).bind 0 reflexive fun token _ _ =>
    (settles_literalValue token).map Expression.literal

theorem settles_element (opener : Token) : (element opener).Settles Eq 1 before := by
  refine settles_current Nat.one_pos (settles_kindAt Nat.one_pos ?_)
  have readsLiteral (ahead : before.kindAt 0 ≠ .endOfInput) :
      (literalValue before.token >>= fun value => skip >>= fun _ =>
        pure (Element.literal value)).Settles Eq 1 before := by
    refine Settles.through 1 Nat.one_pos (settles_literalValue before.token)
      fun value cursor valued => ?_
    obtain ⟨-, rfl⟩ := literalValue_eq_ok_iff.mp valued
    exact (settles_skip ahead).map fun _ => Element.literal value
  generalize seen : before.kindAt 0 = kind
  cases kind with
  | identifier =>
    exact (settles_skip (by simp [seen])).map fun _ => Element.name before.token.lexeme
  | number => exact readsLiteral (by simp [seen])
  | quoted style => exact readsLiteral (by simp [seen])
  | endOfInput => exact settles_of_error (failSince_run _ _)
  | _ => exact settles_of_error (fail_run _)

theorem settles_parameter : parameter.Settles Eq 1 before := by
  refine settles_kindAt Nat.one_pos ?_
  split
  · exact settles_of_error (fail_run _)
  next seen =>
  have ahead : before.kindAt 0 ≠ .endOfInput := by simp_all
  refine Settles.bind 0 Eq.refl (settles_take ahead) fun name cursor _ => ?_
  refine settles_kindAt_zero.bind 0 Eq.refl fun mark cursor found => ?_
  obtain ⟨rfl, rfl⟩ := EStateM.Result.ok.inj found
  split
  · exact settles_of_error (failSince_run _ _)
  next colonSeen =>
  have ahead : cursor.kindAt 0 ≠ .endOfInput := by simp_all
  refine Settles.of_le (Settles.bind 0 Eq.refl (settles_skip ahead) fun _ cursor _ => ?_)
    (Nat.zero_le _)
  refine settles_kindAt_zero.bind 0 Eq.refl fun annotation cursor found => ?_
  obtain ⟨rfl, rfl⟩ := EStateM.Result.ok.inj found
  split
  · exact settles_of_error (failSince_run _ _)
  next annotationSeen =>
  have ahead : cursor.kindAt 0 ≠ .endOfInput := by simp_all
  exact ((settles_take ahead).map fun annotation : Token =>
    ({ name := name.lexeme, annotation := some annotation.lexeme } : Parameter)).of_le
      (Nat.zero_le _)

end Parse

/-! ## Rules -/

/-- The primaries of a level are settled up to the kind that follows them, and the scopes whatever
follows them. -/
structure Level.Settles (level : Level) : Prop where
  primary : ∀ before, level.primary.Settles Kind.EndsAlike 1 before
  scope : ∀ alike before, level.scope.Settles alike 2 before

namespace Parse

variable {level : Level} {alike : Kind → Kind → Prop} {before after : Cursor}
  {primary : List Token → Expression → Prop} {scope : List Token → List Statement → Prop}

theorem parametersAhead_bind_eq {α : Type} (next : Bool → Parse α) :
    parametersAhead >>= next =
      kindAt 1 >>= fun second => kindAt 2 >>= fun third => next (beginParameters second third) := by
  funext cursor
  exact parametersAhead_bind next

theorem settles_operation (settles : level.Settles) :
    (operation level).Settles Kind.EndsAlike 0 before := by
  by_cases ahead : before.kindAt 0 = .operator ∨ before.kindAt 0 = .hyphen
  · have notEnd : before.kindAt 0 ≠ .endOfInput := by
      rcases ahead with seen | seen <;> simp [seen]
    have reads : (take >>= fun operator => level.primary >>= fun right =>
        pure (some (operator.lexeme, right))).Settles Kind.EndsAlike 2 before :=
      (settles_take notEnd).bind 1 Kind.EndsAlike.refl fun operator cursor _ =>
        (settles.primary cursor).map fun right => some (operator.lexeme, right)
    refine Settles.of_le (settles_kindAt Nat.two_pos ?_) (Nat.zero_le 2)
    rcases ahead with seen | seen
    · rw [seen]
      exact reads
    · rw [seen]
      exact reads
  · intro value after done
    rw [operation_run, if_neg ahead] at done
    obtain ⟨rfl, rfl⟩ := EStateM.Result.ok.inj done
    refine ⟨[], Nat.le_refl _, .refl before, fun other behind between ends => ?_⟩
    obtain rfl := between.eq_of_nil
    obtain ⟨notOperator, notHyphen⟩ := not_or.mp ahead
    have alsoNone : ¬(other.kindAt 0 = .operator ∨ other.kindAt 0 = .hyphen) :=
      not_or.mpr ⟨(ends.ne_iff rfl).mp notOperator, (ends.ne_iff rfl).mp notHyphen⟩
    rw [operation_run, if_neg alsoNone]

theorem settles_expression (reads : level.Reads primary scope) (settles : level.Settles) :
    (expression level).Settles Kind.EndsAlike 1 before := by
  refine (settles.primary before).bind 0 Kind.EndsAlike.refl fun first cursor _ => ?_
  exact (settles_many Kind.EndsAlike.refl (progresses_operation reads) fun _ =>
    settles_operation settles).map _

theorem settles_body (reads : level.Reads primary scope) (settles : level.Settles) :
    (body level).Settles Kind.EndsAlike 1 before := by
  refine settles_kindAt Nat.one_pos ?_
  split
  · exact ((settles.scope _ before).map Body.scope).of_le (by decide)
  · exact (settles_expression reads settles).map Body.expression

theorem settles_argument (reads : level.Reads primary scope) (settles : level.Settles)
    (opener : Token) : (argument level opener).Settles Eq 1 before := by
  refine settles_kindAt Nat.one_pos ?_
  split
  · exact settles_of_error (failSince_run _ _)
  · exact (settles_body reads settles).toEq Kind.EndsAlike.refl

theorem settles_call (reads : level.Reads primary scope) (settles : level.Settles) :
    (call level).Settles alike 3 before := by
  refine Settles.through 2 Nat.two_pos (settles_expect (by simp)) fun callee cursor _ => ?_
  exact (settles_enclosed (fun opener _ => reads_argument reads opener)
    fun opener _ => settles_argument reads settles opener).map (Expression.call callee.lexeme)

theorem settles_function (reads : level.Reads primary scope) (settles : level.Settles) :
    (function level).Settles Kind.EndsAlike 4 before := by
  refine Settles.through 2 Nat.two_pos
    (settles_enclosed (fun _ _ => reads_parameter) fun _ _ => settles_parameter)
    fun parameters cursor _ => ?_
  refine settles_kindAt Nat.two_pos ?_
  split
  · exact settles_of_error (fail_run _)
  next seen =>
  have ahead : cursor.kindAt 0 ≠ .endOfInput := by simp_all
  refine (settles_skip ahead).bind 1 Kind.EndsAlike.refl fun _ cursor _ => ?_
  exact (settles_body reads settles).map (Expression.function parameters)

theorem settles_group (reads : level.Reads primary scope) (settles : level.Settles)
    (ahead : before.kindAt 0 ≠ .endOfInput) :
    (group level).Settles Kind.EndsAlike 3 before := by
  refine (settles_take ahead).bind 2 Kind.EndsAlike.refl fun opener cursor _ => ?_
  refine Settles.through 1 Nat.one_pos
    ((settles_expression reads settles).toEq Kind.EndsAlike.refl) fun inner cursor _ => ?_
  refine settles_close.bind 0 Kind.EndsAlike.refl fun _ cursor _ => ?_
  by_cases arrow : cursor.kindAt 0 = .arrow
  · intro value after done
    rw [kindAt_bind, if_pos arrow] at done
    simp at done
  · exact settles_kindAt_ne rfl arrow (settles_pure inner)

theorem settles_primary (reads : level.Reads primary scope) (settles : level.Settles) :
    (Parse.primary level).Settles Kind.EndsAlike 1 before := by
  refine settles_kindAt Nat.one_pos ?_
  generalize seen : before.kindAt 0 = kind
  cases kind with
  | opening shape =>
    cases shape with
    | round =>
      have ahead : before.kindAt 0 ≠ .endOfInput := by simp [seen]
      have next : (if beginParameters (before.kindAt 1) (before.kindAt 2) then function level
          else group level).Settles Kind.EndsAlike 3 before := by
        split
        · exact (settles_function reads settles).of_le (by decide)
        · exact settles_group reads settles ahead
      rw [parametersAhead_bind_eq]
      exact (settles_kindAt (by decide : 1 < 3)
        (settles_kindAt (by decide : 2 < 3) next)).of_le (by decide)
    | square =>
      exact ((settles_enclosed (fun opener _ => reads_element opener)
        fun opener _ => settles_element opener).map Expression.array).of_le (by decide)
    | curly => exact ((settles.scope _ before).map Expression.scope).of_le (by decide)
  | identifier =>
    by_cases call : before.kindAt 1 = .opening .round
    · refine Settles.of_le (settles_kindAt (by decide : 1 < 3) ?_) (by decide)
      rw [if_pos call]
      exact settles_call reads settles
    · refine settles_kindAt_ne rfl call ?_
      have ahead : before.kindAt 0 ≠ .endOfInput := by simp [seen]
      exact (settles_take ahead).map fun token => Expression.name token.lexeme
  | number => exact settles_literal (by simp [seen]) Kind.EndsAlike.refl
  | quoted style => exact settles_literal (by simp [seen]) Kind.EndsAlike.refl
  | _ => exact settles_of_error (fail_run _)

/-! ## Statements -/

theorem settles_assignment (reads : level.Reads primary scope) (settles : level.Settles) :
    (assignment level).Settles Kind.EndsAlike 3 before := by
  refine (settles_expect (by simp)).bind 2 Kind.EndsAlike.refl fun target cursor _ => ?_
  refine (settles_expect (by simp)).bind 1 Kind.EndsAlike.refl fun _ cursor _ => ?_
  exact (settles_expression reads settles).map (Statement.assignment target.lexeme)

theorem settles_bareStatement (reads : level.Reads primary scope) (settles : level.Settles) :
    (bareStatement level).Settles Kind.EndsAlike 1 before := by
  have expression : (Parse.expression level >>= fun inner =>
      pure (Statement.expression inner)).Settles Kind.EndsAlike 1 before :=
    (settles_expression reads settles).map Statement.expression
  refine settles_kindAt Nat.one_pos ?_
  generalize before.kindAt 0 = kind
  cases kind with
  | opening shape =>
    cases shape with
    | round => exact expression
    | square => exact settles_of_error (fail_run _)
    | curly => exact ((settles.scope _ before).map Statement.scope).of_le (by decide)
  | identifier =>
    by_cases assigns : before.kindAt 1 = .colon
    · refine Settles.of_le (settles_kindAt (by decide : 1 < 3) ?_) (by decide)
      rw [if_pos assigns]
      exact settles_assignment reads settles
    · exact settles_kindAt_ne rfl assigns expression
  | number => exact expression
  | quoted style => exact expression
  | _ => exact settles_of_error (fail_run _)

theorem settles_accept {kind : Kind} (notEnd : kind ≠ .endOfInput)
    (decides : ∀ first second, alike first second → (first = kind ↔ second = kind)) :
    (accept kind).Settles alike 0 before := by
  intro accepted after done
  rw [accept_run] at done
  split at done
  next seen =>
    obtain ⟨rfl, rfl⟩ := EStateM.Result.ok.inj done
    obtain ⟨passes, first⟩ := Cursor.exists_of_kindAt seen notEnd
    refine ⟨_, Nat.zero_le _, passes, fun other behind between _ => ?_⟩
    rw [accept_run, if_pos (between.kindAt_zero.trans first), between.next.eq_of_nil]
  next missing =>
    obtain ⟨rfl, rfl⟩ := EStateM.Result.ok.inj done
    refine ⟨[], Nat.le_refl _, .refl before, fun other behind between ends => ?_⟩
    obtain rfl := between.eq_of_nil
    rw [accept_run, if_neg (mt (decides _ _ ends).mpr missing)]

/-- A statement takes a semicolon that follows it, so whether one does has to be the same. -/
theorem settles_statement (reads : level.Reads primary scope) (settles : level.Settles) :
    (statement level).Settles Kind.EndsStatementAlike 1 before := by
  rw [statement, accept_bind_eq]
  refine settles_kindAt Nat.one_pos ?_
  split
  next semicolon =>
    have ahead : before.kindAt 0 ≠ .endOfInput := by simp [semicolon]
    exact (settles_skip ahead).map fun _ => none
  next =>
    have bare : (bareStatement level).Settles Kind.EndsStatementAlike 1 before :=
      (settles_bareStatement reads settles).mono fun _ _ ends => ends.1
    refine bare.bind 0 Kind.EndsStatementAlike.refl fun value cursor _ => ?_
    exact (settles_accept (by simp) fun _ _ ends => ends.2).map fun _ => some value

theorem settles_scopeEnds (opener : Token) : (scopeEnds opener).Settles Eq 0 before := by
  refine settles_kindAt_zero.bind 0 Eq.refl fun kind cursor _ => ?_
  split
  · exact settles_pure true
  · exact settles_of_error (failSince_run _ _)
  · exact settles_pure false

theorem settles_statementUnless (reads : level.Reads primary scope) (settles : level.Settles)
    {ended : Parse Bool} (peeks : ∀ before, ended.Settles Eq 0 before) :
    (statementUnless level ended).Settles Eq 0 before := by
  refine (peeks before).bind 0 Eq.refl fun held cursor _ => ?_
  split
  · exact settles_pure none
  · exact (((settles_statement reads settles).toEq Kind.EndsStatementAlike.refl).map some).of_le
      (Nat.zero_le _)

/-- A scope does not depend on what follows it. -/
theorem settles_scope (reads : level.Reads primary scope) (settles : level.Settles) :
    (Parse.scope level).Settles alike 2 before := by
  refine Settles.through 1 Nat.one_pos (settles_expect (by simp)) fun opener cursor _ => ?_
  have statements : (statementsUntil level (scopeEnds opener)).Settles Eq 0 cursor := by
    rw [statementsUntil_eq_many]
    exact (settles_many Eq.refl (progresses_statementUnless reads (peeks_scopeEnds opener))
      fun _ => settles_statementUnless reads settles fun _ => settles_scopeEnds opener).map
        (List.filterMap id)
  refine statements.through 1 Nat.one_pos fun inner cursor answered => ?_
  obtain ⟨-, -, -, held⟩ := statementsUntil_eq_ok reads (peeks_scopeEnds opener) answered
  have ahead : cursor.kindAt 0 ≠ .endOfInput := by simp [kindAt_of_scopeEnds held]
  exact (settles_skip ahead).map fun _ => inner

end Parse

/-- What the parser reads is settled by the tokens and the kind behind them, at every level. -/
theorem Level.settles_within (levels : Nat) : (Level.within levels).Settles := by
  induction levels with
  | zero =>
    exact ⟨fun _ => Parse.settles_of_error (Parse.fail_run _),
      fun _ _ => Parse.settles_of_error (Parse.fail_run _)⟩
  | succ levels ih =>
    have reads := Level.reads_derivations levels
    exact ⟨fun _ => Parse.settles_primary reads ih, fun _ _ => Parse.settles_scope reads ih⟩

end Kite
