import Kite.Proofs.Stream.QuotedLiterals

/-!
# Which tokens make up a literal

A token sequence falls, from left to right, into tokens of other kinds and stretches that
begin at a token of a quoted kind and extend through the next later token of that kind, or
to the end of the sequence if there is none. There is just one such partition
(`Partition.unique`), and `joinLiterals` makes one token at most of each of its stretches
(`joinLiterals_eq_filterMap_joined`). Nothing is assumed about where the tokens come from:
the tokens of a stretch may have any text, and the end token may be among them.
-/

set_option autoImplicit false

namespace Kite.Stream

/-- A token outside literals, or the tokens of a literal. -/
inductive Stretch where
  | single (token : Token)
  /-- A literal: the token that opens it, and the others up to the one that closes it. -/
  | literal (opening : Token) (others : List Token)
  deriving DecidableEq, Repr

/-- The token that a stretch becomes, if it does not vanish. The token of a literal stands for the
opening one and has the text of the stretch without its first and last character; a stretch whose
text is a single character vanishes. -/
def Stretch.joined? : Stretch → Option Token
  | single token => some token
  | literal opening others =>
    let text := String.join ((opening :: others).map Token.lexeme)
    if text.length = 1 then none
    else some {
      kind := opening.kind
      lexeme := String.ofList text.toList.tail.dropLast
      position := opening.position
      closed := opening.closed
      internal := false }

/-- The stretches into which a token sequence falls. -/
inductive Partition : List Token → List Stretch → Prop where
  | nil : Partition [] []
  | single {token : Token} {tokens : List Token} {stretches : List Stretch}
      (unquoted : token.kind.isQuoted = false) (later : Partition tokens stretches) :
      Partition (token :: tokens) (.single token :: stretches)
  /-- A literal ends at the next token of its kind. -/
  | closed {opening closing : Token} {inner tokens : List Token} {stretches : List Stretch}
      (quoted : opening.kind.isQuoted = true)
      (foreign : ∀ token ∈ inner, token.kind ≠ opening.kind)
      (closes : closing.kind = opening.kind) (later : Partition tokens stretches) :
      Partition (opening :: (inner ++ closing :: tokens))
        (.literal opening (inner ++ [closing]) :: stretches)
  /-- Where no token of its kind follows, a literal takes all that follows. -/
  | unclosed {opening : Token} {others : List Token} (quoted : opening.kind.isQuoted = true)
      (foreign : ∀ token ∈ others, token.kind ≠ opening.kind) :
      Partition (opening :: others) [.literal opening others]

/-! ## There is one partition only -/

/-- A sequence splits at the first token of a kind in one way only. -/
theorem eq_of_append_cons_eq {kind : Kind} {closing other : Token}
    {inner tokens before after : List Token} (foreign : ∀ token ∈ inner, token.kind ≠ kind)
    (closes : closing.kind = kind) (absent : ∀ token ∈ before, token.kind ≠ kind)
    (found : other.kind = kind) (same : inner ++ closing :: tokens = before ++ other :: after) :
    inner = before ∧ closing = other ∧ tokens = after := by
  rcases List.append_eq_append_iff.mp same with ⟨more, rfl, rest⟩ | ⟨more, rfl, rest⟩
  · cases more with
    | nil => simpa using rest
    | cons first more =>
      obtain ⟨rfl, -⟩ := List.cons.inj rest
      exact absurd closes (absent closing (by simp))
  · cases more with
    | nil => simpa [eq_comm] using rest
    | cons first more =>
      obtain ⟨rfl, -⟩ := List.cons.inj rest
      exact absurd found (foreign other (by simp))

theorem Partition.unique {tokens : List Token} {stretches others : List Stretch}
    (one : Partition tokens stretches) (two : Partition tokens others) : others = stretches := by
  induction one generalizing others with
  | nil => cases two with | nil => rfl
  | single unquoted _ ih =>
    cases two with
    | single _ later => rw [ih later]
    | closed quoted => simp [quoted] at unquoted
    | unclosed quoted => simp [quoted] at unquoted
  | @closed opening closing inner tokens stretches quoted foreign closes _ ih =>
    generalize all : opening :: (inner ++ closing :: tokens) = whole at two
    cases two with
    | nil => simp at all
    | single unquoted =>
      obtain ⟨rfl, -⟩ := List.cons.inj all
      simp [quoted] at unquoted
    | closed _ absent found later =>
      obtain ⟨rfl, rest⟩ := List.cons.inj all
      obtain ⟨rfl, rfl, rfl⟩ := eq_of_append_cons_eq foreign closes absent found rest
      rw [ih later]
    | unclosed _ absent =>
      obtain ⟨rfl, rfl⟩ := List.cons.inj all
      exact absurd closes (absent closing (by simp))
  | @unclosed opening rest quoted foreign =>
    generalize all : opening :: rest = whole at two
    cases two with
    | nil => simp at all
    | single unquoted =>
      obtain ⟨rfl, -⟩ := List.cons.inj all
      simp [quoted] at unquoted
    | @closed _ closing _ _ _ _ _ found =>
      obtain ⟨rfl, rfl⟩ := List.cons.inj all
      exact absurd found (foreign closing (by simp))
    | unclosed =>
      obtain ⟨rfl, rfl⟩ := List.cons.inj all
      rfl

theorem exists_partition (tokens : List Token) : ∃ stretches, Partition tokens stretches := by
  -- a literal may take any number of tokens, so the induction is on how many are left
  induction length : tokens.length using Nat.strongRecOn generalizing tokens with
  | ind length ih =>
    subst length
    cases tokens with
    | nil => exact ⟨[], .nil⟩
    | cons opening tokens =>
      cases quoted : opening.kind.isQuoted with
      | false =>
        obtain ⟨stretches, later⟩ := ih tokens.length (by simp) tokens rfl
        exact ⟨_, .single quoted later⟩
      | true =>
        cases found : tokens.find? fun token => token.kind = opening.kind with
        | none =>
          refine ⟨_, .unclosed quoted fun token member => ?_⟩
          simpa using List.find?_eq_none.mp found token member
        | some closing =>
          obtain ⟨closes, inner, after, rfl, foreign⟩ := List.find?_eq_some_iff_append.mp found
          obtain ⟨stretches, later⟩ := ih after.length (by simp; omega) after rfl
          exact ⟨_, .closed quoted (by simpa using foreign) (by simpa using closes) later⟩

/-! ## The stretches that are joined -/

/-- The token that has gathered a stretch becomes the token of the stretch. -/
theorem stripDelimiters?_gathered {opening : Token} (quoted : opening.kind.isQuoted = true)
    (others : List Token) :
    stripDelimiters? { opening with
        internal := false
        lexeme := opening.lexeme ++ String.join (others.map Token.lexeme) } =
      (Stretch.literal opening others).joined? := by
  simp [stripDelimiters?, Stretch.joined?, quoted]

/-- Joining makes of each stretch the token that it becomes. -/
theorem Partition.joinLiterals_eq {tokens : List Token} {stretches : List Stretch}
    (partition : Partition tokens stretches) :
    joinLiterals tokens = stretches.filterMap Stretch.joined? := by
  induction partition with
  | nil => rfl
  | single unquoted _ ih =>
    rw [joinLiterals_cons_of_unquoted unquoted, ih]
    rfl
  | @closed opening closing inner tokens stretches quoted foreign closes _ ih =>
    have gathered : gatherLiterals none (opening :: (inner ++ closing :: tokens)) =
        { opening with
          internal := false
          lexeme := opening.lexeme ++ String.join ((inner ++ [closing]).map Token.lexeme) } ::
          gatherLiterals none tokens := by
      have taken := gatherLiterals_some_append { opening with internal := false } foreign
        (closing :: tokens)
      rw [gatherLiterals, if_pos quoted, taken, gatherLiterals, if_pos closes]
      simp [String.append_assoc]
    rw [joinLiterals, gathered, List.filterMap_cons, List.filterMap_cons,
      stripDelimiters?_gathered quoted, ← ih]
    rfl
  | @unclosed opening others quoted foreign =>
    have gathered : gatherLiterals none (opening :: others) =
        [{ opening with
          internal := false
          lexeme := opening.lexeme ++ String.join (others.map Token.lexeme) }] := by
      have taken := gatherLiterals_some_append { opening with internal := false } foreign []
      rw [List.append_nil] at taken
      rw [gatherLiterals, if_pos quoted, taken, gatherLiterals]
    rw [joinLiterals, gathered, List.filterMap_cons, List.filterMap_cons,
      stripDelimiters?_gathered quoted]
    rfl

/-- Every token sequence falls into stretches in just one way, and joining literals makes one token
at most of each stretch. -/
theorem joinLiterals_eq_filterMap_joined (tokens : List Token) :
    ∃ stretches, Partition tokens stretches ∧
      (∀ others, Partition tokens others → others = stretches) ∧
      joinLiterals tokens = stretches.filterMap Stretch.joined? := by
  obtain ⟨stretches, partition⟩ := exists_partition tokens
  exact ⟨stretches, partition, fun others other => partition.unique other,
    partition.joinLiterals_eq⟩

end Kite.Stream
