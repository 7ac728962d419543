import Kite.Proofs.Stream.OperatorRuns

/-!
# Which pieces make up an operator

A token sequence falls into blocks: a token that is no operator piece is a block of its own,
and a piece goes on with the block of the piece before it if it touches that piece and is not
a hyphen behind a lone operator (`Block.ContinuedBy`). There is just one such division
(`Division.unique`), and `joinOperators` makes one token of each of its blocks
(`joinOperators_eq_map_joined`). Nothing is assumed about where the tokens come from.
-/

set_option autoImplicit false

namespace Kite.Stream

/-- A stretch of at least one token. -/
structure Block where
  first : Token
  rest : List Token := []
  deriving DecidableEq, Repr

namespace Block

/-- All tokens of a block. -/
def tokens (block : Block) : List Token :=
  block.first :: block.rest

/-- The last token of a block. -/
def last (block : Block) : Token :=
  block.rest.getLastD block.first

/-- Whether a piece that follows the last piece of a block goes on with the block. -/
def ContinuedBy (block : Block) (piece : Token) : Prop :=
  block.last.closed = some false ∧
    ¬ (block.rest = [] ∧ block.first.kind = .operator ∧ piece.kind = .hyphen)

/-- The token that a block becomes. A token that is no piece stays as it is. Pieces become an
operator that has the text of all of them, stands where the first of them stands and is closed if
the last of them is; only a lone hyphen remains a hyphen. -/
def joined (lexicon : Lexicon) (block : Block) : Token :=
  if isOperatorPiece lexicon block.first then
    { kind := if block.rest = [] ∧ block.first.kind = .hyphen then .hyphen else .operator
      lexeme := String.join (block.tokens.map Token.lexeme)
      position := block.first.position
      closed := block.last.closed
      internal := block.first.internal }
  else block.first

/-- A block of a single token, or of pieces each of which goes on with those before it. -/
structure Whole (lexicon : Lexicon) (block : Block) : Prop where
  apart : ∀ token ∈ block.tokens, isOperatorPiece lexicon token = false → block.rest = []
  continues : ∀ earlier piece later, block.rest = earlier ++ piece :: later →
    ContinuedBy { block with rest := earlier } piece

/-- Whether a block ends before the given tokens: the next of them does not go on with it, or one of
the two is no piece. -/
def EndsBefore (lexicon : Lexicon) (block : Block) (tokens : List Token) : Prop :=
  ∀ next ∈ tokens.head?, isOperatorPiece lexicon block.first = true →
    isOperatorPiece lexicon next = true → ¬ block.ContinuedBy next

end Block

/-- The tokens fall into whole blocks, each of which ends before the next one. -/
inductive Division (lexicon : Lexicon) : List Token → List Block → Prop where
  | nil : Division lexicon [] []
  | cons {block : Block} {tokens : List Token} {blocks : List Block}
      (whole : block.Whole lexicon) (ends : block.EndsBefore lexicon tokens)
      (others : Division lexicon tokens blocks) :
      Division lexicon (block.tokens ++ tokens) (block :: blocks)

variable {lexicon : Lexicon}

/-! ## There is one division only -/

namespace Block

theorem Whole.isOperatorPiece {block : Block} (whole : block.Whole lexicon)
    (several : block.rest ≠ []) {token : Token} (member : token ∈ block.tokens) :
    isOperatorPiece lexicon token = true := by
  cases piece : Stream.isOperatorPiece lexicon token with
  | true => rfl
  | false => exact absurd (whole.apart token member piece) several

/-- A block that ends before what follows it is not the beginning of a longer one. -/
theorem EndsBefore.eq_nil {block longer : Block} {more tokens : List Token}
    (ends : block.EndsBefore lexicon (more ++ tokens)) (whole : longer.Whole lexicon)
    (split : longer.tokens = block.tokens ++ more) : more = [] := by
  obtain ⟨sameFirst, sameRest⟩ : longer.first = block.first ∧ longer.rest = block.rest ++ more :=
    List.cons.inj split
  cases more with
  | nil => rfl
  | cons next more =>
    have several : longer.rest ≠ [] := by simp [sameRest]
    have first : Stream.isOperatorPiece lexicon block.first = true :=
      sameFirst ▸ whole.isOperatorPiece several List.mem_cons_self
    have piece : Stream.isOperatorPiece lexicon next = true :=
      whole.isOperatorPiece several (by simp [split])
    have continued := whole.continues block.rest next more sameRest
    rw [sameFirst] at continued
    exact absurd continued (ends next rfl first piece)

end Block

theorem Division.unique {tokens : List Token} {blocks others : List Block}
    (one : Division lexicon tokens blocks) (two : Division lexicon tokens others) :
    others = blocks := by
  induction one generalizing others with
  | nil =>
    generalize none : ([] : List Token) = tokens at two
    cases two with
    | nil => rfl
    | cons whole ends later => simp [Block.tokens] at none
  | @cons block tokens blocks whole ends _ ih =>
    generalize same : block.tokens ++ tokens = all at two
    cases two with
    | nil => simp [Block.tokens] at same
    | @cons other remaining laterBlocks otherWhole otherEnds later =>
      -- of two blocks at the same place one is the beginning of the other
      have equal : other.tokens = block.tokens ∧ remaining = tokens := by
        rcases List.append_eq_append_iff.mp same with ⟨more, longer, rfl⟩ | ⟨more, longer, rfl⟩
        · obtain rfl := ends.eq_nil otherWhole longer
          exact ⟨by simpa using longer, rfl⟩
        · obtain rfl := otherEnds.eq_nil whole longer
          exact ⟨by simpa using longer.symm, rfl⟩
      obtain ⟨sameTokens, rfl⟩ := equal
      obtain ⟨sameFirst, sameRest⟩ := List.cons.inj sameTokens
      obtain rfl : other = block := by
        cases other
        cases block
        simp_all
      rw [ih later]

/-! ## The blocks that are joined -/

namespace Block

theorem whole_singleton (token : Token) : Whole lexicon { first := token } where
  apart _ _ _ := rfl
  continues _ _ _ split := by simp at split

/-- A block that goes on with one more piece. -/
def extended (block : Block) (piece : Token) : Block :=
  { block with rest := block.rest ++ [piece] }

theorem tokens_extended (block : Block) (piece : Token) :
    (block.extended piece).tokens = block.tokens ++ [piece] := rfl

theorem Whole.extended {block : Block} (whole : block.Whole lexicon)
    (first : Stream.isOperatorPiece lexicon block.first = true) {piece : Token}
    (isPiece : Stream.isOperatorPiece lexicon piece = true) (continued : block.ContinuedBy piece) :
    (block.extended piece).Whole lexicon where
  apart token member other := by
    rw [tokens_extended, List.mem_append, List.mem_singleton] at member
    rcases member with known | rfl
    · -- a block with a token that is no piece has no other one, but this one begins with a piece
      have lone := whole.apart token known other
      have same : token = block.first := by simpa [tokens, lone] using known
      simp [same, first] at other
    · simp [isPiece] at other
  continues earlier next later split := by
    have split : block.rest ++ [piece] = earlier ++ next :: later := split
    rcases List.eq_nil_or_concat later with rfl | ⟨middle, last, rfl⟩
    · obtain ⟨rfl, rfl⟩ := List.append_inj' split rfl |>.imp_right List.singleton_inj.mp
      exact continued
    · rw [List.concat_eq_append, ← List.cons_append, ← List.append_assoc] at split
      exact whole.continues earlier next middle (List.append_inj' split rfl).1

theorem operatorOfRun_reverse {block : Block}
    (first : Stream.isOperatorPiece lexicon block.first = true) :
    operatorOfRun block.tokens.reverse = [block.joined lexicon] := by
  obtain ⟨first, rest⟩ := block
  rcases List.eq_nil_or_concat rest with rfl | ⟨middle, last, rfl⟩
  · simp_all [tokens, joined, Block.last]
  · rw [List.concat_eq_append, tokens, Stream.operatorOfRun_reverse]
    simp_all [tokens, joined, Block.last]

theorem continuesRun_reverse (block : Block) (piece : Token) :
    continuesRun block.tokens.reverse piece = true ↔ block.ContinuedBy piece := by
  obtain ⟨first, rest⟩ := block
  rcases List.eq_nil_or_concat rest with rfl | ⟨middle, last, rfl⟩
  · have lone : continuesRun [first] piece = true ↔
        first.closed = some false ∧ ¬ (piece.kind = .hyphen ∧ first.kind = .operator) := by
      grind [continuesRun, Token.isGlued]
    simpa [tokens, ContinuedBy, Block.last, and_comm] using lone
  · rw [List.concat_eq_append, tokens, ← List.cons_append, List.reverse_append]
    simp [continuesRun, ContinuedBy, Block.last, Token.isGlued]

end Block

/-- Joining what is pending and the tokens after it makes one token of each block of a division. -/
theorem exists_division (tokens : List Token) :
    (∃ blocks, Division lexicon tokens blocks ∧
        gatherOperators lexicon [] tokens = blocks.map (Block.joined lexicon)) ∧
      ∀ pending : Block, pending.Whole lexicon → isOperatorPiece lexicon pending.first = true →
        ∃ blocks, Division lexicon (pending.tokens ++ tokens) blocks ∧
          gatherOperators lexicon pending.tokens.reverse tokens =
            blocks.map (Block.joined lexicon) := by
  induction tokens with
  | nil =>
    refine ⟨⟨[], .nil, rfl⟩, fun pending whole first => ⟨[pending], .cons whole ?_ .nil, ?_⟩⟩
    · simp [Block.EndsBefore]
    · rw [gatherOperators, Block.operatorOfRun_reverse first, List.map_singleton]
  | cons token tokens ih =>
    obtain ⟨⟨unbound, divided, gathered⟩, bound⟩ := ih
    have alone : Block.Whole lexicon { first := token } := Block.whole_singleton token
    cases isPiece : isOperatorPiece lexicon token with
    | true =>
      obtain ⟨started, begins, joins⟩ := bound { first := token } alone isPiece
      refine ⟨⟨started, begins, ?_⟩, fun pending whole first => ?_⟩
      · rw [gatherOperators, if_pos isPiece]
        exact joins
      · by_cases continued : pending.ContinuedBy token
        · obtain ⟨blocks, longer, onward⟩ :=
            bound (pending.extended token) (whole.extended first isPiece continued) first
          rw [Block.tokens_extended] at longer onward
          refine ⟨blocks, by simpa using longer, ?_⟩
          rw [gatherOperators, if_pos isPiece,
            if_pos ((pending.continuesRun_reverse token).mpr continued), ← onward]
          simp
        · refine ⟨pending :: started, .cons whole ?_ begins, ?_⟩
          · intro next head _ _
            obtain rfl : token = next := by simpa using head
            exact continued
          · rw [gatherOperators, if_pos isPiece,
              if_neg (mt (pending.continuesRun_reverse token).mp continued),
              Block.operatorOfRun_reverse first, List.map_cons, ← joins]
            rfl
    | false =>
      have same : Block.joined lexicon { first := token } = token := by
        simp [Block.joined, isPiece]
      have onward : Division lexicon (token :: tokens) ({ first := token } :: unbound) := by
        refine .cons alone (fun next _ first => ?_) divided
        simp [isPiece] at first
      refine ⟨⟨_, onward, ?_⟩, fun pending whole first => ⟨pending :: _, .cons whole ?_ onward, ?_⟩⟩
      · rw [gatherOperators, if_neg (by simp [isPiece]), List.map_cons, same, gathered]
        rfl
      · intro next head _ piece
        obtain rfl : token = next := by simpa using head
        simp [isPiece] at piece
      · rw [gatherOperators, if_neg (by simp [isPiece]), Block.operatorOfRun_reverse first,
          List.map_cons, List.map_cons, same, gathered]
        rfl

/-- Every token sequence falls into blocks in just one way, and joining operators makes one token of
each block. -/
theorem joinOperators_eq_map_joined (lexicon : Lexicon) (tokens : List Token) :
    ∃ blocks, Division lexicon tokens blocks ∧
      (∀ others, Division lexicon tokens others → others = blocks) ∧
      joinOperators lexicon tokens = blocks.map (Block.joined lexicon) := by
  obtain ⟨⟨blocks, divided, joins⟩, -⟩ := @exists_division lexicon tokens
  exact ⟨blocks, divided, fun others other => divided.unique other, joins⟩

end Kite.Stream
