import Kite.Proofs.Scanning.Symbols
import Kite.Proofs.Stream.Ending

/-!
# Operators in the source text

Where operator characters stand for nothing else but operators, joining the pieces of a
text again gives pieces that cover the text (`gathered_formed`). Each operator among them is
a stretch of operator characters that knows whether another one follows it. If one does,
then what follows is an arrow, which is never part of an operator, or a hyphen that a lone
compound operator leaves apart. `lex_operators` states this for the tidy tokens of a text.
-/

set_option autoImplicit false

namespace Kite

variable {lexicon : Lexicon}

namespace Stream

/-- An operator before the pieces that follow it in the text. -/
structure WholeOperator (lexicon : Lexicon) (piece : Piece) (rest : List Piece) : Prop where
  kind : piece.kind = .operator ∨ piece.kind = .hyphen
  spelled : piece.Spelled
  symbols : ∀ c ∈ piece.source, lexicon.isSymbol c = true
  closed : piece.closed = some (lexicon.closedBefore (rest.flatMap Piece.source))
  glued : lexicon.closedBefore (rest.flatMap Piece.source) = false →
    ∃ next others, rest = next :: others ∧
      (next.kind = .arrow ∨
        (next.kind = .operator ∨ next.kind = .hyphen) ∧ next.lexeme.toList.head? = some '-' ∧
          piece.kind = .operator ∧ piece.lexeme ∈ lexicon.compounds)

/-- Pieces of a text among which the operators are whole and everything else is no operator. -/
inductive Formed (lexicon : Lexicon) : List Piece → Prop where
  | nil : Formed lexicon []
  | operator {piece : Piece} {rest : List Piece} (whole : WholeOperator lexicon piece rest)
      (others : Formed lexicon rest) : Formed lexicon (piece :: rest)
  | other {piece : Piece} {rest : List Piece} (notOperator : piece.kind ≠ .operator)
      (notHyphen : piece.kind ≠ .hyphen)
      (unknown : piece.kind = .unknown → ∃ c ∈ piece.lexeme.toList, lexicon.isSymbol c = false)
      (others : Formed lexicon rest) : Formed lexicon (piece :: rest)

theorem Formed.whole_of_cons {piece : Piece} {rest : List Piece}
    (formed : Formed lexicon (piece :: rest))
    (kind : piece.kind = .operator ∨ piece.kind = .hyphen) :
    WholeOperator lexicon piece rest := by
  cases formed with
  | operator whole _ => exact whole
  | other notOperator notHyphen _ _ =>
    rcases kind with operator | hyphen
    · exact absurd operator notOperator
    · exact absurd hyphen notHyphen

/-- A run of operator pieces that stands just before the text `after`. -/
structure Pending (lexicon : Lexicon) (run : List Piece) (after : List Char) : Prop where
  spelled : ∀ piece ∈ run, piece.Spelled
  symbols : ∀ piece ∈ run, ∀ c ∈ piece.source, lexicon.isSymbol c = true
  closed : ∀ last ∈ run.getLast?, last.closed = some (lexicon.closedBefore after)
  alone : ∀ only, run = [only] → only.kind = .operator → only.lexeme ∈ lexicon.compounds

theorem pending_nil (after : List Char) : Pending lexicon [] after := by
  constructor <;> simp

theorem pending_singleton {piece : Piece} {after : List Char}
    (before : piece.OperatorBefore lexicon after) : Pending lexicon [piece] after where
  spelled := by simpa using before.spelled
  symbols := by simpa using before.symbols
  closed := by simpa using before.closed
  alone := by
    rintro only same kind
    obtain rfl := List.singleton_inj.mp same
    exact before.compound kind

theorem Pending.append {run : List Piece} {piece : Piece} {text after : List Char}
    (pending : Pending lexicon run text) (nonempty : run ≠ [])
    (before : piece.OperatorBefore lexicon after) : Pending lexicon (run ++ [piece]) after where
  spelled := List.forall_mem_append.mpr ⟨pending.spelled, by simpa using before.spelled⟩
  symbols := List.forall_mem_append.mpr ⟨pending.symbols, by simpa using before.symbols⟩
  closed := by simpa using before.closed
  alone := by
    intro only same
    cases run with
    | nil => exact absurd rfl nonempty
    | cons first others => simp at same

/-- The operator of a pending run covers the text of the run and is closed if the run is. -/
theorem Pending.exists_operator {run : List Piece} {after : List Char}
    (pending : Pending lexicon run after) (nonempty : run ≠ []) (position : Position) :
    ∃ piece : Piece,
      operatorOfRun (Piece.place position run).reverse = [piece.token position] ∧
        piece.source = run.flatMap Piece.source ∧
        (piece.kind = .operator ∨ piece.kind = .hyphen) ∧ piece.Spelled ∧
        piece.closed = some (lexicon.closedBefore after) ∧
        ∀ only, run = [only] → only.kind = .operator →
          piece.kind = .operator ∧ piece.lexeme ∈ lexicon.compounds := by
  rcases run with _ | ⟨first, _ | ⟨second, others⟩⟩
  · exact absurd rfl nonempty
  · have closed : first.closed = some (lexicon.closedBefore after) := by
      simpa using pending.closed
    refine ⟨{ first with kind := if first.kind = .hyphen then .hyphen else .operator }, rfl,
      by simp, ?_, ?_, closed, ?_⟩
    · by_cases hyphen : first.kind = .hyphen <;> simp [hyphen]
    · have spelled : first.Spelled := by simpa using pending.spelled
      exact ⟨spelled.lexeme, spelled.nonempty⟩
    · rintro only same kind
      obtain rfl := List.singleton_inj.mp same
      exact ⟨by simp [kind], pending.alone first rfl kind⟩
  · obtain ⟨middle, last, split⟩ : ∃ middle last, second :: others = middle ++ [last] :=
      ⟨_, _, (List.dropLast_concat_getLast (by simp)).symm⟩
    rw [split] at pending ⊢
    have lexemes := Piece.join_lexeme_place pending.spelled position
    have closed : last.closed = some (lexicon.closedBefore after) := by
      apply pending.closed
      rw [← List.cons_append, List.getLast?_append]
      rfl
    refine ⟨{
      kind := .operator
      source := (first :: (middle ++ [last])).flatMap Piece.source
      closed := last.closed
      internal := first.internal }, ?_, rfl, .inl rfl, ?_, closed, ?_⟩
    · simp only [Piece.place_cons, Piece.place_append, Piece.place_nil] at lexemes ⊢
      rw [operatorOfRun_reverse, lexemes]
      rfl
    · have firstSpelled := pending.spelled first List.mem_cons_self
      exact Piece.spelled_of_ne_nil (by simp [firstSpelled.nonempty])
    · rintro only same
      simp at same

/-- The pending run is not continued, although an operator character follows it, only by a hyphen
behind a lone operator. -/
theorem Pending.of_not_continuesRun {run : List Piece} {text : List Char} {token : Token}
    (pending : Pending lexicon run text) (nonempty : run ≠ []) {position : Position}
    (apart : continuesRun (Piece.place position run).reverse token = false)
    (glued : lexicon.closedBefore text = false) :
    token.kind = .hyphen ∧ ∃ only, run = [only] ∧ only.kind = .operator := by
  rcases run with _ | ⟨first, _ | ⟨second, others⟩⟩
  · exact absurd rfl nonempty
  · have closed : first.closed = some false := by
      simpa [glued] using pending.closed
    have both : token.kind = .hyphen ∧ first.kind = .operator := by
      simpa [continuesRun, Piece.token, Token.isGlued, closed] using apart
    exact ⟨both.1, first, rfl, both.2⟩
  · obtain ⟨middle, last, split⟩ : ∃ middle last, second :: others = middle ++ [last] :=
      ⟨_, _, (List.dropLast_concat_getLast (by simp)).symm⟩
    rw [split] at pending apart
    have closed : last.closed = some false := by
      rw [← glued]
      apply pending.closed
      rw [← List.cons_append, List.getLast?_append]
      rfl
    simp [Piece.place_append, continuesRun, Piece.token, Token.isGlued, closed] at apart

/-! ## Joining a whole text -/

/-- Tokens at `position` that are formed pieces of a pending run and of the text after it. The first
of them is an operator if a run is pending. -/
def Forms (lexicon : Lexicon) (position : Position) (run : List Piece) (text : List Char)
    (tokens : List Token) : Prop :=
  ∃ pieces, tokens = Piece.place position pieces ∧
    pieces.flatMap Piece.source = run.flatMap Piece.source ++ text ∧ Formed lexicon pieces ∧
    (run ≠ [] → ∃ first others, pieces = first :: others ∧
      (first.kind = .operator ∨ first.kind = .hyphen))

/-- A pending run becomes an operator before formed pieces. If an operator character follows it,
these begin with an arrow, or with a hyphen and the run is a lone operator. -/
theorem Pending.forms {run : List Piece} {text : List Char} (pending : Pending lexicon run text)
    (position : Position) {rest : List Piece} (formed : Formed lexicon rest)
    (covers : rest.flatMap Piece.source = text)
    (apart : run ≠ [] → lexicon.closedBefore text = false →
      ∃ next others, rest = next :: others ∧
        (next.kind = .arrow ∨
          (next.kind = .operator ∨ next.kind = .hyphen) ∧ next.lexeme.toList.head? = some '-' ∧
            ∃ only, run = [only] ∧ only.kind = .operator)) :
    Forms lexicon position run text
      (operatorOfRun (Piece.place position run).reverse ++
        Piece.place (position.past (run.flatMap Piece.source)) rest) := by
  by_cases nonempty : run = []
  · subst nonempty
    exact ⟨rest, by simp, by simpa using covers, formed, fun absent => absurd rfl absent⟩
  obtain ⟨piece, joins, source, kind, spelled, closed, alone⟩ :=
    pending.exists_operator nonempty position
  refine ⟨piece :: rest, by simp [joins, source], by simp [source, covers],
    .operator ⟨kind, spelled, ?_, by rw [closed, covers], ?_⟩ formed, fun _ => ⟨_, _, rfl, kind⟩⟩
  · rw [source]
    intro c member
    obtain ⟨part, listed, inside⟩ := List.mem_flatMap.mp member
    exact pending.symbols part listed c inside
  · rw [covers]
    intro glued
    obtain ⟨next, others, follows, arrow | ⟨operator, hyphen, only, lone, kind⟩⟩ :=
      apart nonempty glued
    · exact ⟨next, others, follows, .inl arrow⟩
    · exact ⟨next, others, follows, .inr ⟨operator, hyphen, alone only lone kind⟩⟩

/-- The piece of the end token. -/
def stop : Piece where
  kind := .endOfInput
  source := []
  lexeme := "EOF"

/-- What joining operators makes of a pending run at `position` and of the pieces after it. -/
def gathered (lexicon : Lexicon) (position : Position) (run rest : List Piece) : List Token :=
  gatherOperators lexicon (Piece.place position run).reverse
    (Piece.place (position.past (run.flatMap Piece.source)) rest)

section Steps

variable {run rest : List Piece} {text after : List Char} {position : Position}
  {segment : Segment}

/-- A piece that continues the pending run waits with it. -/
theorem forms_of_continues {piece : Piece} (covers : piece.source ++ after = text)
    (isPiece : isOperatorPiece lexicon
      (piece.token (position.past (run.flatMap Piece.source))) = true)
    (continues : continuesRun (Piece.place position run).reverse
      (piece.token (position.past (run.flatMap Piece.source))) = true)
    (onward : Forms lexicon position (run ++ [piece]) after
      (gathered lexicon position (run ++ [piece]) rest)) :
    Forms lexicon position run text (gathered lexicon position run (piece :: rest)) := by
  obtain ⟨pieces, tokens, source, formed, begins⟩ := onward
  refine ⟨pieces, ?_, by simpa [← covers] using source, formed, fun _ => begins (by simp)⟩
  rw [← tokens, gathered, Piece.place_cons, gatherOperators, if_pos isPiece, if_pos continues]
  simp [gathered, Piece.place_append, Position.past_append]

/-- A piece that does not continue the pending run begins another one. -/
theorem Pending.forms_of_apart {piece : Piece} (pending : Pending lexicon run text)
    (covers : piece.source ++ after = text) (before : piece.OperatorBefore lexicon after)
    (isPiece : isOperatorPiece lexicon
      (piece.token (position.past (run.flatMap Piece.source))) = true)
    (apart : continuesRun (Piece.place position run).reverse
      (piece.token (position.past (run.flatMap Piece.source))) = false)
    (onward : Forms lexicon (position.past (run.flatMap Piece.source)) [piece] after
      (gathered lexicon (position.past (run.flatMap Piece.source)) [piece] rest)) :
    Forms lexicon position run text (gathered lexicon position run (piece :: rest)) := by
  obtain ⟨pieces, tokens, source, formed, begins⟩ := onward
  have flushed : gathered lexicon position run (piece :: rest) =
      operatorOfRun (Piece.place position run).reverse ++
        Piece.place (position.past (run.flatMap Piece.source)) pieces := by
    rw [← tokens, gathered, Piece.place_cons, gatherOperators, if_pos isPiece,
      if_neg (by simp [apart])]
    simp [gathered]
  rw [flushed]
  refine pending.forms position formed (by simpa [covers] using source) fun nonempty glued => ?_
  obtain ⟨hyphen, lone⟩ := pending.of_not_continuesRun nonempty apart glued
  obtain ⟨next, others, rfl, kind⟩ := begins (by simp)
  refine ⟨next, others, rfl, .inr ⟨kind, ?_, lone⟩⟩
  have spelled := (formed.whole_of_cons kind).spelled
  -- the text goes on with the hyphen that was not taken into the run
  have starts : next.source ++ others.flatMap Piece.source = '-' :: after := by
    simpa [before.hyphen hyphen] using source
  rw [spelled.lexeme]
  cases shown : next.source with
  | nil => exact absurd shown spelled.nonempty
  | cons c characters => simpa using (List.cons.inj (by simpa [shown] using starts)).1

/-- A piece of another kind ends the pending run. -/
theorem Pending.forms_of_other (symbolic : lexicon.Symbolic) (reserves : lexicon.ReservesQuoted)
    (pending : Pending lexicon run text) (taken : Segment.Taken lexicon text segment after)
    (notPiece : isOperatorPiece lexicon
      (segment.joined.token (position.past (run.flatMap Piece.source))) = false)
    (onward : Forms lexicon
      ((position.past (run.flatMap Piece.source)).past segment.joined.source) [] after
      (gathered lexicon ((position.past (run.flatMap Piece.source)).past segment.joined.source)
        [] rest)) :
    Forms lexicon position run text (gathered lexicon position run (segment.joined :: rest)) := by
  obtain ⟨pieces, tokens, source, formed, -⟩ := onward
  have flushed : gathered lexicon position run (segment.joined :: rest) =
      operatorOfRun (Piece.place position run).reverse ++
        Piece.place (position.past (run.flatMap Piece.source)) (segment.joined :: pieces) := by
    rw [Piece.place_cons, ← tokens, gathered, Piece.place_cons, gatherOperators,
      if_neg (by simp [notPiece])]
    simp [gathered]
  have other : Formed lexicon (segment.joined :: pieces) := by
    refine .other ?_ ?_ ?_ formed
    · intro kind
      simp [isOperatorPiece, Piece.token, kind] at notPiece
    · intro kind
      simp [isOperatorPiece, Piece.token, kind] at notPiece
    · exact fun kind => taken.exists_of_unknown symbolic reserves kind notPiece
  have covers : (segment.joined :: pieces).flatMap Piece.source = text := by
    rw [List.flatMap_cons, source, Segment.joined_source]
    exact taken.source_append
  rw [flushed]
  refine pending.forms position other covers fun _ glued => ⟨_, _, rfl, .inl ?_⟩
  cases text with
  | nil => simp [Lexicon.closedBefore] at glued
  | cons c characters =>
    have symbol : lexicon.isSymbol c = true := by simpa [Lexicon.closedBefore] using glued
    rcases taken.of_symbol symbolic symbol with arrow | isPiece
    · exact arrow
    · simp [isPiece] at notPiece

end Steps

/-- Joining the operators of a text, with a run pending before it, gives formed pieces. -/
theorem gathered_formed (symbolic : lexicon.Symbolic) (reserves : lexicon.ReservesQuoted)
    {text rest : List Char} {segments : List Segment} (run : Scan.Run lexicon text segments rest)
    (ended : rest = []) {pending : List Piece} (waits : Pending lexicon pending text)
    (position : Position) :
    Forms lexicon position pending text
      (gathered lexicon position pending (segments.map Segment.joined ++ [stop])) := by
  induction run generalizing pending position with
  | done text =>
    subst ended
    have formed : Formed lexicon [stop] :=
      .other (by decide) (by decide) (fun kind => by simp [stop] at kind) .nil
    exact waits.forms position formed rfl fun _ glued => by simp [Lexicon.closedBefore] at glued
  | @step text middle _ segment segments taken _ ih =>
    have covers : segment.joined.source ++ middle = text := by
      rw [Segment.joined_source, taken.source_append]
    rw [List.map_cons, List.cons_append]
    cases isPiece : isOperatorPiece lexicon
        (segment.joined.token (position.past (pending.flatMap Piece.source))) with
    | false =>
      have onward := ih ended (pending_nil middle)
        ((position.past (pending.flatMap Piece.source)).past segment.joined.source)
      exact waits.forms_of_other symbolic reserves taken isPiece onward
    | true =>
      have before := taken.operatorPiece symbolic reserves isPiece
      cases continues : continuesRun (Piece.place position pending).reverse
          (segment.joined.token (position.past (pending.flatMap Piece.source))) with
      | false =>
        have onward := ih ended (pending_singleton before)
          (position.past (pending.flatMap Piece.source))
        exact waits.forms_of_apart covers before isPiece continues onward
      | true =>
        have nonempty : pending ≠ [] := by
          rintro rfl
          simp [continuesRun] at continues
        have onward := ih ended (waits.append nonempty before) position
        exact forms_of_continues covers isPiece continues onward

/-! ## The operators of the tidy stream -/

/-- The rest of formed pieces is formed. -/
theorem Formed.of_append {earlier later : List Piece}
    (formed : Formed lexicon (earlier ++ later)) : Formed lexicon later := by
  induction earlier with
  | nil => exact formed
  | cons piece earlier ih =>
    cases formed with
    | operator _ others => exact ih others
    | other _ _ _ others => exact ih others

/-- An operator or a hyphen between the texts `earlier` and `later` and before the tokens
`after`. -/
structure OperatorBetween (lexicon : Lexicon) (earlier : List Char) (token : Token)
    (later : List Char) (after : List Token) : Prop where
  position : token.position = .behind earlier
  symbols : lexicon.isOperatorText token.lexeme = true
  /-- A token that could be extended touches an arrow, or it is a compound operator and touches a
  token that begins with a hyphen. -/
  glued : token.closed = some false →
    ∃ next others, after = next :: others ∧
      next.position = .behind (earlier ++ token.lexeme.toList) ∧
      (next.kind = .arrow ∨
        next.lexeme.toList.head? = some '-' ∧ token.kind = .operator ∧
          token.lexeme ∈ lexicon.compounds)
  closed : token.closed = some true → ∀ c, later.head? = some c → lexicon.isSymbol c = false

/-- Among the tokens of formed pieces, blanks apart, each operator knows what follows it. -/
theorem Formed.operatorBetween {earlier later : List Piece} {piece : Piece}
    (formed : Formed lexicon (earlier ++ piece :: later))
    (kind : piece.kind = .operator ∨ piece.kind = .hyphen) :
    OperatorBetween lexicon (earlier.flatMap Piece.source)
      (piece.token (Position.start.past (earlier.flatMap Piece.source)))
      (later.flatMap Piece.source)
      (dropBlanks (Piece.place
        (Position.start.past ((earlier ++ [piece]).flatMap Piece.source)) later)) := by
  have whole := formed.of_append.whole_of_cons kind
  refine ⟨Position.start_past _, ?_, ?_, ?_⟩
  · have symbols : ∀ c ∈ piece.lexeme.toList, lexicon.isSymbol c = true := by
      rw [whole.spelled.lexeme]
      exact whole.symbols
    simpa [Lexicon.isOperatorText, Piece.token, whole.spelled.lexeme_ne_empty] using symbols
  · intro glued
    have extendable : lexicon.closedBefore (later.flatMap Piece.source) = false := by
      simpa [Piece.token, whole.closed] using glued
    obtain ⟨next, others, rfl, follows⟩ := whole.glued extendable
    have notBlank : next.kind ≠ .whitespace := by
      rcases follows with arrow | ⟨operator | hyphen, -⟩ <;> simp [*]
    have kept : ∀ place, dropBlanks (Piece.place place (next :: others)) =
        next.token place :: dropBlanks (Piece.place (place.past next.source) others) :=
      fun place => List.filter_cons_of_pos (decide_eq_true notBlank)
    refine ⟨_, _, kept _, ?_, follows.imp_right And.right⟩
    rw [← Position.start_past]
    simp [Piece.token, whole.spelled.lexeme]
  · intro closed
    have closed : lexicon.closedBefore (later.flatMap Piece.source) = true := by
      simpa [Piece.token, whole.closed] using closed
    intro c follows
    obtain ⟨rest, text⟩ := List.head?_eq_some_iff.mp follows
    simpa [text, Lexicon.closedBefore] using closed

theorem Formed.exists_of_unknown {pieces : List Piece} (formed : Formed lexicon pieces) :
    ∀ piece ∈ pieces, piece.kind = .unknown →
      ∃ c ∈ piece.lexeme.toList, lexicon.isSymbol c = false := by
  induction formed with
  | nil => simp
  | @operator piece rest whole _ ih =>
    refine List.forall_mem_cons.mpr ⟨fun unknown => ?_, ih⟩
    rcases whole.kind with kind | kind <;> simp [kind] at unknown
  | other _ _ unknown _ ih => exact List.forall_mem_cons.mpr ⟨unknown, ih⟩

/-- The tidy tokens of a text are formed pieces of it, blanks apart. -/
theorem exists_formed_of_lex {entries : List Lexicon.Entry}
    (operators : Lexicon.AreOperators entries) {text : String} {tokens : List Token}
    (lexed : lex (Lexicon.standard.extend entries) text = .ok tokens) :
    ∃ pieces, tokens = dropBlanks (Piece.place Position.start pieces) ∧
      pieces.flatMap Piece.source = text.toList ∧
      Formed (Lexicon.standard.extend entries) pieces := by
  have distinct := operators.distinctQuotes
  obtain ⟨run, rfl⟩ := tokens_of_lex_of_distinct distinct lexed
  obtain ⟨pieces, tokens, covers, formed, -⟩ :=
    gathered_formed operators.symbolic distinct.reservesQuoted run rfl (pending_nil _)
      Position.start
  refine ⟨pieces, ?_, by simpa using covers, formed⟩
  have covered : (((Scan.ofText (Lexicon.standard.extend entries) text.toList).segments.map
      Segment.joined).flatMap Piece.source) = text.toList := by
    simpa [List.flatMap_map, Segment.joined_source] using run.source_append
  have apart : isOperatorPiece (Lexicon.standard.extend entries)
      (Token.endOfInput (Position.behind text.toList)) = false := rfl
  have last : Piece.place (Position.behind text.toList) [stop] =
      [Token.endOfInput (Position.behind text.toList)] := rfl
  have whole := joinOperators_append_cons apart
    (Piece.place .start ((Scan.ofText (Lexicon.standard.extend entries)
      text.toList).segments.map Segment.joined)) []
  rw [← tokens]
  simp only [gathered, List.reverse_nil, Piece.place_nil, List.flatMap_nil, Position.past_nil,
    Piece.place_append, covered, Position.start_past, last]
  change _ = dropBlanks (joinOperators _ _)
  rw [whole, dropBlanks, dropBlanks, List.filter_append]
  rfl

/-- Under an extension of the standard lexicon by compound operators of operator characters, an
operator or a hyphen among the tidy tokens of a text is a stretch of operator characters of the
text. It says whether another one follows it, and if so, then what follows is an arrow, or the
token is a compound operator and a hyphen follows. No unknown token is left that consists of
operator characters. -/
theorem lex_operators {entries : List Lexicon.Entry} (operators : Lexicon.AreOperators entries)
    {text : String} {tokens : List Token}
    (lexed : lex (Lexicon.standard.extend entries) text = .ok tokens) :
    (∀ token ∈ tokens, token.kind = .unknown →
        ∃ c ∈ token.lexeme.toList, (Lexicon.standard.extend entries).isSymbol c = false) ∧
      ∀ before token after, tokens = before ++ token :: after →
        token.kind = .operator ∨ token.kind = .hyphen →
        ∃ earlier later, text.toList = earlier ++ token.lexeme.toList ++ later ∧
          OperatorBetween (Lexicon.standard.extend entries) earlier token later after := by
  obtain ⟨pieces, rfl, covers, formed⟩ := exists_formed_of_lex operators lexed
  constructor
  · intro token member unknown
    obtain ⟨piece, listed, place, rfl⟩ := Piece.exists_of_mem_place (List.mem_filter.mp member).1
    exact formed.exists_of_unknown piece listed unknown
  · intro before token after split kind
    obtain ⟨first, second, placed, -, dropped⟩ := List.filter_eq_append_iff.mp split
    obtain ⟨blanks, others, rfl, -, -, rfl⟩ := List.filter_eq_cons_iff.mp dropped
    rw [← List.append_assoc] at placed
    obtain ⟨earlier, piece, later, rfl, -, rfl, rfl⟩ := Piece.exists_of_place_eq placed
    have between := formed.operatorBetween kind
    have spelled := (formed.of_append.whole_of_cons kind).spelled
    refine ⟨_, _, ?_, between⟩
    simp [← covers, Piece.token, spelled.lexeme]

/-- A new compound operator before a hyphen, and an operator of one character before an arrow. -/
theorem lex_operators_glued :
    Lexicon.AreOperators [.compound "<=>"] ∧
      ∃ tokens, lex (Lexicon.standard.extend [.compound "<=>"]) "a<=>-1 &->b" = .ok tokens ∧
        tokens = [
          { kind := .identifier, lexeme := "a", position := ⟨1, 1⟩ },
          { kind := .operator, lexeme := "<=>", position := ⟨1, 2⟩, closed := some false },
          { kind := .hyphen, lexeme := "-", position := ⟨1, 5⟩, closed := some true },
          { kind := .number, lexeme := "1", position := ⟨1, 6⟩ },
          { kind := .operator, lexeme := "&", position := ⟨1, 8⟩, closed := some false },
          { kind := .arrow, lexeme := "->", position := ⟨1, 9⟩, closed := some true },
          { kind := .identifier, lexeme := "b", position := ⟨1, 11⟩ },
          Token.endOfInput ⟨1, 12⟩] ∧
        ∀ before token after, tokens = before ++ token :: after →
          token.kind = .operator ∨ token.kind = .hyphen →
          ∃ earlier later, "a<=>-1 &->b".toList = earlier ++ token.lexeme.toList ++ later ∧
            OperatorBetween (Lexicon.standard.extend [.compound "<=>"]) earlier token later
              after := by
  have operators : Lexicon.AreOperators [.compound "<=>"] := by
    intro entry member
    obtain rfl := List.mem_singleton.mp member
    exact ⟨"<=>", rfl, List.all_eq_true.mp (by decide)⟩
  exact ⟨operators, _, by decide +kernel, rfl, (lex_operators operators (by decide +kernel)).2⟩

end Stream

end Kite
