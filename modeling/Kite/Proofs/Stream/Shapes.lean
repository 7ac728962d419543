import Kite.Proofs.Stream.Lexemes
import Kite.Proofs.Stream.Conservation
import Kite.Proofs.Scanning.Compounds

/-!
# The shapes of raw tokens

Every raw token outside literals has the shape of its kind, and it goes as far as a token of
this kind can go (`Kind.Shape`). Which tokens lie inside a literal is read off the text before
them (`Layout.isContent`), and a token knows whether an operator goes on behind it if it may be
part of one (`Token.Shaped`). Between two steps the scanner is never inside a literal
(`Layout.Settled`), so `Scan.Run.shapely` follows step by step, and
`shaped_of_tokenize` finds the text before and behind every token.
-/

set_option autoImplicit false

namespace Kite

/-! ## Shapes -/

/-- The text of a token of this kind outside literals, and what may stand behind it. -/
def Kind.Shape (kind : Kind) (text after : List Char) : Prop :=
  match kind with
  | .whitespace => ∃ c, text = [c] ∧ Lexicon.standard.isBlank c = true
  | .comment => text.head? = some '#' ∧ '\n' ∉ text ∧ ∀ c ∈ after.head?, c = '\n'
  | .operator =>
    ∃ operator ∈ Lexicon.standard.compounds, text = operator.toList ∧
      ∀ longer ∈ Lexicon.standard.compounds, operator.length < longer.length →
        ¬ longer.toList <+: text ++ after
  | .number => Segment.NumberText text ∧ ∀ c ∈ after.head?, Segment.continuesNumber c = false
  | .identifier =>
    text.head?.any Unicode.isXidStart = true ∧ (∀ c ∈ text, Segment.continuesWord c = true) ∧
      ∀ c ∈ after.head?, Segment.continuesWord c = false
  | .arrow => text = ['-', '>']
  | .hyphen => text = ['-'] ∧ after.head? ≠ some '>'
  | .dot => text = ['.'] ∧ ∀ c ∈ after.head?, c.isDigit = false
  | .quoted style => text = [style.delimiter]
  | .unknown =>
    ∃ c, text = [c] ∧ Segment.Unquoted .standard c after ∧
      Lexicon.standard.punctuation? c = none ∧ Unicode.isXidStart c = false
  | kind => ∃ c, text = [c] ∧ Lexicon.standard.punctuation? c = some kind

namespace Layout

/-- The layout behind a text that begins in the given layout. -/
def past (layout : Layout) (text : List Char) : Layout :=
  text.foldl (next .standard) layout

theorem past_append (layout : Layout) (first second : List Char) :
    layout.past (first ++ second) = (layout.past first).past second :=
  List.foldl_append

/-- Whether a character belongs to the content of a literal, delimiters left out. -/
def isContent (layout : Layout) (c : Char) : Bool :=
  match layout with
  | outside | comment => false
  | literal delimiter => c ≠ delimiter
  | escape _ => true

end Layout

/-- What a raw token is like behind a text of the given layout and before the text `after`. -/
structure Token.Shaped (layout : Layout) (token : Token) (after : List Char) : Prop where
  /-- Internal tokens are those that the content of a literal is made of. -/
  internal : token.internal = token.lexeme.toList.head?.any layout.isContent
  /-- The literal goes on behind them. -/
  content : token.internal = true →
    layout.past token.lexeme.toList = layout ∧
      (token.kind = .unknown ∨ token.kind = .escape ∨ token.kind = .whitespace ∨
        token.kind.isQuoted = true)
  shape : token.internal = false → token.kind.Shape token.lexeme.toList after
  closed : token.closed =
    if token.kind.isOperatorLike && !token.internal then some (Lexicon.standard.closedBefore after)
    else none

/-- Pieces that become shaped tokens, each before what the later ones cover and `after`. -/
inductive Shapely : Layout → List Piece → List Char → Prop where
  | nil {layout : Layout} {after : List Char} : Shapely layout [] after
  | cons {layout : Layout} {piece : Piece} {pieces : List Piece} {after : List Char}
      (shaped : ∀ position,
        (piece.token position).Shaped layout (pieces.flatMap Piece.source ++ after))
      (onward : Shapely (layout.past piece.source) pieces after) :
      Shapely layout (piece :: pieces) after

namespace Shapely

theorem append {layout : Layout} {pieces others : List Piece} {after : List Char}
    (first : Shapely layout pieces (others.flatMap Piece.source ++ after))
    (second : Shapely (layout.past (pieces.flatMap Piece.source)) others after) :
    Shapely layout (pieces ++ others) after := by
  generalize ahead : others.flatMap Piece.source ++ after = middle at first
  induction first with
  | nil => exact second
  | cons shaped _ ih =>
    subst ahead
    rw [List.flatMap_cons, Layout.past_append] at second
    exact .cons (by simpa using shaped) (ih second rfl)

/-- Each of the pieces is shaped, where it stands. -/
theorem shaped_of_split {layout : Layout} {earlier later : List Piece} {piece : Piece}
    {after : List Char} (shapely : Shapely layout (earlier ++ piece :: later) after)
    (position : Position) :
    (piece.token position).Shaped (layout.past (earlier.flatMap Piece.source))
      (later.flatMap Piece.source ++ after) := by
  induction earlier generalizing layout with
  | nil =>
    cases shapely with
    | cons shaped onward => exact shaped position
  | cons first earlier ih =>
    cases shapely with
    | cons shaped onward =>
      rw [List.flatMap_cons, Layout.past_append]
      exact ih onward

end Shapely

/-! ## Layouts between two steps -/

namespace Layout

/-- Layouts in which a step may begin: outside comments and literals, or at the end of a comment. -/
def Settled (layout : Layout) (text : List Char) : Prop :=
  layout = outside ∨ layout = comment ∧ ∀ c ∈ text.head?, c = '\n'

theorem Settled.isContent_eq_false {layout : Layout} {text : List Char}
    (settled : layout.Settled text) (c : Char) : layout.isContent c = false := by
  rcases settled with rfl | ⟨rfl, -⟩ <;> rfl

/-- Only a blank begins at the end of a comment. -/
theorem Settled.eq_outside {layout : Layout} {c : Char} {rest : List Char}
    (settled : layout.Settled (c :: rest)) (notBlank : Lexicon.standard.isBlank c = false) :
    layout = outside := by
  rcases settled with outside | ⟨-, newline⟩
  · exact outside
  · obtain rfl := newline c rfl
    exact absurd notBlank (by decide)

theorem past_of_stays {layout : Layout} {text : List Char}
    (stays : ∀ c ∈ text, layout.next .standard c = layout) : layout.past text = layout := by
  induction text with
  | nil => rfl
  | cons c text ih =>
    obtain ⟨first, others⟩ := List.forall_mem_cons.mp stays
    rw [past, List.foldl_cons, first]
    exact ih others

theorem past_inert {text : List Char} (inert : ∀ c ∈ text, Lexicon.standard.Inert c) :
    outside.past text = outside := by
  refine past_of_stays fun c member => ?_
  obtain ⟨-, notComment, notQuote⟩ := inert c member
  simp [next, notComment, notQuote]

theorem past_line {text : List Char} (line : '\n' ∉ text) : comment.past text = comment := by
  refine past_of_stays fun c member => ?_
  have other : c ≠ '\n' := fun newline => line (newline ▸ member)
  simp [next, other]

theorem past_content {delimiter : Char} {content : List Char}
    (free : Segment.Content delimiter content) :
    (literal delimiter).past content = literal delimiter := by
  induction free with
  | nil => rfl
  | escape notDelimiter _ ih => simpa [past, next, notDelimiter] using ih
  | plain notDelimiter notEscape _ ih => simpa [past, next, notDelimiter, notEscape] using ih

/-- Behind each stretch a step may begin again. -/
theorem Stretch.settled {layout : Layout} {segment : Segment} {after : List Char}
    (stretch : Stretch segment after) (settled : layout.Settled (segment.source ++ after)) :
    (layout.past segment.source).Settled after := by
  cases stretch with
  | @blank c _ blank =>
    refine .inl ?_
    rcases settled with rfl | ⟨rfl, newline⟩
    · obtain ⟨notComment, notQuote⟩ := Lexicon.not_opens_of_isBlank blank
      simp [Segment.source, past, next, notComment, notQuote]
    · obtain rfl : c = '\n' := newline c rfl
      rfl
  | comment notBlank role line ends =>
    obtain rfl := settled.eq_outside notBlank
    have opened : Layout.outside.next .standard _ = .comment := if_pos role
    refine .inr ⟨?_, ends⟩
    rw [Segment.source, past, List.foldl_cons, opened]
    exact past_line line
  | @literal kind delimiter content _ notBlank notComment role free =>
    obtain rfl := settled.eq_outside notBlank
    have opened : Layout.outside.next .standard delimiter = .literal delimiter := by
      simp [next, notComment, role]
    have filled : Layout.outside.past (delimiter :: content) = .literal delimiter := by
      rw [past, List.foldl_cons, opened]
      exact past_content free
    refine .inl ?_
    rw [Segment.source, past_append, filled]
    simp [past, next]
  | inert notBlank inert =>
    cases characters : segment.source with
    | nil => rwa [characters] at settled
    | cons c rest =>
      rw [characters] at settled inert
      obtain rfl := settled.eq_outside (inert c List.mem_cons_self).notBlank
      exact .inl (past_inert inert)

end Layout

/-! ## The pieces of a literal -/

/-- A piece of the content of a literal, in which the literal does not end. -/
theorem Token.Shaped.of_content {delimiter : Char} {piece : Piece}
    (inside : Segment.ContentPiece .standard delimiter piece)
    (free : Segment.Content delimiter piece.source) (position : Position) (after : List Char) :
    (piece.token position).Shaped (.literal delimiter) after := by
  have internal : (piece.token position).internal = true := inside.internal
  have opens : piece.source.head?.any (Layout.literal delimiter).isContent = true := by
    cases covered : piece.source with
    | nil => exact absurd covered inside.spelled.nonempty
    | cons c rest =>
      rw [covered] at free
      cases free with
      | escape notDelimiter _ => simpa [Layout.isContent] using notDelimiter
      | plain notDelimiter _ _ => simpa [Layout.isContent] using notDelimiter
  refine { internal := ?_, content := fun _ => ?_, shape := fun outside => ?_, closed := ?_ }
  · change piece.internal = piece.lexeme.toList.head?.any _
    rw [inside.internal, inside.spelled.lexeme, opens]
  · change Layout.past _ piece.lexeme.toList = _ ∧ _
    rw [inside.spelled.lexeme, Layout.past_content free]
    refine ⟨rfl, ?_⟩
    cases inside with
    | run nonempty => exact .inl rfl
    | escape c => exact .inr (.inl rfl)
    | blank blank => exact .inr (.inr (.inl rfl))
    | quote notDelimiter role =>
      exact .inr (.inr (.inr (Lexicon.distinctQuotes_standard.quoted _ _ role)))
  · simp [internal] at outside
  · have notOperator : (piece.token position).closed = none := by cases inside <;> rfl
    simp [internal, notOperator]

theorem Shapely.cons_content {delimiter : Char} {piece : Piece} {pieces : List Piece}
    {after : List Char} (inside : Segment.ContentPiece .standard delimiter piece)
    (free : Segment.Content delimiter piece.source)
    (onward : Shapely (.literal delimiter) pieces after) :
    Shapely (.literal delimiter) (piece :: pieces) after :=
  .cons (fun position => .of_content inside free position _) (by rwa [Layout.past_content free])

namespace Segment

theorem content_of_plain {delimiter : Char} {text : List Char}
    (plain : ∀ c ∈ text, c ≠ delimiter ∧ c ≠ '\\') : Content delimiter text := by
  induction text with
  | nil => exact .nil
  | cons c text ih =>
    obtain ⟨⟨notDelimiter, notEscape⟩, others⟩ := List.forall_mem_cons.mp plain
    exact .plain notDelimiter notEscape (ih others)

theorem shapely_runPieces {delimiter : Char} {run : List Char}
    (plain : ∀ c ∈ run, c ≠ delimiter ∧ c ≠ '\\') {pieces : List Piece} {after : List Char}
    (onward : Shapely (.literal delimiter) pieces after) :
    Shapely (.literal delimiter) (runPieces run ++ pieces) after := by
  unfold runPieces
  split
  · exact onward
  · next nonempty =>
    exact .cons_content (.run (by simpa using nonempty)) (content_of_plain (by simpa using plain))
      onward

/-- The pieces of a content are shaped, given the run of plain text before it backwards. -/
theorem Content.shapely {delimiter : Char} {content : List Char} (free : Content delimiter content)
    {run : List Char} (plain : ∀ c ∈ run, c ≠ delimiter ∧ c ≠ '\\') {pieces : List Piece}
    {after : List Char} (onward : Shapely (.literal delimiter) pieces after) :
    Shapely (.literal delimiter) (contentPieces .standard run content ++ pieces) after := by
  induction free generalizing run with
  | nil => exact shapely_runPieces plain onward
  | @escape c rest notDelimiter _ ih =>
    rw [contentPieces, List.append_assoc, List.cons_append]
    have later := ih (List.forall_mem_nil _)
    exact shapely_runPieces plain (.cons_content (.escape c) (.escape notDelimiter .nil) later)
  | @plain c rest notDelimiter notEscape _ ih =>
    have single : Content delimiter [c] := .plain notDelimiter notEscape .nil
    rw [contentPieces.eq_3 _ _ _ _ fun _ _ escape _ => notEscape escape]
    split
    · next blank =>
      rw [List.append_assoc, List.cons_append]
      have later := ih (List.forall_mem_nil _)
      exact shapely_runPieces plain (.cons_content (.blank blank) single later)
    · split
      · next kind role =>
        rw [List.append_assoc, List.cons_append]
        have later := ih (List.forall_mem_nil _)
        exact shapely_runPieces plain (.cons_content (.quote notDelimiter role) single later)
      · exact ih (List.forall_mem_cons.mpr ⟨⟨notDelimiter, notEscape⟩, plain⟩)

end Segment

/-! ## The pieces of a step -/

/-- A piece outside literals, with the shape of its kind. -/
theorem Token.Shaped.of_shape {layout : Layout} {piece : Piece} {after : List Char}
    (closes : ∀ c ∈ piece.source.head?, layout.isContent c = false) (spelled : piece.Spelled)
    (outside : piece.internal = false) (shape : piece.kind.Shape piece.source after)
    (closed : piece.closed =
      if piece.kind.isOperatorLike then some (Lexicon.standard.closedBefore after) else none)
    (position : Position) : (piece.token position).Shaped layout after where
  internal := by
    change piece.internal = piece.lexeme.toList.head?.any _
    rw [outside, spelled.lexeme, eq_comm, Option.any_eq_false]
    simpa using closes
  content inside := by
    change piece.internal = true at inside
    simp [outside] at inside
  shape _ := by
    change piece.kind.Shape piece.lexeme.toList after
    rwa [spelled.lexeme]
  closed := by simpa [Piece.token, outside] using closed

/-- A step outside literals takes a single piece. -/
theorem Shapely.single {layout : Layout} {text after : List Char} {piece : Piece}
    (settled : layout.Settled text) (spelled : piece.Spelled) (outside : piece.internal = false)
    (shape : piece.kind.Shape piece.source after)
    (closed : piece.closed =
      if piece.kind.isOperatorLike then some (Lexicon.standard.closedBefore after) else none) :
    Shapely layout [piece] after :=
  .cons (.of_shape (fun c _ => settled.isContent_eq_false c) spelled outside shape closed) .nil

namespace Segment

/-- The shape of a punctuation character that is no hyphen. -/
theorem shape_of_punctuation {c : Char} {rest : List Char} {kind : Kind}
    (unquoted : Unquoted .standard c rest)
    (role : Lexicon.standard.punctuation? c = some kind) (notHyphen : kind ≠ .hyphen) :
    kind.Shape [c] rest ∧ kind.isOperatorLike = false := by
  have listed := Lexicon.mem_roles_of_lookup (Lexicon.punctuation?_eq_some_iff.mp role)
  cases kind with
  | dot =>
    obtain rfl : c = '.' := by simpa [Lexicon.standard] using listed
    have noDigit : rest.head?.any Char.isDigit = false := by
      simpa [startsNumber] using unquoted.noNumber
    exact ⟨⟨rfl, by simpa [Option.any_eq_false] using noDigit⟩, rfl⟩
  | comment => exact absurd role unquoted.notComment
  | hyphen => exact absurd rfl notHyphen
  | opening | closing | comma | semicolon | colon | escape => exact ⟨⟨c, rfl, role⟩, rfl⟩
  | identifier | number | quoted | operator | arrow | unknown | whitespace | endOfInput =>
    simp [Lexicon.standard] at listed

/-- A step takes pieces that are shaped. -/
theorem Taken.shapely {text after : List Char} {segment : Segment} {layout : Layout}
    (taken : Taken .standard text segment after) (settled : layout.Settled text) :
    Shapely layout (segment.pieces .standard) after := by
  have spelled : ∀ piece ∈ segment.pieces .standard, piece.Spelled :=
    fun _ member => taken.spelled Lexicon.legible_standard member
  cases taken with
  | @blank c rest blank =>
    exact .single settled (spelled _ List.mem_cons_self) rfl ⟨c, rfl, blank⟩ rfl
  | @comment c rest notBlank role =>
    have listed := Lexicon.mem_roles_of_lookup (Lexicon.punctuation?_eq_some_iff.mp role)
    obtain rfl : c = '#' := by simpa [Lexicon.standard] using listed
    refine .single settled (spelled _ List.mem_cons_self) rfl ⟨rfl, ?_, fun d first => ?_⟩ rfl
    · exact fun member => by simpa using List.mem_takeWhile_imp member
    · simpa using head?_dropWhile_eq_false d first
  | @compound c rest operator notBlank notComment longest =>
    have sorted : Lexicon.standard.compounds.Pairwise
        fun longer shorter => shorter.length ≤ longer.length := by
      decide
    have listed := List.mem_of_find?_eq_some longest
    have maximal := Lexicon.compoundAt?_longest sorted longest
    rw [← append_of_compoundAt? longest] at maximal
    exact .single settled (spelled _ List.mem_cons_self) rfl ⟨operator, listed, rfl, maximal⟩ rfl
  | @number c rest ordinary starts points =>
    have text := numberText_of_startsNumber starts points
    exact .single settled (spelled _ List.mem_cons_self) rfl ⟨text, head?_dropWhile_eq_false⟩ rfl
  | @quoted c content after kind ordinary noNumber role free =>
    obtain rfl := settled.eq_outside ordinary.notBlank
    have opened : Layout.outside.past [c] = .literal c := by
      simp [Layout.past, Layout.next, ordinary.notComment, role]
    obtain ⟨style, rfl, rfl⟩ := Lexicon.exists_style_of_quote role
    have delimiter : Piece.Spelled { kind := .quoted style, source := [style.delimiter] } :=
      Piece.spelled_of_ne_nil (by simp)
    have closing : Shapely (.literal style.delimiter)
        [{ kind := .quoted style, source := [style.delimiter] }] after :=
      .cons (.of_shape (by simp [Layout.isContent]) delimiter rfl rfl rfl) .nil
    refine .cons (.of_shape (by simp [Layout.isContent]) delimiter rfl rfl rfl) ?_
    rw [opened]
    exact free.shapely (List.forall_mem_nil _) closing
  | @punctuation c rest kind unquoted role =>
    unfold Segment.punctuation at spelled ⊢
    split at spelled
    · next hyphen =>
      subst hyphen
      obtain rfl := Lexicon.legible_standard.hyphen c role
      rw [if_pos rfl]
      split at spelled
      · exact .single settled (spelled _ List.mem_cons_self) rfl rfl rfl
      · next notArrow =>
        have other : rest.head? ≠ some '>' := by
          cases rest with
          | nil => simp
          | cons d rest => simpa using fun same => notArrow rest (by rw [same])
        exact .single settled (spelled _ List.mem_cons_self) rfl ⟨rfl, other⟩ rfl
    · next notHyphen =>
      obtain ⟨shape, notOperator⟩ := shape_of_punctuation unquoted role notHyphen
      rw [if_neg notHyphen]
      exact .single settled (spelled _ List.mem_cons_self) rfl shape (by simp [notOperator])
  | @word c rest unquoted noRole letter =>
    have inside : ∀ d ∈ (c :: rest).takeWhile continuesWord, continuesWord d = true :=
      fun _ member => List.mem_takeWhile_imp member
    have first : ((c :: rest).takeWhile continuesWord).head?.any Unicode.isXidStart = true := by
      simp [continuesWord, letter]
    exact .single settled (spelled _ List.mem_cons_self) rfl
      ⟨first, inside, head?_dropWhile_eq_false⟩ rfl
  | @unknown c rest unquoted noRole noLetter =>
    exact .single settled (spelled _ List.mem_cons_self) rfl ⟨c, rfl, unquoted, noRole, noLetter⟩
      rfl

end Segment

/-- A run takes pieces that are shaped. -/
theorem Scan.Run.shapely {text rest : List Char} {segments : List Segment}
    (run : Run .standard text segments rest) {layout : Layout} (settled : layout.Settled text) :
    Shapely layout (segments.flatMap (Segment.pieces .standard)) rest := by
  induction run generalizing layout with
  | done text => exact .nil
  | @step text middle rest segment segments taken run ih =>
    have onward : (layout.past segment.source).Settled middle :=
      taken.stretch.settled (by rwa [taken.source_append])
    have first := taken.shapely settled
    rw [← run.source_pieces_append] at first
    rw [List.flatMap_cons]
    refine first.append ?_
    rw [Segment.flatMap_source_pieces]
    exact ih onward

/-- Every raw token stands somewhere in the text, where it has the shape of its kind and goes as far
as its kind allows. -/
theorem shaped_of_tokenize {text : String} {tokens : List Token}
    (scanned : tokenize .standard text = .ok tokens) :
    ∃ body, tokens = body ++ [Token.endOfInput (.behind text.toList)] ∧
      ∀ before token after, body = before ++ token :: after →
        ∃ earlier later, text.toList = earlier ++ token.lexeme.toList ++ later ∧
          token.position = .behind earlier ∧
          token.Shaped (Layout.outside.past earlier) later := by
  obtain ⟨segments, run, rfl⟩ := run_of_tokenize scanned
  have shapely := run.shapely (.inl rfl)
  have spelled := run.spelled Lexicon.legible_standard
  have covers := run.source_pieces_append
  rw [List.append_nil] at covers
  refine ⟨_, rfl, fun before token after split => ?_⟩
  obtain ⟨earlier, piece, later, pieces, rfl, rfl, rfl⟩ := Piece.exists_of_place_eq split
  rw [pieces] at shapely covers spelled
  have lexeme : piece.lexeme.toList = piece.source := (spelled piece (by simp)).lexeme
  have shaped := shapely.shaped_of_split (Position.start.past (earlier.flatMap Piece.source))
  rw [List.append_nil] at shaped
  refine ⟨earlier.flatMap Piece.source, later.flatMap Piece.source, ?_, ?_, shaped⟩
  · change text.toList = _ ++ piece.lexeme.toList ++ _
    rw [lexeme, ← covers]
    simp
  · exact Position.start_past _

/-- A comment character and an escaped delimiter in a literal, and a comment behind it. -/
theorem shaped_of_tokenize_comment_character :
    let text := "x--\x22#\\\x22 \x22~#c"
    ∃ tokens, tokenize .standard text = .ok tokens ∧ tokens.length = 10 ∧
      ∃ body, tokens = body ++ [Token.endOfInput ⟨1, 13⟩] ∧
        ∀ before token after, body = before ++ token :: after →
          ∃ earlier later, text.toList = earlier ++ token.lexeme.toList ++ later ∧
            token.position = .behind earlier ∧
            token.Shaped (Layout.outside.past earlier) later := by
  intro text
  have scanned : tokenize .standard text =
      .ok [
        { kind := .identifier, lexeme := "x", position := ⟨1, 1⟩ },
        { kind := .operator, lexeme := "--", position := ⟨1, 2⟩, closed := some true },
        { kind := .quoted .string, lexeme := "\x22", position := ⟨1, 4⟩ },
        { kind := .unknown, lexeme := "#", position := ⟨1, 5⟩, internal := true },
        { kind := .escape, lexeme := "\\\x22", position := ⟨1, 6⟩, internal := true },
        { kind := .whitespace, lexeme := " ", position := ⟨1, 8⟩, internal := true },
        { kind := .quoted .string, lexeme := "\x22", position := ⟨1, 9⟩ },
        { kind := .unknown, lexeme := "~", position := ⟨1, 10⟩, closed := some true },
        { kind := .comment, lexeme := "#c", position := ⟨1, 11⟩ },
        Token.endOfInput ⟨1, 13⟩] := by
    decide +kernel
  have finish : Position.behind text.toList = ⟨1, 13⟩ := by decide +kernel
  obtain ⟨body, tokens, shaped⟩ := shaped_of_tokenize scanned
  rw [finish] at tokens
  exact ⟨_, scanned, rfl, body, tokens, shaped⟩

end Kite
