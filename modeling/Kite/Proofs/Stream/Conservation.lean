import Mathlib.Data.List.TakeWhile
import Kite.Proofs.Scanning.Progress
import Kite.Proofs.Stream.Ending

/-!
# Nothing but layout is lost

The tidy tokens of a text spell the text again, blanks outside comments and literals apart
(`lex_conserves`). Which blanks these are is read off the text character by character
(`Layout.strip`), without regard to tokens; a step of the scanner takes one of the
stretches that are told apart in this way (`Segment.Taken.stretch`). Joining operators
keeps the text of their pieces and the places where they begin, every other token spells
what a step takes, and no later token stands before an earlier one.
-/

set_option autoImplicit false

namespace Kite

variable {lexicon : Lexicon}

/-! ## The layout of a text -/

/-- What a character of a text belongs to, told from the characters before it. -/
inductive Layout where
  | outside
  | comment
  /-- The literal that the delimiter has opened. -/
  | literal (delimiter : Char)
  /-- The same literal, behind a backslash. -/
  | escape (delimiter : Char)
  deriving DecidableEq, Repr

namespace Layout

/-- What the character after `c` belongs to. -/
def next (lexicon : Lexicon) (layout : Layout) (c : Char) : Layout :=
  match layout with
  | outside =>
    if lexicon.punctuation? c = some .comment then comment
    else if (lexicon.quote? c).isSome then literal c
    else outside
  | comment => if c = '\n' then outside else comment
  | literal delimiter =>
    if c = delimiter then outside
    else if c = '\\' then escape delimiter
    else literal delimiter
  | escape delimiter => literal delimiter

/-- Whether a character lies outside comments and literals. A newline ends a comment and is no part
of it. -/
def isOutside (layout : Layout) (c : Char) : Bool :=
  match layout with
  | outside => true
  | comment => c = '\n'
  | literal _ | escape _ => false

/-- The text without the blanks outside comments and literals. -/
def strip (lexicon : Lexicon) : Layout → List Char → List Char
  | _, [] => []
  | layout, c :: text =>
    if layout.isOutside c && lexicon.isBlank c then strip lexicon (layout.next lexicon c) text
    else c :: strip lexicon (layout.next lexicon c) text

end Layout

/-! ## The characters of the standard lexicon -/

namespace Lexicon

/-- A character that is no blank and opens no comment and no literal. -/
structure Inert (lexicon : Lexicon) (c : Char) : Prop where
  notBlank : lexicon.isBlank c = false
  notComment : lexicon.punctuation? c ≠ some .comment
  notQuote : lexicon.quote? c = none

/-- The blanks of the standard lexicon, and the characters that open comments and literals. -/
def openers : List Char :=
  '#' :: QuoteStyle.string.delimiter :: QuoteStyle.char.delimiter ::
    QuoteStyle.template.delimiter :: standard.blanks

theorem inert_standard {c : Char} (other : c ∉ openers) : standard.Inert c where
  notBlank := by
    simp only [openers, List.mem_cons, not_or] at other
    simpa [isBlank] using other.2.2.2.2
  notComment role := by
    have listed := mem_roles_of_lookup (punctuation?_eq_some_iff.mp role)
    obtain rfl : c = '#' := by simpa [standard] using listed
    exact other List.mem_cons_self
  notQuote := by
    refine Option.eq_none_iff_forall_ne_some.mpr fun kind role => other ?_
    have listed := mem_roles_of_lookup (quote?_eq_some_iff.mp role)
    simp [standard] at listed
    rcases listed with ⟨rfl, -⟩ | ⟨rfl, -⟩ | ⟨rfl, -⟩ <;> simp [openers]

/-- The characters of numbers and of words are inert. -/
theorem inert_of_continues {c : Char}
    (continues : Segment.continuesNumber c = true ∨ Segment.continuesWord c = true) :
    standard.Inert c := by
  have stops : (openers.all fun c =>
      Segment.continuesNumber c = false ∧ Segment.continuesWord c = false) = true := by
    decide +kernel
  refine inert_standard fun listed => ?_
  have stop := of_decide_eq_true (List.all_eq_true.mp stops c listed)
  simp [stop] at continues

/-- So are those of compound operators. -/
theorem inert_of_mem_compounds {operator : String} (listed : operator ∈ standard.compounds) :
    ∀ c ∈ operator.toList, standard.Inert c := by
  have apart : (standard.compounds.all fun operator =>
      operator.toList.all fun c => !openers.contains c) = true := by
    decide +kernel
  intro c member
  have other := List.all_eq_true.mp (List.all_eq_true.mp apart operator listed) c member
  exact inert_standard (by simpa using other)

/-- A blank opens nothing. -/
theorem not_opens_of_isBlank {c : Char} (blank : standard.isBlank c = true) :
    standard.punctuation? c ≠ some .comment ∧ standard.quote? c = none := by
  have blanks : (standard.blanks.all fun c =>
      standard.punctuation? c ≠ some .comment ∧ standard.quote? c = none) = true := by
    decide
  exact of_decide_eq_true (List.all_eq_true.mp blanks c (by simpa [isBlank] using blank))

end Lexicon

/-! ## Stripping what a step takes -/

namespace Layout

/-- The stretches that a layout tells apart, each with the text behind it. -/
inductive Stretch : Segment → List Char → Prop where
  | blank {c : Char} {after : List Char} (blank : Lexicon.standard.isBlank c = true) :
      Stretch (.plain { kind := .whitespace, source := [c] }) after
  /-- A comment runs to the end of its line. -/
  | comment {c : Char} {text after : List Char}
      (notBlank : Lexicon.standard.isBlank c = false)
      (role : Lexicon.standard.punctuation? c = some .comment) (line : '\n' ∉ text)
      (ends : ∀ d ∈ after.head?, d = '\n') :
      Stretch (.plain { kind := .comment, source := c :: text }) after
  | literal {kind : Kind} {delimiter : Char} {content after : List Char}
      (notBlank : Lexicon.standard.isBlank delimiter = false)
      (notComment : Lexicon.standard.punctuation? delimiter ≠ some .comment)
      (role : Lexicon.standard.quote? delimiter = some kind)
      (free : Segment.Content delimiter content) :
      Stretch (.literal kind delimiter content) after
  | inert {segment : Segment} {after : List Char} (notBlank : segment.joined.kind ≠ .whitespace)
      (inert : ∀ c ∈ segment.source, Lexicon.standard.Inert c) : Stretch segment after

theorem strip_inert {text : List Char} (inert : ∀ c ∈ text, lexicon.Inert c)
    (after : List Char) :
    strip lexicon outside (text ++ after) = text ++ strip lexicon outside after := by
  induction text with
  | nil => rfl
  | cons c text ih =>
    obtain ⟨⟨notBlank, notComment, notQuote⟩, others⟩ := List.forall_mem_cons.mp inert
    simp [strip, next, isOutside, notBlank, notComment, notQuote, ih others]

theorem strip_blank {c : Char} (blank : Lexicon.standard.isBlank c = true) (after : List Char) :
    strip .standard outside (c :: after) = strip .standard outside after := by
  obtain ⟨notComment, notQuote⟩ := Lexicon.not_opens_of_isBlank blank
  simp [strip, next, isOutside, blank, notComment, notQuote]

/-- A comment is kept up to the end of its line. -/
theorem strip_comment {text after : List Char} (line : '\n' ∉ text)
    (ends : ∀ d ∈ after.head?, d = '\n') :
    strip .standard comment (text ++ after) = text ++ strip .standard outside after := by
  have blank : Lexicon.standard.isBlank '\n' = true := by decide
  induction text with
  | nil =>
    cases after with
    | nil => rfl
    | cons d after =>
      obtain rfl := ends d rfl
      rw [List.nil_append, List.nil_append, strip_blank blank]
      simp [strip, next, isOutside, blank]
  | cons c text ih =>
    obtain ⟨other, others⟩ := List.ne_and_not_mem_of_not_mem_cons line
    simp [strip, next, isOutside, other.symm, ih others]

/-- A literal is kept up to its closing delimiter. -/
theorem strip_literal {delimiter : Char} {content : List Char}
    (free : Segment.Content delimiter content) (after : List Char) :
    strip lexicon (literal delimiter) (content ++ delimiter :: after) =
      content ++ delimiter :: strip lexicon outside after := by
  induction free with
  | nil => simp [strip, next, isOutside]
  | escape notDelimiter _ ih => simp [strip, next, isOutside, notDelimiter, ih]
  | plain notDelimiter notEscape _ ih => simp [strip, next, isOutside, notDelimiter, notEscape, ih]

/-- What is not blank is kept. -/
theorem Stretch.strip {segment : Segment} {after : List Char} (stretch : Stretch segment after) :
    Layout.strip .standard .outside (segment.source ++ after) =
      (if segment.joined.kind = .whitespace then [] else segment.source) ++
        Layout.strip .standard .outside after := by
  cases stretch with
  | blank blank => exact strip_blank blank after
  | comment notBlank role line ends =>
    simp [Segment.source, Segment.joined, Layout.strip, next, isOutside, notBlank, role,
      strip_comment line ends]
  | @literal kind delimiter content _ notBlank notComment role free =>
    have other : kind ≠ .whitespace := by
      rintro rfl
      exact absurd (Lexicon.distinctQuotes_standard.quoted delimiter _ role) (by decide)
    simp [Segment.source, Segment.joined, Layout.strip, next, isOutside, notBlank, notComment, role,
      strip_literal free, other]
  | inert notBlank inert => rw [strip_inert inert, if_neg notBlank]

end Layout

theorem head?_dropWhile_eq_false {p : Char → Bool} {text : List Char} :
    ∀ c ∈ (text.dropWhile p).head?, p c = false := by
  intro c first
  have stops := List.head?_dropWhile_not p text
  rw [first] at stops
  simpa using stops

/-- A step takes one of the stretches. -/
theorem Segment.Taken.stretch {text after : List Char} {segment : Segment}
    (taken : Taken .standard text segment after) : Layout.Stretch segment after := by
  cases taken with
  | blank blank => exact .blank blank
  | @comment c rest notBlank role =>
    have inside : c ≠ '\n' := by
      rintro rfl
      exact absurd notBlank (by decide)
    have line : '\n' ∉ rest.takeWhile (· ≠ '\n') := fun member => by
      simpa using List.mem_takeWhile_imp member
    have ends : ∀ d ∈ (rest.dropWhile (· ≠ '\n')).head?, d = '\n' := fun d first => by
      simpa using head?_dropWhile_eq_false d first
    simpa [Segment.comment, inside] using Layout.Stretch.comment notBlank role line ends
  | compound notBlank notComment longest =>
    have listed := List.mem_of_find?_eq_some longest
    exact .inert Kind.noConfusion (Lexicon.inert_of_mem_compounds listed)
  | number ordinary starts points =>
    exact .inert Kind.noConfusion fun c member =>
      Lexicon.inert_of_continues (.inl (List.mem_takeWhile_imp member))
  | quoted ordinary noNumber role free =>
    exact .literal ordinary.notBlank ordinary.notComment role free
  | @punctuation c rest kind unquoted role =>
    have inert : Lexicon.standard.Inert c :=
      ⟨unquoted.notBlank, unquoted.notComment, unquoted.notQuote⟩
    have notBlank : kind ≠ .whitespace := by
      rintro rfl
      have listed := Lexicon.mem_roles_of_lookup (Lexicon.punctuation?_eq_some_iff.mp role)
      simp [Lexicon.standard] at listed
    refine .inert ?_ ?_
    · unfold Segment.punctuation
      split
      · split <;> exact Kind.noConfusion
      · exact notBlank
    · unfold Segment.punctuation
      have arrow : Lexicon.standard.Inert '>' := Lexicon.inert_standard (by decide)
      split
      · split <;> simp [source, inert, arrow]
      · simpa [source] using inert
  | word unquoted noRole letter =>
    exact .inert Kind.noConfusion fun c member =>
      Lexicon.inert_of_continues (.inr (List.mem_takeWhile_imp member))
  | unknown unquoted noRole noLetter =>
    refine .inert Kind.noConfusion ?_
    simpa [source, Segment.unknown] using
      ⟨unquoted.notBlank, unquoted.notComment, unquoted.notQuote⟩

/-- What a run to the end of a text takes is kept, blanks apart. -/
theorem Scan.Run.strip {text : List Char} {segments : List Segment}
    (run : Run .standard text segments []) :
    Layout.strip .standard .outside text =
      (segments.filter fun segment => segment.joined.kind ≠ .whitespace).flatMap
        Segment.source := by
  generalize ended : ([] : List Char) = rest at run
  induction run with
  | done text => subst ended; rfl
  | @step text middle _ segment segments taken _ ih =>
    rw [← taken.source_append, taken.stretch.strip, ih ended]
    by_cases blank : segment.joined.kind = .whitespace
    · simp [blank]
    · simp [blank]

/-! ## Spelling the tokens again -/

/-- The text of a token with the delimiters of a literal around it. -/
def Token.respelled (token : Token) : String :=
  match token.kind with
  | .quoted style =>
    String.ofList [style.delimiter] ++ token.lexeme ++ String.ofList [style.delimiter]
  | _ => token.lexeme

theorem Token.respelled_of_unquoted {token : Token} (unquoted : token.kind.isQuoted = false) :
    token.respelled = token.lexeme := by
  unfold respelled
  split
  · next style kind => simp [kind, Kind.isQuoted] at unquoted
  · rfl

/-- The text of tokens with the delimiters of literals, blanks apart. -/
def Stream.respell (tokens : List Token) : String :=
  String.join ((dropBlanks tokens).map Token.respelled)

namespace Stream

theorem respell_append (tokens others : List Token) :
    respell (tokens ++ others) = respell tokens ++ respell others := by
  simp [respell, dropBlanks, String.join_append]

theorem respell_cons (token : Token) (tokens : List Token) :
    respell (token :: tokens) = respell [token] ++ respell tokens :=
  respell_append [token] tokens

theorem respell_singleton (token : Token) :
    respell [token] = if token.kind = .whitespace then "" else token.respelled := by
  by_cases blank : token.kind = .whitespace <;> simp [respell, dropBlanks, blank]

theorem respell_of_unquoted {token : Token} (notBlank : token.kind ≠ .whitespace)
    (unquoted : token.kind.isQuoted = false) : respell [token] = token.lexeme := by
  rw [respell_singleton, if_neg notBlank, token.respelled_of_unquoted unquoted]

/-- An operator piece is no blank and no literal. -/
theorem plain_of_isOperatorPiece {token : Token} (piece : isOperatorPiece lexicon token = true) :
    token.kind ≠ .whitespace ∧ token.kind.isQuoted = false := by
  unfold isOperatorPiece at piece
  split at piece <;> simp_all [Kind.isQuoted]

theorem respell_of_pieces {run : List Token}
    (pieces : ∀ token ∈ run, isOperatorPiece lexicon token = true) :
    respell run = String.join (run.map Token.lexeme) := by
  induction run with
  | nil => rfl
  | cons token run ih =>
    obtain ⟨first, others⟩ := List.forall_mem_cons.mp pieces
    obtain ⟨notBlank, unquoted⟩ := plain_of_isOperatorPiece first
    rw [respell_cons, respell_of_unquoted notBlank unquoted, ih others]
    simp

/-- The operator of a run has the text of the run. -/
theorem respell_operatorOfRun {run : List Token}
    (pieces : ∀ token ∈ run, isOperatorPiece lexicon token = true) :
    respell (operatorOfRun run) = respell run.reverse := by
  rw [respell_of_pieces fun token member => pieces token (List.mem_reverse.mp member)]
  obtain ⟨forwards, rfl⟩ : ∃ forwards, run = forwards.reverse := ⟨run.reverse, by simp⟩
  rw [List.reverse_reverse]
  cases forwards with
  | nil => rfl
  | cons first rest =>
    obtain ⟨operator, made, kind, lexeme, -⟩ := exists_operatorOfRun first rest
    have notBlank : operator.kind ≠ .whitespace := by rcases kind with kind | kind <;> simp [kind]
    have unquoted : operator.kind.isQuoted = false := by
      rcases kind with kind | kind <;> simp [kind, Kind.isQuoted]
    rw [made, respell_of_unquoted notBlank unquoted, lexeme]

/-- Joining operators keeps the text of their pieces. -/
theorem respell_gatherOperators {run : List Token}
    (pieces : ∀ token ∈ run, isOperatorPiece lexicon token = true) (tokens : List Token) :
    respell (gatherOperators lexicon run tokens) = respell (run.reverse ++ tokens) := by
  induction tokens generalizing run with
  | nil => simpa [gatherOperators] using respell_operatorOfRun pieces
  | cons token tokens ih =>
    rw [gatherOperators]
    split
    · next piece =>
      split
      · rw [ih (List.forall_mem_cons.mpr ⟨piece, pieces⟩)]
        simp
      · rw [respell_append, respell_operatorOfRun pieces, ih (by simpa using piece),
          ← respell_append]
        simp
    · rw [respell_append, respell_cons, respell_operatorOfRun pieces, ih (by simp),
        ← respell_cons, ← respell_append]
      simp

theorem respell_joinOperators (tokens : List Token) :
    respell (joinOperators lexicon tokens) = respell tokens :=
  respell_gatherOperators (by simp) tokens

end Stream

/-- The quote characters of the standard lexicon are the delimiters of their styles. -/
theorem Lexicon.exists_style_of_quote {c : Char} {kind : Kind}
    (role : standard.quote? c = some kind) :
    ∃ style : QuoteStyle, kind = .quoted style ∧ c = style.delimiter := by
  have listed := mem_roles_of_lookup (quote?_eq_some_iff.mp role)
  simp only [standard, List.mem_cons, Prod.mk.injEq, reduceCtorEq, and_false, false_or,
    Role.quote.injEq, List.not_mem_nil, or_false] at listed
  rcases listed with ⟨delimiter, style⟩ | ⟨delimiter, style⟩ | ⟨delimiter, style⟩ <;>
    exact ⟨_, style, delimiter⟩

/-- The token of a segment, spelled again, is the text of the segment. -/
theorem Segment.respelled_joined {segment : Segment} (delimited : segment.Delimited .standard)
    (spelled : ∀ piece ∈ segment.pieces .standard, piece.Spelled) (position : Position) :
    (segment.joined.token position).respelled = String.ofList segment.source := by
  cases delimited with
  | @plain piece unquoted outside =>
    have kept : (piece.token position).kind.isQuoted = false := unquoted
    have lexeme := (spelled piece List.mem_cons_self).lexeme_eq
    exact (Token.respelled_of_unquoted kept).trans lexeme
  | @literal kind delimiter content role free inside =>
    obtain ⟨style, rfl, rfl⟩ := Lexicon.exists_style_of_quote role
    change String.ofList [style.delimiter] ++ String.ofList content ++
      String.ofList [style.delimiter] =
        String.ofList (style.delimiter :: content ++ [style.delimiter])
    rw [← String.ofList_append, ← String.ofList_append]
    rfl

/-- Placed segments spell their text again, blanks apart. -/
theorem Stream.respell_place {segments : List Segment}
    (delimited : ∀ segment ∈ segments, segment.Delimited .standard)
    (spelled : ∀ segment ∈ segments, ∀ piece ∈ segment.pieces .standard, piece.Spelled)
    (position : Position) :
    respell (Piece.place position (segments.map Segment.joined)) =
      String.ofList ((segments.filter fun segment => segment.joined.kind ≠ .whitespace).flatMap
        Segment.source) := by
  induction segments generalizing position with
  | nil => rfl
  | cons segment segments ih =>
    obtain ⟨first, others⟩ := List.forall_mem_cons.mp delimited
    obtain ⟨firstSpelled, othersSpelled⟩ := List.forall_mem_cons.mp spelled
    have here := segment.respelled_joined first firstSpelled position
    have kind : (segment.joined.token position).kind = segment.joined.kind := rfl
    rw [List.map_cons, Piece.place_cons, respell_cons, ih others othersSpelled, respell_singleton,
      here, kind]
    by_cases blank : segment.joined.kind = .whitespace
    · simp [blank]
    · simp [blank, String.ofList_append]

/-! ## The order of the tokens -/

namespace Piece

/-- The places of pieces, and the place behind them, lie behind every place before them. -/
theorem lt_of_mem_place {pieces : List Piece} (nonempty : ∀ piece ∈ pieces, piece.source ≠ [])
    {earlier position : Position} (before : earlier < position) :
    ∀ place ∈ (Piece.place position pieces).map Token.position ++
      [position.past (pieces.flatMap source)], earlier < place := by
  induction pieces generalizing position with
  | nil => simpa using before
  | cons piece pieces ih =>
    obtain ⟨some, others⟩ := List.forall_mem_cons.mp nonempty
    have onward := ih others (Position.lt_trans before (position.lt_past some))
    rw [place_cons, List.map_cons, List.cons_append, List.flatMap_cons, Position.past_append]
    exact List.forall_mem_cons.mpr ⟨before, onward⟩

/-- Pieces that cover some text each stand one behind the other. -/
theorem pairwise_place {pieces : List Piece} (nonempty : ∀ piece ∈ pieces, piece.source ≠ [])
    (position : Position) :
    ((place position pieces).map Token.position ++
      [position.past (pieces.flatMap source)]).Pairwise (· < ·) := by
  induction pieces generalizing position with
  | nil => simp
  | cons piece pieces ih =>
    obtain ⟨some, others⟩ := List.forall_mem_cons.mp nonempty
    rw [place_cons, List.map_cons, List.cons_append, List.flatMap_cons, Position.past_append]
    exact .cons (lt_of_mem_place others (position.lt_past some)) (ih others _)

end Piece

namespace Stream

theorem positions_operatorOfRun (run : List Token) :
    ((operatorOfRun run).map Token.position).Sublist (run.reverse.map Token.position) := by
  obtain ⟨forwards, rfl⟩ : ∃ forwards, run = forwards.reverse := ⟨run.reverse, by simp⟩
  rw [List.reverse_reverse]
  cases forwards with
  | nil => exact .slnil
  | cons first rest =>
    obtain ⟨operator, made, -, -, position⟩ := exists_operatorOfRun first rest
    rw [made, List.map_singleton, position]
    exact List.singleton_sublist.mpr List.mem_cons_self

/-- An operator stands where the first of its pieces stands. -/
theorem positions_gatherOperators (run tokens : List Token) :
    ((gatherOperators lexicon run tokens).map Token.position).Sublist
      ((run.reverse ++ tokens).map Token.position) := by
  have flushed := positions_operatorOfRun run
  induction tokens generalizing run with
  | nil => simpa [gatherOperators] using flushed
  | cons token tokens ih =>
    rw [gatherOperators]
    split
    · split
      · simpa using ih (token :: run) (positions_operatorOfRun _)
      · have onward := ih [token] (positions_operatorOfRun _)
        rw [List.map_append, List.map_append]
        exact flushed.append (by simpa using onward)
    · have onward := ih [] (positions_operatorOfRun _)
      rw [List.map_append, List.map_append]
      exact flushed.append (.cons_cons _ (by simpa using onward))

/-- Tidying leaves tokens out and moves none. -/
theorem positions_tidy (tokens : List Token) :
    ((dropBlanks (joinOperators lexicon tokens)).map Token.position).Sublist
      (tokens.map Token.position) :=
  (List.filter_sublist.map Token.position).trans (positions_gatherOperators [] tokens)

end Stream

/-! ## The tidy tokens of a text -/

/-- The tidy tokens of a text before the end token, with the delimiters of literals around them,
spell the text without the blanks outside comments and literals. Every token, the end token
included, stands behind the tokens before it. -/
theorem lex_conserves {text : String} {tokens : List Token}
    (lexed : lex .standard text = .ok tokens) :
    ∃ body, tokens = body ++ [Token.endOfInput (Position.behind text.toList)] ∧
      String.join (body.map Token.respelled) =
        String.ofList (Layout.strip .standard .outside text.toList) ∧
      tokens.Pairwise fun token other => token.position < other.position := by
  have distinct := Lexicon.distinctQuotes_standard
  obtain ⟨run, rfl⟩ := tokens_of_lex_of_distinct distinct lexed
  generalize (Scan.ofText .standard text.toList).segments = segments at run
  have delimited := run.forall_mem fun taken => taken.delimited distinct
  have spelled : ∀ segment ∈ segments, ∀ piece ∈ segment.pieces .standard, piece.Spelled :=
    run.forall_mem fun taken _ => taken.spelled Lexicon.legible_standard
  have moves := Lexicon.not_stallsAtNewline_standard
  have nonempty := run.forall_mem fun taken =>
    taken.source_ne_nil moves Lexicon.legible_standard.compound
  have covers : (segments.map Segment.joined).flatMap Piece.source = text.toList := by
    simpa [List.flatMap_map, Segment.joined_source] using run.source_append
  refine ⟨_, rfl, ?_, ?_⟩
  · have spells := Stream.respell_place delimited spelled .start
    rw [run.strip, ← spells]
    exact Stream.respell_joinOperators _
  · have covering : ∀ piece ∈ segments.map Segment.joined, piece.source ≠ [] := by
      simpa [Segment.joined_source] using nonempty
    have ordered := Piece.pairwise_place covering .start
    rw [covers, Position.start_past] at ordered
    rw [← List.pairwise_map, List.map_append]
    exact ordered.sublist ((Stream.positions_tidy _).append (.refl _))

/-- Operators of several pieces, a literal that holds a blank and a `#`, and a comment. -/
theorem lex_conserves_mixed :
    ∃ tokens, lex .standard "x += \x27a #\x27 <- 1 # b c\n d" = .ok tokens ∧
      ∃ body, tokens = body ++ [Token.endOfInput ⟨2, 3⟩] ∧ body.length = 7 ∧
        String.join (body.map Token.respelled) = "x+=\x27a #\x27<-1# b cd" ∧
        tokens.Pairwise fun token other => token.position < other.position := by
  have lexed : lex .standard "x += \x27a #\x27 <- 1 # b c\n d" =
      .ok [
        { kind := .identifier, lexeme := "x", position := ⟨1, 1⟩ },
        { kind := .operator, lexeme := "+=", position := ⟨1, 3⟩, closed := some true },
        { kind := .quoted .char, lexeme := "a #", position := ⟨1, 6⟩ },
        { kind := .operator, lexeme := "<-", position := ⟨1, 12⟩, closed := some true },
        { kind := .number, lexeme := "1", position := ⟨1, 15⟩ },
        { kind := .comment, lexeme := "# b c", position := ⟨1, 17⟩ },
        { kind := .identifier, lexeme := "d", position := ⟨2, 2⟩ },
        Token.endOfInput ⟨2, 3⟩] := by
    decide +kernel
  have finish : Position.behind "x += \x27a #\x27 <- 1 # b c\n d".toList = ⟨2, 3⟩ := by
    decide +kernel
  have stripped : Layout.strip .standard .outside "x += \x27a #\x27 <- 1 # b c\n d".toList =
      "x+=\x27a #\x27<-1# b cd".toList := by
    decide +kernel
  obtain ⟨body, tokens, spells, ordered⟩ := lex_conserves lexed
  rw [finish] at tokens
  rw [stripped, String.ofList_toList] at spells
  have length := congrArg List.length tokens
  exact ⟨_, lexed, body, tokens, by simpa using length.symm, spells, ordered⟩

end Kite
