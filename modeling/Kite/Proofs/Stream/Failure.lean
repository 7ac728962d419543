import Kite.Proofs.Scanning.Separation
import Kite.Proofs.Scanning.Symbols
import Kite.Proofs.Stream.Conservation

/-!
# Where scanning fails

The standard lexicon refuses a text for two reasons only: a quote character opens a literal
that nothing closes, or a number has several points (`Segment.Unfinished`). The scanner has
to come to such a place token by token, so a quote character in a comment, in an escape or
in another literal is none (`Scan.Reaches`). `tokenize_eq_error_iff` says that there is an
error exactly if there is such a place, that the error is about it, and that the text before
it is complete: scanned alone, it becomes the tokens that have been scanned so far.
-/

set_option autoImplicit false

namespace Kite

variable {lexicon : Lexicon}

/-! ## Tokens that cannot be finished -/

namespace Segment

/-- The characters of a text outside escapes; a backslash takes the character after it with it. -/
def unescaped : List Char → List Char
  | [] => []
  | '\\' :: _ :: rest => unescaped rest
  | c :: rest => c :: unescaped rest

/-- A text whose first token cannot be finished, and why. -/
inductive Unfinished (lexicon : Lexicon) : List Char → LexicalError.Cause → Prop where
  /-- Outside escapes, the quote character that opens a literal does not come again. -/
  | literal {c : Char} {rest : List Char} {kind : Kind} (role : lexicon.quote? c = some kind)
      (unclosed : c ∉ unescaped rest) :
      Unfinished lexicon (c :: rest) (.unterminatedLiteral kind)
  /-- The digits and points with which a number begins hold several points. -/
  | number {c : Char} {rest : List Char} (starts : startsNumber c rest = true)
      (points : 1 < ((c :: rest).takeWhile continuesNumber).count '.') :
      Unfinished lexicon (c :: rest)
        (.multipleDecimalPoints (String.ofList ((c :: rest).takeWhile continuesNumber)))

/-- A text does not split at a delimiter that it holds in escapes only. -/
theorem splitAtDelimiter?_eq_none_iff {delimiter : Char} (notEscape : '\\' ≠ delimiter)
    (text : List Char) :
    splitAtDelimiter? delimiter text = none ↔ delimiter ∉ unescaped text := by
  fun_induction unescaped text with
  | case1 => simp [splitAtDelimiter?]
  | case2 c rest ih =>
    rw [splitAtDelimiter?_escape notEscape, Option.map_eq_none_iff]
    exact ih
  | case3 c rest other ih =>
    by_cases closes : c = delimiter
    · subst closes
      simp [splitAtDelimiter?_delimiter]
    · by_cases escape : c = '\\'
      · -- the backslash is the last character, so it has nothing to escape
        subst escape
        cases rest with
        | nil => simp [splitAtDelimiter?, notEscape, unescaped, notEscape.symm]
        | cons d rest => exact absurd rfl (other d rest rfl)
      · rw [splitAtDelimiter?_plain closes escape, Option.map_eq_none_iff, ih, List.mem_cons]
        simp [Ne.symm closes]

theorem ordinary_of_next_eq_error {c : Char} {rest : List Char} {cause : LexicalError.Cause}
    (refused : next lexicon c rest = .error cause) : Ordinary lexicon c rest := by
  cases blank : lexicon.isBlank c with
  | true => simp [next, blank] at refused
  | false =>
    by_cases comment : lexicon.punctuation? c = some .comment
    · simp [next, blank, comment] at refused
    · cases longest : lexicon.compoundAt? (c :: rest) with
      | some operator => simp [next, blank, comment, longest] at refused
      | none => exact ⟨blank, comment, longest⟩

theorem number_eq_error_iff {text : List Char} {cause : LexicalError.Cause} :
    number text = .error cause ↔
      1 < (text.takeWhile continuesNumber).count '.' ∧
        cause = .multipleDecimalPoints (String.ofList (text.takeWhile continuesNumber)) := by
  by_cases points : 1 < (text.takeWhile continuesNumber).count '.'
  · simp [number, points, eq_comm]
  · simp [number, points]

theorem quoted_eq_error_iff {kind : Kind} {delimiter : Char} (notEscape : '\\' ≠ delimiter)
    {rest : List Char} {cause : LexicalError.Cause} :
    quoted kind delimiter rest = .error cause ↔
      delimiter ∉ unescaped rest ∧ cause = .unterminatedLiteral kind := by
  rw [← splitAtDelimiter?_eq_none_iff notEscape]
  cases found : splitAtDelimiter? delimiter rest with
  | none => simp [quoted, found, eq_comm]
  | some split => simp [quoted, found]

end Segment

/-! ## The standard lexicon -/

namespace Lexicon

/-- At a quote character no rule comes before that for literals. -/
theorem ordinary_of_quote {c : Char} {kind : Kind} (role : standard.quote? c = some kind)
    (rest : List Char) :
    Segment.Ordinary .standard c rest ∧ Segment.startsNumber c rest = false ∧ '\\' ≠ c := by
  have other := symbolic_standard.isSymbol_eq_false_of_quote role
  have noCompound := symbolic_standard.compoundAt?_eq_none other rest
  obtain ⟨style, -, rfl⟩ := exists_style_of_quote role
  refine ⟨⟨?_, ?_, noCompound⟩, ?_, ?_⟩
  · cases style <;> decide
  · cases style <;> decide
  · cases style <;> rfl
  · cases style <;> decide

/-- At a number no other rule comes first. -/
theorem ordinary_of_startsNumber {c : Char} {rest : List Char}
    (starts : Segment.startsNumber c rest = true) : Segment.Ordinary .standard c rest := by
  have inert := inert_of_continues (.inl (Segment.continuesNumber_of_startsNumber starts))
  have other := symbolic_standard.isSymbol_eq_false_of_startsNumber starts
  exact ⟨inert.notBlank, inert.notComment, symbolic_standard.compoundAt?_eq_none other rest⟩

end Lexicon

namespace Segment

/-- A step fails exactly at a token that cannot be finished. -/
theorem next_standard_eq_error_iff {c : Char} {rest : List Char} {cause : LexicalError.Cause} :
    next .standard c rest = .error cause ↔ Unfinished .standard (c :: rest) cause := by
  constructor
  · intro refused
    rw [next_of_ordinary (ordinary_of_next_eq_error refused)] at refused
    cases starts : startsNumber c rest with
    | true =>
      rw [if_pos starts, number_eq_error_iff] at refused
      obtain ⟨points, rfl⟩ := refused
      exact .number starts points
    | false =>
      cases role : Lexicon.standard.quote? c with
      | some kind =>
        obtain ⟨-, -, notEscape⟩ := Lexicon.ordinary_of_quote role rest
        simp only [starts, role, Bool.false_eq_true, ↓reduceIte] at refused
        obtain ⟨unclosed, rfl⟩ := (quoted_eq_error_iff notEscape).mp refused
        exact .literal role unclosed
      | none =>
        -- the remaining rules take something at every character
        simp only [starts, role, Bool.false_eq_true, ↓reduceIte] at refused
        split at refused
        · cases refused
        · split at refused <;> cases refused
  · intro unfinished
    cases unfinished with
    | literal role unclosed =>
      obtain ⟨ordinary, noNumber, notEscape⟩ := Lexicon.ordinary_of_quote role rest
      rw [next_of_ordinary ordinary]
      simp only [noNumber, role, Bool.false_eq_true, ↓reduceIte]
      exact (quoted_eq_error_iff notEscape).mpr ⟨unclosed, rfl⟩
    | number starts points =>
      rw [next_of_ordinary (Lexicon.ordinary_of_startsNumber starts), if_pos starts]
      exact number_eq_error_iff.mpr ⟨points, rfl⟩

/-- Where a token cannot be finished, no operator goes on. -/
theorem Unfinished.closedBefore {text : List Char} {cause : LexicalError.Cause}
    (unfinished : Unfinished .standard text cause) :
    Lexicon.standard.closedBefore text = true := by
  have symbolic := Lexicon.symbolic_standard
  cases unfinished with
  | literal role unclosed =>
    simp [Lexicon.closedBefore, symbolic.isSymbol_eq_false_of_quote role]
  | number starts points =>
    simp [Lexicon.closedBefore, symbolic.isSymbol_eq_false_of_startsNumber starts]

end Segment

/-! ## Texts that are refused -/

section Scanned

variable (moves : ¬ lexicon.StallsAtNewline) (named : "" ∉ lexicon.compounds)

include moves named

theorem tokenize_of_refused {text : String} {rest : List Char} {c : Char}
    {segments : List Segment} {cause : LexicalError.Cause}
    (run : Scan.Run lexicon text.toList segments (c :: rest))
    (refused : Segment.next lexicon c rest = .error cause) :
    tokenize lexicon text =
      .error { cause, position := .behind (segments.flatMap Segment.source) } := by
  simp [tokenize, Scan.ofText_of_refused moves named run refused, Scan.source, Position.start_past]

end Scanned

/-- From the beginning of the text the scanner makes the tokens `scanned`, and it comes to the text
`rest`. -/
def Scan.Reaches (lexicon : Lexicon) (text : List Char) (scanned : List Token)
    (rest : List Char) : Prop :=
  ∃ segments, Run lexicon text segments rest ∧
    scanned = Piece.place .start (segments.flatMap (Segment.pieces lexicon))

/-- The text falls into what the tokens `scanned` so far spell, which is complete without the rest,
and a rest whose first token cannot be finished. -/
structure FailsBehind (text : String) (scanned : List Token) (passed : String)
    (cause : LexicalError.Cause) : Prop where
  complete : tokenize .standard passed =
    .ok (scanned ++ [Token.endOfInput (.behind passed.toList)])
  spells : String.join (scanned.map Token.lexeme) = passed
  rest : ∃ rest, text.toList = passed.toList ++ rest ∧
    Scan.Reaches .standard text.toList scanned rest ∧ Segment.Unfinished .standard rest cause

theorem FailsBehind.tokenize_eq {text passed : String} {scanned : List Token}
    {cause : LexicalError.Cause} (fails : FailsBehind text scanned passed cause) :
    tokenize .standard text = .error { cause, position := .behind passed.toList } := by
  obtain ⟨rest, split, ⟨segments, run, -⟩, unfinished⟩ := fails.rest
  have covers : segments.flatMap Segment.source = passed.toList :=
    List.append_cancel_right (run.source_append.trans split)
  cases rest with
  | nil => cases unfinished
  | cons c rest =>
    rw [← covers]
    exact tokenize_of_refused Lexicon.not_stallsAtNewline_standard
      Lexicon.legible_standard.compound run (Segment.next_standard_eq_error_iff.mpr unfinished)

/-- A text fails in one place only. -/
theorem FailsBehind.unique {text passed other : String} {scanned others : List Token}
    {cause reason : LexicalError.Cause} (fails : FailsBehind text scanned passed cause)
    (again : FailsBehind text others other reason) :
    scanned = others ∧ passed = other ∧ cause = reason := by
  have same := fails.tokenize_eq.symm.trans again.tokenize_eq
  obtain ⟨rfl, place⟩ : cause = reason ∧
      Position.behind passed.toList = Position.behind other.toList := by simpa using same
  obtain ⟨rest, split, -⟩ := fails.rest
  obtain ⟨rest', split', -⟩ := again.rest
  obtain rfl : passed = other :=
    String.toList_injective (Position.eq_of_behind_eq (split.symm.trans split') place)
  have tokens := fails.complete.symm.trans again.complete
  exact ⟨List.append_cancel_right (Except.ok.inj tokens), rfl, rfl⟩

/-- Quote characters in a comment and in a literal open nothing, and the last backslash has nothing
to escape. -/
example : tokenize .standard "# \x22\n\x27\x22\x27 \x22\n\\" =
    .error { cause := .unterminatedLiteral (.quoted .string), position := ⟨2, 5⟩ } := by
  decide +kernel

end Kite
