import Kite.Proofs.Number.Unsigned
import Kite.Proofs.Stream.OperatorFormation

/-!
# What tokens spell

A kind that the lexicon gives to no character belongs to what the scanner makes up by
itself: a number is digits with at most one point (`numberText_of_lex`), and a name begins
with a letter (`isWord_of_lex`). Tidying joins literals and operators only, so what it
leaves of other kinds has been scanned like that (`Stream.mem_of_mem_tidy`). An operator of
the standard lexicon, on the other hand, does not begin with a letter
(`not_isWord_of_lex`).
-/

set_option autoImplicit false

namespace Kite

/-- Whether a text begins with a letter. -/
def isWord (text : String) : Bool :=
  text.toList.head?.any Unicode.isXidStart

/-! ## Kinds and their texts -/

/-- The ways in which the scanner gives a text a kind. -/
inductive Lexicon.Sorts (lexicon : Lexicon) (kind : Kind) (lexeme : String) : Prop where
  | number (isNumber : kind = .number) (text : Segment.NumberText lexeme.toList)
  | word (listed : kind = lexicon.kindOfWord lexeme) (letter : isWord lexeme = true)
  | punctuation (c : Char) (role : lexicon.punctuation? c = some kind)
  | quote (c : Char) (role : lexicon.quote? c = some kind)
  | other (notNumber : kind ≠ .number) (notName : kind ≠ .identifier)

variable {lexicon : Lexicon}

namespace Segment

/-- The scanner takes a number as far as it goes, and some of it is a digit. -/
theorem numberText_of_startsNumber {c : Char} {rest : List Char}
    (starts : startsNumber c rest = true)
    (points : ((c :: rest).takeWhile continuesNumber).count '.' ≤ 1) :
    NumberText ((c :: rest).takeWhile continuesNumber) where
  continues _ member := List.mem_takeWhile_imp member
  points := points
  digit := by
    have point : continuesNumber '.' = true := by decide
    have digits : ∀ d : Char, d.isDigit = true → continuesNumber d = true := by
      simp +contextual [continuesNumber]
    rcases Bool.or_eq_true_iff.mp starts with first | second
    · exact ⟨c, by simp [digits c first], first⟩
    · obtain ⟨rfl, ahead⟩ : c = '.' ∧ rest.head?.any Char.isDigit = true := by
        simpa using second
      cases rest with
      | nil => simp at ahead
      | cons d rest =>
        have digit : d.isDigit = true := ahead
        exact ⟨d, by simp [point, digits d digit], digit⟩

theorem ContentPiece.sorts {delimiter : Char} {piece : Piece}
    (inside : ContentPiece lexicon delimiter piece) : lexicon.Sorts piece.kind piece.lexeme := by
  cases inside with
  | quote _ role => exact .quote _ role
  | _ => exact .other Kind.noConfusion Kind.noConfusion

theorem Taken.sorts {text after : List Char} {segment : Segment} {piece : Piece}
    (taken : Taken lexicon text segment after) (member : piece ∈ segment.pieces lexicon) :
    lexicon.Sorts piece.kind piece.lexeme := by
  cases taken with
  | @number c rest ordinary starts points =>
    obtain rfl := List.mem_singleton.mp member
    refine .number rfl ?_
    simpa using numberText_of_startsNumber starts points
  | @quoted c content after kind ordinary noNumber role free =>
    simp only [pieces, List.mem_append, List.mem_cons, List.not_mem_nil, or_false] at member
    rcases member with (rfl | inside) | rfl
    · exact .quote c role
    · exact (contentPiece_of_mem free inside).sorts
    · exact .quote c role
  | @punctuation c rest kind unquoted role =>
    unfold Segment.punctuation at member
    split at member
    · split at member
      all_goals
        obtain rfl := List.mem_singleton.mp member
        exact .other Kind.noConfusion Kind.noConfusion
    · obtain rfl := List.mem_singleton.mp member
      exact .punctuation c role
  | @word c rest unquoted noRole letter =>
    obtain rfl := List.mem_singleton.mp member
    refine .word rfl ?_
    simp [isWord, continuesWord, letter]
  | blank | comment | compound | unknown =>
    obtain rfl := List.mem_singleton.mp member
    exact .other Kind.noConfusion Kind.noConfusion

end Segment

theorem sorts_of_tokenize {text : String} {tokens : List Token}
    (scanned : tokenize lexicon text = .ok tokens) :
    ∀ token ∈ tokens, lexicon.Sorts token.kind token.lexeme := by
  obtain ⟨segments, run, rfl⟩ := run_of_tokenize scanned
  have sorted : ∀ segment ∈ segments, ∀ piece ∈ segment.pieces lexicon,
      lexicon.Sorts piece.kind piece.lexeme :=
    run.forall_mem fun taken _ member => taken.sorts member
  intro token member
  rcases List.mem_append.mp member with placed | last
  · obtain ⟨piece, listed, place, rfl⟩ := Piece.exists_of_mem_place placed
    obtain ⟨segment, scanned, inside⟩ := List.mem_flatMap.mp listed
    exact sorted segment scanned piece inside
  · obtain rfl := List.mem_singleton.mp last
    exact .other Kind.noConfusion Kind.noConfusion

/-! ## Tidying makes up literals and operators only -/

namespace Stream

theorem mem_of_mem_gatherLiterals {opening? : Option Token} {tokens : List Token} {token : Token}
    (opened : ∀ opening ∈ opening?, opening.kind.isQuoted = true)
    (unquoted : token.kind.isQuoted = false) (member : token ∈ gatherLiterals opening? tokens) :
    token ∈ tokens := by
  fun_induction gatherLiterals opening? tokens with
  | case1 => exact member
  | case2 literal =>
    obtain rfl := List.mem_singleton.mp member
    simp [opened token rfl] at unquoted
  | case3 next tokens opens ih =>
    exact List.mem_cons_of_mem _ (ih (by simpa using opens) member)
  | case4 next tokens _ ih =>
    rcases List.mem_cons.mp member with rfl | later
    · exact List.mem_cons_self
    · exact List.mem_cons_of_mem _ (ih (by simp) later)
  | case5 literal next tokens longer closes ih =>
    rcases List.mem_cons.mp member with rfl | later
    · have quoted : literal.kind.isQuoted = true := opened literal rfl
      simp [longer, quoted] at unquoted
    · exact List.mem_cons_of_mem _ (ih (by simp) later)
  | case6 literal next tokens longer _ ih =>
    exact List.mem_cons_of_mem _ (ih (by simpa [longer] using opened) member)

theorem mem_of_mem_joinLiterals {tokens : List Token} {token : Token}
    (unquoted : token.kind.isQuoted = false) (member : token ∈ joinLiterals tokens) :
    token ∈ tokens := by
  obtain ⟨gathered, listed, stripped⟩ := List.mem_filterMap.mp member
  unfold stripDelimiters? at stripped
  split at stripped
  next quoted =>
    split at stripped
    next => simp at stripped
    next =>
      obtain rfl := Option.some.inj stripped
      simp [quoted] at unquoted
  next =>
    obtain rfl := Option.some.inj stripped
    exact mem_of_mem_gatherLiterals (by simp) unquoted listed

theorem kind_of_mem_operatorOfRun {run : List Token} {token : Token}
    (member : token ∈ operatorOfRun run) : token.kind = .operator ∨ token.kind = .hyphen := by
  obtain ⟨forwards, rfl⟩ : ∃ forwards, run = forwards.reverse := ⟨run.reverse, by simp⟩
  cases forwards with
  | nil => simp at member
  | cons first rest =>
    obtain ⟨operator, made, kind, -⟩ := exists_operatorOfRun first rest
    rw [made] at member
    obtain rfl := List.mem_singleton.mp member
    exact kind

theorem mem_of_mem_gatherOperators {run tokens : List Token} {token : Token}
    (notOperator : ¬(token.kind = .operator ∨ token.kind = .hyphen))
    (member : token ∈ gatherOperators lexicon run tokens) : token ∈ tokens := by
  have notOfRun : ∀ run, token ∉ operatorOfRun run :=
    fun run made => notOperator (kind_of_mem_operatorOfRun made)
  induction tokens generalizing run with
  | nil => exact absurd (by simpa [gatherOperators] using member) (notOfRun run)
  | cons next tokens ih =>
    rw [gatherOperators] at member
    split at member
    · split at member
      · exact List.mem_cons_of_mem _ (ih member)
      · have later := (List.mem_append.mp member).resolve_left (notOfRun run)
        exact List.mem_cons_of_mem _ (ih later)
    · have here := (List.mem_append.mp member).resolve_left (notOfRun run)
      rcases List.mem_cons.mp here with rfl | later
      · exact List.mem_cons_self
      · exact List.mem_cons_of_mem _ (ih later)

/-- A tidy token that is no literal and no operator is one of the tokens that have been tidied. -/
theorem mem_of_mem_tidy {tokens : List Token} {token : Token}
    (unquoted : token.kind.isQuoted = false)
    (notOperator : ¬(token.kind = .operator ∨ token.kind = .hyphen))
    (member : token ∈ tidy lexicon tokens) : token ∈ tokens :=
  have joined := (List.mem_filter.mp member).1
  mem_of_mem_joinLiterals unquoted (mem_of_mem_gatherOperators notOperator joined)

end Stream

theorem sorts_of_lex {text : String} {tokens : List Token} (lexed : lex lexicon text = .ok tokens)
    {token : Token} (member : token ∈ tokens) (unquoted : token.kind.isQuoted = false)
    (notOperator : ¬(token.kind = .operator ∨ token.kind = .hyphen)) :
    lexicon.Sorts token.kind token.lexeme := by
  obtain ⟨raw, scanned, rfl⟩ := lex_eq_ok_iff.mp lexed
  exact sorts_of_tokenize scanned token (Stream.mem_of_mem_tidy unquoted notOperator member)

/-! ## Numbers -/

/-- A lexicon that gives the kind of numbers to no word and to no character. -/
structure Lexicon.ReservesNumber (lexicon : Lexicon) : Prop where
  words : ∀ entry ∈ lexicon.words, entry.2 ≠ .number
  roles : ∀ entry ∈ lexicon.roles, entry.2 ≠ .punctuation .number ∧ entry.2 ≠ .quote .number

theorem Lexicon.reservesNumber_standard : standard.ReservesNumber :=
  ⟨by decide, by decide⟩

/-- Entries without the kind of numbers keep it reserved. -/
theorem Lexicon.ReservesNumber.extend {entries : List Entry} (reserves : lexicon.ReservesNumber)
    (words : ∀ text, .word text .number ∉ entries)
    (punctuation : ∀ c, .punctuation c .number ∉ entries)
    (quotes : ∀ c, .quote c .number ∉ entries) : (lexicon.extend entries).ReservesNumber := by
  refine extend_preserves reserves fun lexicon entry member reserves => ?_
  cases entry with
  | word text kind =>
    have other : kind ≠ .number := fun same => words text (same ▸ member)
    exact ⟨List.forall_mem_cons.mpr ⟨other, reserves.words⟩, reserves.roles⟩
  | punctuation c kind =>
    have other : kind ≠ .number := fun same => punctuation c (same ▸ member)
    exact ⟨reserves.words, List.forall_mem_cons.mpr ⟨by simpa using other, reserves.roles⟩⟩
  | quote c kind =>
    have other : kind ≠ .number := fun same => quotes c (same ▸ member)
    exact ⟨reserves.words, List.forall_mem_cons.mpr ⟨by simpa using other, reserves.roles⟩⟩
  | compound text =>
    rw [add_compound]
    exact ⟨reserves.words, reserves.roles⟩
  | symbol c => exact ⟨reserves.words, reserves.roles⟩
  | blank c => exact ⟨reserves.words, reserves.roles⟩

theorem Lexicon.ReservesNumber.kindOfWord_ne (reserves : lexicon.ReservesNumber) (word : String) :
    lexicon.kindOfWord word ≠ .number := by
  unfold Lexicon.kindOfWord
  cases found : lexicon.words.lookup word with
  | none => simp
  | some kind =>
    obtain ⟨before, after, split, -⟩ := List.lookup_eq_some_iff.mp found
    simpa using reserves.words (word, kind) (by simp [split])

theorem Lexicon.ReservesNumber.numberText (reserves : lexicon.ReservesNumber) {lexeme : String}
    (sorts : lexicon.Sorts .number lexeme) : Segment.NumberText lexeme.toList := by
  cases sorts with
  | number _ text => exact text
  | word listed _ => exact absurd listed.symm (reserves.kindOfWord_ne lexeme)
  | punctuation c role =>
    have listed := mem_roles_of_lookup (punctuation?_eq_some_iff.mp role)
    exact absurd rfl (reserves.roles _ listed).1
  | quote c role =>
    have listed := mem_roles_of_lookup (quote?_eq_some_iff.mp role)
    exact absurd rfl (reserves.roles _ listed).2
  | other notNumber _ => exact absurd rfl notNumber

/-- Where the kind of numbers is reserved, a number among the tidy tokens of a text is one that the
scanner takes as such. -/
theorem numberText_of_lex (reserves : lexicon.ReservesNumber) {text : String} {tokens : List Token}
    (lexed : lex lexicon text = .ok tokens) {token : Token} (member : token ∈ tokens)
    (kind : token.kind = .number) : Segment.NumberText token.lexeme.toList := by
  have sorts := sorts_of_lex lexed member (by simp [kind, Kind.isQuoted]) (by simp [kind])
  rw [kind] at sorts
  exact reserves.numberText sorts

/-! ## Names and operators of the standard lexicon -/

theorem Lexicon.isWord_of_sorts_standard {lexeme : String}
    (sorts : standard.Sorts .identifier lexeme) : isWord lexeme = true := by
  have roles : ∀ entry ∈ standard.roles,
      entry.2 ≠ .punctuation .identifier ∧ entry.2 ≠ .quote .identifier := by
    decide
  cases sorts with
  | number isNumber _ => exact Kind.noConfusion isNumber
  | word _ letter => exact letter
  | punctuation c role =>
    exact absurd rfl (roles _ (mem_roles_of_lookup (punctuation?_eq_some_iff.mp role))).1
  | quote c role =>
    exact absurd rfl (roles _ (mem_roles_of_lookup (quote?_eq_some_iff.mp role))).2
  | other _ notName => exact absurd rfl notName

/-- A name begins with a letter. -/
theorem isWord_of_lex {text : String} {tokens : List Token}
    (lexed : lex .standard text = .ok tokens) {token : Token} (member : token ∈ tokens)
    (kind : token.kind = .identifier) : isWord token.lexeme = true := by
  have sorts := sorts_of_lex lexed member (by simp [kind, Kind.isQuoted]) (by simp [kind])
  rw [kind] at sorts
  exact Lexicon.isWord_of_sorts_standard sorts

/-- An operator does not begin with a letter. -/
theorem not_isWord_of_lex {text : String} {tokens : List Token}
    (lexed : lex .standard text = .ok tokens) {token : Token} (member : token ∈ tokens)
    (kind : token.kind = .operator ∨ token.kind = .hyphen) : isWord token.lexeme = false := by
  have none : Lexicon.AreOperators [] := by simp [Lexicon.AreOperators]
  obtain ⟨pieces, rfl, -, formed⟩ := Stream.exists_formed_of_lex none lexed
  obtain ⟨piece, listed, place, rfl⟩ := Piece.exists_of_mem_place (List.mem_filter.mp member).1
  obtain ⟨earlier, later, rfl⟩ := List.append_of_mem listed
  have whole := formed.of_append.whole_of_cons kind
  have apart : ∀ c ∈ piece.source, Unicode.isXidStart c = false := by
    intro c inside
    have symbol : Lexicon.standard.isSymbol c = true := whole.symbols c inside
    exact (Lexicon.standard_symbols c (by simpa [Lexicon.isSymbol] using symbol)).2.2.1
  change piece.lexeme.toList.head?.any Unicode.isXidStart = false
  rw [whole.spelled.lexeme, Option.any_eq_false]
  exact fun c first => by simp [apart c (List.mem_of_mem_head? first)]

end Kite
