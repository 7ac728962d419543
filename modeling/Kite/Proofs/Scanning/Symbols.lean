import Kite.Proofs.Stream.QuotedLiterals
import Kite.Stream.Operators

/-!
# Operator characters

Where operator characters stand for nothing else but operators (`Lexicon.Symbolic`), the
scanner takes an operator piece or an arrow at each of them (`Segment.Taken.of_symbol`), and
an operator piece consists of such characters and knows whether another one follows
(`Segment.Taken.operatorPiece`). The standard lexicon and its extensions by compound
operators are of this kind.
-/

set_option autoImplicit false

namespace Kite

/-! ## Lexicons -/

namespace Lexicon

/-- A lexicon in which operator characters make operators, hyphens and arrows only, and in which
these are made of nothing else. -/
structure Symbolic (lexicon : Lexicon) : Prop where
  compound : ∀ operator ∈ lexicon.compounds, lexicon.isOperatorText operator = true
  hyphen : lexicon.isSymbol '-' = true
  notBlank : ∀ c, lexicon.isSymbol c = true → lexicon.isBlank c = false
  notNumber : ∀ c, lexicon.isSymbol c = true → Segment.continuesNumber c = false
  notLetter : ∀ c, lexicon.isSymbol c = true → Unicode.isXidStart c = false
  notQuote : ∀ c, lexicon.isSymbol c = true → lexicon.quote? c = none
  onlyHyphen : ∀ c kind, lexicon.isSymbol c = true → lexicon.punctuation? c = some kind →
    kind = .hyphen
  /-- No punctuation is an operator piece, hyphens apart, which are all spelled `-`. -/
  punctuation : ∀ c kind, lexicon.punctuation? c = some kind →
    (kind = .hyphen → c = '-') ∧ kind ≠ .operator ∧ kind ≠ .unknown
  word : ∀ word, lexicon.kindOfWord word = .identifier

theorem Symbolic.symbols_of_mem {lexicon : Lexicon} (symbolic : lexicon.Symbolic)
    {operator : String} (listed : operator ∈ lexicon.compounds) :
    operator ≠ "" ∧ ∀ c ∈ operator.toList, lexicon.isSymbol c = true := by
  simpa [isOperatorText] using symbolic.compound operator listed

/-- No compound operator begins with a character that is no operator character. -/
theorem Symbolic.compoundAt?_eq_none {lexicon : Lexicon} (symbolic : lexicon.Symbolic) {c : Char}
    (other : lexicon.isSymbol c = false) (rest : List Char) :
    lexicon.compoundAt? (c :: rest) = none := by
  refine List.find?_eq_none.mpr fun operator listed found => ?_
  obtain ⟨nonempty, symbols⟩ := symbolic.symbols_of_mem listed
  obtain ⟨after, begins⟩ := List.isPrefixOf_iff_prefix.mp found
  cases characters : operator.toList with
  | nil => exact nonempty (by simpa using characters)
  | cons d others =>
    obtain ⟨rfl, -⟩ : d = c ∧ others ++ after = rest := by simpa [characters] using begins
    have symbol := symbols d (by simp [characters])
    simp [other] at symbol

theorem Symbolic.isSymbol_eq_false_of_quote {lexicon : Lexicon} (symbolic : lexicon.Symbolic)
    {c : Char} {kind : Kind} (role : lexicon.quote? c = some kind) :
    lexicon.isSymbol c = false := by
  refine Bool.eq_false_iff.mpr fun symbol => ?_
  simp [symbolic.notQuote c symbol] at role

theorem Symbolic.isSymbol_eq_false_of_startsNumber {lexicon : Lexicon}
    (symbolic : lexicon.Symbolic) {c : Char} {rest : List Char}
    (starts : Segment.startsNumber c rest = true) : lexicon.isSymbol c = false := by
  refine Bool.eq_false_iff.mpr fun symbol => ?_
  have continues := Segment.continuesNumber_of_startsNumber starts
  simp [symbolic.notNumber c symbol] at continues

/-- The operator characters of the standard lexicon have no other use. -/
theorem standard_symbols : ∀ c ∈ standard.symbols,
    standard.isBlank c = false ∧ Segment.continuesNumber c = false ∧
      Unicode.isXidStart c = false ∧ standard.quote? c = none ∧
      (standard.punctuation? c = none ∨ standard.punctuation? c = some .hyphen) := by
  have symbols : (standard.symbols.all fun c =>
      standard.isBlank c = false ∧ Segment.continuesNumber c = false ∧
        Unicode.isXidStart c = false ∧ standard.quote? c = none ∧
        (standard.punctuation? c = none ∨ standard.punctuation? c = some .hyphen)) = true := by
    decide +kernel
  exact fun c listed => of_decide_eq_true (List.all_eq_true.mp symbols c listed)

/-- Compound operators of operator characters keep the standard lexicon symbolic. -/
theorem symbolic_standard_with {compounds : List String}
    (operators : ∀ operator ∈ compounds, standard.isOperatorText operator = true) :
    ({ standard with compounds } : Lexicon).Symbolic := by
  have plain : ∀ c, standard.isSymbol c = true → c ∈ standard.symbols := by
    simp [isSymbol]
  have hyphen : standard.isSymbol '-' = true := by decide
  refine ⟨operators, hyphen, ?_, ?_, ?_, ?_, ?_, ?_, fun _ => rfl⟩
  · exact fun c symbol => (standard_symbols c (plain c symbol)).1
  · exact fun c symbol => (standard_symbols c (plain c symbol)).2.1
  · exact fun c symbol => (standard_symbols c (plain c symbol)).2.2.1
  · exact fun c symbol => (standard_symbols c (plain c symbol)).2.2.2.1
  · intro c kind symbol role
    have role : standard.punctuation? c = some kind := role
    rcases (standard_symbols c (plain c symbol)).2.2.2.2 with none | hyphen
    · simp [none] at role
    · simpa [hyphen] using role.symm
  · intro c kind role
    have listed := mem_roles_of_lookup (punctuation?_eq_some_iff.mp role)
    have roles : ∀ entry ∈ standard.roles,
        (entry.2 = .punctuation .hyphen → entry.1 = '-') ∧
          entry.2 ≠ .punctuation .operator ∧ entry.2 ≠ .punctuation .unknown := by
      decide
    simpa using roles _ listed

theorem symbolic_standard : standard.Symbolic :=
  symbolic_standard_with (by decide)

theorem DistinctQuotes.with_compounds {lexicon : Lexicon} (distinct : lexicon.DistinctQuotes)
    (compounds : List String) : ({ lexicon with compounds } : Lexicon).DistinctQuotes where
  quoted := distinct.quoted
  distinct := distinct.distinct
  word := distinct.word
  punctuation := distinct.punctuation

/-- Entries that are all compound operators of standard operator characters. -/
def AreOperators (entries : List Entry) : Prop :=
  ∀ entry ∈ entries, ∃ text, entry = .compound text ∧
    ∀ c ∈ text.toList, standard.isSymbol c = true

theorem AreOperators.isOperatorText {entries : List Entry} (operators : AreOperators entries) :
    ∀ operator ∈ (standard.extend entries).compounds,
      standard.isOperatorText operator = true := by
  refine extend_preserves (P := fun lexicon =>
    ∀ operator ∈ lexicon.compounds, standard.isOperatorText operator = true) (by decide) ?_
  intro lexicon entry member known operator listed
  rcases mem_compounds_of_add listed with older | ⟨rfl, nonempty⟩
  · exact known operator older
  · obtain ⟨text, same, symbols⟩ := operators _ member
    obtain rfl := Entry.compound.inj same
    simpa [Lexicon.isOperatorText, nonempty] using symbols

theorem AreOperators.extend_eq {entries : List Entry} (operators : AreOperators entries) :
    standard.extend entries =
      { standard with compounds := (standard.extend entries).compounds } := by
  refine extend_of_compounds fun entry member => ?_
  obtain ⟨text, rfl, -⟩ := operators entry member
  exact ⟨text, rfl⟩

theorem AreOperators.symbolic {entries : List Entry} (operators : AreOperators entries) :
    (standard.extend entries).Symbolic := by
  rw [operators.extend_eq]
  exact symbolic_standard_with operators.isOperatorText

theorem AreOperators.distinctQuotes {entries : List Entry} (operators : AreOperators entries) :
    (standard.extend entries).DistinctQuotes := by
  rw [operators.extend_eq]
  exact distinctQuotes_standard.with_compounds _

end Lexicon

/-! ## Steps at operator characters -/

variable {lexicon : Lexicon}

/-- A piece of an operator before the text `after`: it consists of operator characters, and it is
closed if no such character follows. -/
structure Piece.OperatorBefore (lexicon : Lexicon) (piece : Piece) (after : List Char) :
    Prop where
  spelled : piece.Spelled
  symbols : ∀ c ∈ piece.source, lexicon.isSymbol c = true
  closed : piece.closed = some (lexicon.closedBefore after)
  outside : piece.internal = false
  compound : piece.kind = .operator → piece.lexeme ∈ lexicon.compounds
  hyphen : piece.kind = .hyphen → piece.source = ['-']

namespace Segment

/-- At an operator character a step takes an operator piece or an arrow. -/
theorem Taken.of_symbol (symbolic : lexicon.Symbolic) {c : Char} {rest after : List Char}
    {segment : Segment} (symbol : lexicon.isSymbol c = true)
    (taken : Taken lexicon (c :: rest) segment after) :
    segment.joined.kind = .arrow ∨
      ∀ position, Stream.isOperatorPiece lexicon (segment.joined.token position) = true := by
  cases taken with
  | blank blank => simp [symbolic.notBlank c symbol] at blank
  | comment notBlank role => simpa using symbolic.onlyHyphen c _ symbol role
  | compound notBlank notComment longest => exact .inr fun _ => rfl
  | number ordinary starts points =>
    simp [symbolic.isSymbol_eq_false_of_startsNumber starts] at symbol
  | quoted ordinary noNumber role free => simp [symbolic.notQuote c symbol] at role
  | punctuation unquoted role =>
    obtain rfl := symbolic.onlyHyphen c _ symbol role
    unfold Segment.punctuation
    rw [if_pos rfl]
    split
    · exact .inl rfl
    · exact .inr fun _ => rfl
  | word unquoted noRole letter => simp [symbolic.notLetter c symbol] at letter
  | unknown unquoted noRole noLetter =>
    refine .inr fun position => ?_
    simp [Stream.isOperatorPiece, joined, Segment.unknown, Piece.token, Lexicon.isOperatorText,
      symbol]

/-- An operator piece that a step takes consists of operator characters. -/
theorem Taken.operatorPiece (symbolic : lexicon.Symbolic) (reserves : lexicon.ReservesQuoted)
    {text after : List Char} {segment : Segment} {position : Position}
    (taken : Taken lexicon text segment after)
    (piece : Stream.isOperatorPiece lexicon (segment.joined.token position) = true) :
    segment.joined.OperatorBefore lexicon after := by
  cases taken with
  | blank blank => simp [Stream.isOperatorPiece, joined, Piece.token] at piece
  | comment notBlank role =>
    simp [Stream.isOperatorPiece, joined, Segment.comment, Piece.token] at piece
  | @compound c rest operator notBlank notComment longest =>
    have listed : operator ∈ lexicon.compounds := List.mem_of_find?_eq_some longest
    obtain ⟨nonempty, symbols⟩ := symbolic.symbols_of_mem listed
    exact {
      spelled := Piece.spelled_of_ne_nil (by simpa using nonempty)
      symbols := symbols
      closed := rfl
      outside := rfl
      compound := fun _ => by simpa [joined, Segment.compound] using listed
      hyphen := fun kind => by simp [joined, Segment.compound] at kind }
  | number ordinary starts points => simp [Stream.isOperatorPiece, joined, Piece.token] at piece
  | @quoted c content after kind ordinary noNumber role free =>
    have isQuoted := reserves.quoted c kind role
    cases kind <;>
      simp [Stream.isOperatorPiece, joined, Piece.token, Kind.isQuoted] at piece isQuoted
  | @punctuation c rest kind unquoted role =>
    obtain ⟨spelling, notOperator, notUnknown⟩ := symbolic.punctuation c kind role
    unfold Segment.punctuation at piece ⊢
    split at piece
    · next hyphen =>
      obtain rfl := spelling hyphen
      rw [if_pos hyphen]
      split at piece
      · simp [Stream.isOperatorPiece, joined, Piece.token] at piece
      · exact {
          spelled := ⟨by simp [joined], by simp [joined]⟩
          symbols := by simpa [joined] using symbolic.hyphen
          closed := rfl
          outside := rfl
          compound := fun kind => by simp [joined] at kind
          hyphen := fun _ => rfl }
    · cases kind <;> simp_all [Stream.isOperatorPiece, joined, Piece.token]
  | word unquoted noRole letter =>
    simp [Stream.isOperatorPiece, joined, Segment.word, Piece.token, symbolic.word] at piece
  | @unknown c rest unquoted noRole noLetter =>
    have symbol : lexicon.isSymbol c = true := by
      simpa [Stream.isOperatorPiece, joined, Segment.unknown, Piece.token,
        Lexicon.isOperatorText] using piece
    exact {
      spelled := Piece.spelled_of_ne_nil (by simp)
      symbols := by simpa [joined, Segment.unknown] using symbol
      closed := rfl
      outside := rfl
      compound := fun kind => by simp [joined, Segment.unknown] at kind
      hyphen := fun kind => by simp [joined, Segment.unknown] at kind }

/-- An unknown piece that a step takes, and that is no operator piece, is no operator character. -/
theorem Taken.exists_of_unknown (symbolic : lexicon.Symbolic) (reserves : lexicon.ReservesQuoted)
    {text after : List Char} {segment : Segment} {position : Position}
    (taken : Taken lexicon text segment after) (kind : segment.joined.kind = .unknown)
    (notPiece : Stream.isOperatorPiece lexicon (segment.joined.token position) = false) :
    ∃ c ∈ segment.joined.lexeme.toList, lexicon.isSymbol c = false := by
  cases taken with
  | blank blank => simp [joined] at kind
  | comment notBlank role => simp [joined, Segment.comment] at kind
  | compound notBlank notComment longest => simp [joined, Segment.compound] at kind
  | number ordinary starts points => simp [joined] at kind
  | @quoted c content after quoteKind ordinary noNumber role free =>
    obtain rfl : quoteKind = .unknown := kind
    simpa [Kind.isQuoted] using reserves.quoted c _ role
  | @punctuation c rest punctuationKind unquoted role =>
    obtain ⟨-, -, notUnknown⟩ := symbolic.punctuation c punctuationKind role
    unfold Segment.punctuation at kind
    split at kind
    · split at kind <;> simp [joined] at kind
    · exact absurd kind notUnknown
  | word unquoted noRole letter => simp [joined, Segment.word, symbolic.word] at kind
  | @unknown c rest unquoted noRole noLetter =>
    refine ⟨c, by simp [joined, Segment.unknown], ?_⟩
    simpa [Stream.isOperatorPiece, joined, Segment.unknown, Piece.token, Lexicon.isOperatorText]
      using notPiece

end Segment

end Kite
