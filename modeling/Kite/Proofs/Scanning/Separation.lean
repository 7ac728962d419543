import Kite.Proofs.Scanning.Progress
import Kite.Proofs.Stream.QuotedLiterals

/-!
# Characters that part a text

Some characters are taken together with nothing that stands before them
(`Lexicon.Separates`). Before such a character the scanner takes what it takes where the
text ends (`Segment.Taken.append`), so a text that is scanned to its end begins the scan
of every longer text that goes on with such a character (`Scan.Run.append`). A comment at
the end of the text is parted from what follows by a newline only. The blanks of the
standard lexicon are all of this kind. Conversely, where a step ends it would end without
what follows too, and only operators know whether an operator character comes next. So a
scan that comes to any other character is a scan of the text before it
(`Scan.Run.of_append`).
-/

set_option autoImplicit false

namespace Kite

variable {lexicon : Lexicon}

/-- A character that continues no token but a comment and a literal. -/
structure Lexicon.Separates (lexicon : Lexicon) (d : Char) : Prop where
  notSymbol : lexicon.isSymbol d = false
  notCompound : ∀ operator ∈ lexicon.compounds, d ∉ operator.toList
  notNumber : Segment.continuesNumber d = false
  notWord : Segment.continuesWord d = false
  notArrow : d ≠ '>'

theorem Lexicon.separates_of_isBlank_standard {d : Char} (blank : standard.isBlank d = true) :
    standard.Separates d := by
  have blanks : (standard.blanks.all fun d => standard.isSymbol d = false ∧
      (∀ operator ∈ standard.compounds, d ∉ operator.toList) ∧
      Segment.continuesNumber d = false ∧ Segment.continuesWord d = false ∧ d ≠ '>') = true := by
    decide +kernel
  have listed : d ∈ standard.blanks := by simpa [isBlank] using blank
  obtain ⟨notSymbol, notCompound, notNumber, notWord, notArrow⟩ :=
    of_decide_eq_true (List.all_eq_true.mp blanks d listed)
  exact { notSymbol, notCompound, notNumber, notWord, notArrow }

/-! ## What stands before a separating character -/

theorem takeWhile_append_cons {p : Char → Bool} {d : Char} {text : List Char}
    (stops : text.dropWhile p = [] → p d = false) (more : List Char) :
    (text ++ d :: more).takeWhile p = text.takeWhile p := by
  induction text with
  | nil => simp [stops rfl]
  | cons c text ih =>
    cases taken : p c with
    | true => simp_all
    | false => simp [taken]

theorem dropWhile_append_cons {p : Char → Bool} {d : Char} {text : List Char}
    (stops : text.dropWhile p = [] → p d = false) (more : List Char) :
    (text ++ d :: more).dropWhile p = text.dropWhile p ++ d :: more := by
  induction text with
  | nil => simp [stops rfl]
  | cons c text ih =>
    cases taken : p c with
    | true => simp_all
    | false => simp [taken]

/-- What remains before the end of a text remains of the text without its end. -/
theorem dropWhile_of_append {p : Char → Bool} (text : List Char) {after more : List Char}
    (remains : (text ++ more).dropWhile p = after ++ more) :
    (text ++ more).takeWhile p = text.takeWhile p ∧ text.dropWhile p = after := by
  induction text with
  | nil =>
    have covered := congrArg List.length (List.takeWhile_append_dropWhile (p := p) (l := more))
    rw [List.nil_append] at remains
    rw [remains, List.length_append, List.length_append] at covered
    exact ⟨List.length_eq_zero_iff.mp (by rw [List.nil_append]; omega),
      (List.length_eq_zero_iff.mp (by omega)).symm⟩
  | cons c text ih =>
    rw [List.cons_append] at remains ⊢
    cases taken : p c with
    | true =>
      rw [List.dropWhile_cons_of_pos taken] at remains
      simpa [taken] using ih remains
    | false =>
      rw [List.dropWhile_cons_of_neg (by simp [taken])] at remains
      simpa [taken] using List.append_cancel_right remains

theorem isPrefixOf_append_cons {beginning : List Char} {d : Char} (absent : d ∉ beginning)
    (text more : List Char) :
    beginning.isPrefixOf (text ++ d :: more) = beginning.isPrefixOf text := by
  induction beginning generalizing text with
  | nil => simp
  | cons c beginning ih =>
    obtain ⟨other, others⟩ := List.ne_and_not_mem_of_not_mem_cons absent
    cases text with
    | nil => simp [List.isPrefixOf, Ne.symm other]
    | cons first text => simp [List.isPrefixOf, ih others]

theorem Lexicon.closedBefore_append_of_closed {more : List Char}
    (closed : lexicon.closedBefore more = true) (text : List Char) :
    lexicon.closedBefore (text ++ more) = lexicon.closedBefore text := by
  cases text with
  | nil => exact closed
  | cons c text => rfl

namespace Lexicon.Separates

variable {d : Char}

theorem closedBefore_cons (apart : lexicon.Separates d) (more : List Char) :
    lexicon.closedBefore (d :: more) = true := by
  simp [closedBefore, apart.notSymbol]

theorem closedBefore_append (apart : lexicon.Separates d) (text more : List Char) :
    lexicon.closedBefore (text ++ d :: more) = lexicon.closedBefore text :=
  closedBefore_append_of_closed (apart.closedBefore_cons more) text

theorem compoundAt?_append (apart : lexicon.Separates d) (text more : List Char) :
    lexicon.compoundAt? (text ++ d :: more) = lexicon.compoundAt? text := by
  unfold compoundAt?
  have same := fun operator listed =>
    isPrefixOf_append_cons (apart.notCompound operator listed) text more
  generalize lexicon.compounds = compounds at same
  induction compounds with
  | nil => rfl
  | cons operator compounds ih =>
    obtain ⟨first, others⟩ := List.forall_mem_cons.mp same
    rw [List.find?_cons, List.find?_cons, first, ih others]

theorem startsNumber_append (apart : lexicon.Separates d) (c : Char) (rest more : List Char) :
    Segment.startsNumber c (rest ++ d :: more) = Segment.startsNumber c rest := by
  have notDigit : d.isDigit = false := by
    have notNumber := apart.notNumber
    simp only [Segment.continuesNumber, Bool.or_eq_false_iff] at notNumber
    exact notNumber.1
  cases rest with
  | nil => simp [Segment.startsNumber, notDigit]
  | cons c rest => rfl

end Lexicon.Separates

namespace Segment

variable {d : Char}

theorem Ordinary.append (apart : lexicon.Separates d) {c : Char} {rest : List Char}
    (ordinary : Ordinary lexicon c rest) (more : List Char) :
    Ordinary lexicon c (rest ++ d :: more) where
  notBlank := ordinary.notBlank
  notComment := ordinary.notComment
  noCompound := (apart.compoundAt?_append (c :: rest) more).trans ordinary.noCompound

theorem Unquoted.append (apart : lexicon.Separates d) {c : Char} {rest : List Char}
    (unquoted : Unquoted lexicon c rest) (more : List Char) :
    Unquoted lexicon c (rest ++ d :: more) where
  toOrdinary := unquoted.toOrdinary.append apart more
  noNumber := (apart.startsNumber_append c rest more).trans unquoted.noNumber
  notQuote := unquoted.notQuote

theorem compound_append (apart : lexicon.Separates d) {text : List Char} {operator : String}
    (longest : lexicon.compoundAt? text = some operator) (more : List Char) :
    compound lexicon operator (text ++ d :: more) =
      ((compound lexicon operator text).1, (compound lexicon operator text).2 ++ d :: more) := by
  have short : operator.length ≤ text.length := by
    have length := congrArg List.length (append_of_compoundAt? longest)
    simp only [List.length_append, String.length_toList] at length
    omega
  simp [compound, List.drop_append_of_le_length short, apart.closedBefore_append]

theorem punctuation_append (apart : lexicon.Separates d) (kind : Kind) (c : Char)
    (rest more : List Char) :
    punctuation lexicon kind c (rest ++ d :: more) =
      ((punctuation lexicon kind c rest).1, (punctuation lexicon kind c rest).2 ++ d :: more) := by
  unfold punctuation
  by_cases hyphen : kind = .hyphen
  · rw [if_pos hyphen, if_pos hyphen]
    cases rest with
    | nil => simp [apart.notArrow, Lexicon.closedBefore, apart.notSymbol]
    | cons first rest =>
      by_cases arrow : first = '>'
      · subst arrow
        simp [apart.closedBefore_append]
      · simp [arrow, Lexicon.closedBefore]
  · rw [if_neg hyphen, if_neg hyphen]

/-- Before a separating character a step takes what it takes where the text ends. -/
theorem Taken.append (apart : lexicon.Separates d) {text after : List Char} {segment : Segment}
    (taken : Taken lexicon text segment after)
    (newline : segment.joined.kind = .comment → after = [] → d = '\n') (more : List Char) :
    Taken lexicon (text ++ d :: more) segment (after ++ d :: more) := by
  cases taken with
  | blank blank => exact .blank blank
  | @comment c rest notBlank role =>
    have stops (ended : (c :: rest).dropWhile (· ≠ '\n') = []) : decide (d ≠ '\n') = false := by
      simp [newline rfl ended]
    have taken := @Taken.comment lexicon c (rest ++ d :: more) notBlank role
    rw [← List.cons_append, Segment.comment, takeWhile_append_cons stops,
      dropWhile_append_cons stops] at taken
    exact taken
  | @compound c rest operator notBlank notComment longest =>
    have taken := @Taken.compound lexicon c (rest ++ d :: more) operator notBlank notComment
      (by rw [← List.cons_append, apart.compoundAt?_append, longest])
    rwa [← List.cons_append, compound_append apart longest] at taken
  | @number c rest ordinary starts points =>
    have taken := @Taken.number lexicon c (rest ++ d :: more)
      (ordinary.append apart more) (by rw [apart.startsNumber_append, starts])
    rw [← List.cons_append, takeWhile_append_cons fun _ => apart.notNumber,
      dropWhile_append_cons fun _ => apart.notNumber] at taken
    exact taken points
  | @quoted c content after kind ordinary noNumber role free =>
    have same : content ++ c :: after ++ d :: more = content ++ c :: (after ++ d :: more) := by
      simp
    have stays := ordinary.append apart more
    have number := apart.startsNumber_append c (content ++ c :: after) more
    rw [same] at stays number
    have taken := Taken.quoted stays (number.trans noNumber) role free
    simpa using taken
  | @punctuation c rest kind unquoted role =>
    have taken := Taken.punctuation (unquoted.append apart more) role
    rwa [punctuation_append apart] at taken
  | @word c rest unquoted noRole letter =>
    have taken := Taken.word (unquoted.append apart more) noRole letter
    rw [← List.cons_append, Segment.word, takeWhile_append_cons fun _ => apart.notWord,
      dropWhile_append_cons fun _ => apart.notWord] at taken
    exact taken
  | @unknown c rest unquoted noRole noLetter =>
    have taken := Taken.unknown (unquoted.append apart more) noRole noLetter
    rw [Segment.unknown, apart.closedBefore_append] at taken
    exact taken

/-! ## What stands before a text that extends no operator -/

theorem isPrefixOf_append_of_isPrefixOf {beginning text : List Char}
    (found : beginning.isPrefixOf text = true) (more : List Char) :
    beginning.isPrefixOf (text ++ more) = true := by
  rw [List.isPrefixOf_iff_prefix] at found ⊢
  exact found.trans (List.prefix_append text more)

theorem compoundAt?_of_append {text more : List Char} {operator : String}
    (longest : lexicon.compoundAt? (text ++ more) = some operator)
    (short : operator.length ≤ text.length) : lexicon.compoundAt? text = some operator := by
  obtain ⟨found, longer, shorter, split, others⟩ := List.find?_eq_some_iff_append.mp longest
  refine List.find?_eq_some_iff_append.mpr ⟨?_, longer, shorter, split, fun other member => ?_⟩
  · rw [List.isPrefixOf_iff_prefix] at found ⊢
    rw [← String.length_toList] at short
    exact List.prefix_of_prefix_length_le found (List.prefix_append text more) short
  · have absent := others other member
    cases within : other.toList.isPrefixOf text with
    | false => rfl
    | true => simp [isPrefixOf_append_of_isPrefixOf within more] at absent

theorem Ordinary.of_append {c : Char} {rest more : List Char}
    (ordinary : Ordinary lexicon c (rest ++ more)) : Ordinary lexicon c rest where
  notBlank := ordinary.notBlank
  notComment := ordinary.notComment
  noCompound := by
    have none := List.find?_eq_none.mp ordinary.noCompound
    exact List.find?_eq_none.mpr fun operator member found =>
      none operator member (isPrefixOf_append_of_isPrefixOf found more)

theorem startsNumber_of_append {c : Char} {rest more : List Char}
    (noNumber : startsNumber c (rest ++ more) = false) : startsNumber c rest = false := by
  cases rest with
  | nil => simp_all [startsNumber]
  | cons d rest => exact noNumber

theorem Unquoted.of_append {c : Char} {rest more : List Char}
    (unquoted : Unquoted lexicon c (rest ++ more)) : Unquoted lexicon c rest where
  toOrdinary := unquoted.toOrdinary.of_append
  noNumber := startsNumber_of_append unquoted.noNumber
  notQuote := unquoted.notQuote

/-- A number that ends where the text ends begins there. -/
theorem startsNumber_of_takeWhile {c : Char} {rest more : List Char}
    (starts : startsNumber c (rest ++ more) = true)
    (ends : (c :: rest ++ more).takeWhile continuesNumber =
      (c :: rest).takeWhile continuesNumber) : startsNumber c rest = true := by
  cases rest with
  | cons d rest => exact starts
  | nil =>
    rcases Bool.or_eq_true_iff.mp starts with digit | ahead
    · simp [startsNumber, digit]
    · -- a point before the end of the text would go on with the digit behind it
      obtain ⟨rfl, digit⟩ : c = '.' ∧ more.head?.any Char.isDigit = true := by simpa using ahead
      cases more with
      | nil => simp at digit
      | cons d more =>
        have digit : d.isDigit = true := digit
        simp [continuesNumber, digit] at ends

theorem punctuation_of_append {more : List Char} (closed : lexicon.closedBefore more = true)
    {kind : Kind} {c : Char} {rest after : List Char}
    (remains : after ++ more = (punctuation lexicon kind c (rest ++ more)).2) :
    punctuation lexicon kind c rest =
      ((punctuation lexicon kind c (rest ++ more)).1, after) := by
  have same := Lexicon.closedBefore_append_of_closed closed
  unfold punctuation at remains ⊢
  by_cases hyphen : kind = .hyphen
  · rw [if_pos hyphen] at remains ⊢
    rw [if_pos hyphen]
    cases rest with
    | nil =>
      cases more with
      | nil =>
        obtain rfl : after = [] := by simpa using remains
        rfl
      | cons d more =>
        have notArrow : d ≠ '>' := by
          rintro rfl
          have length := congrArg List.length remains
          simp at length
          omega
        have notSymbol : lexicon.isSymbol d = false := by simpa [Lexicon.closedBefore] using closed
        obtain rfl : after = [] := by simpa [notArrow] using remains
        simp [notArrow, notSymbol, Lexicon.closedBefore]
    | cons first rest =>
      by_cases arrow : first = '>'
      · subst arrow
        obtain rfl : after = rest := by simpa using remains
        simp [same]
      · obtain rfl : after = first :: rest := by
          refine List.append_cancel_right (remains.trans ?_)
          simp [arrow]
        simp [arrow, Lexicon.closedBefore]
  · rw [if_neg hyphen] at remains ⊢
    obtain rfl := List.append_cancel_right remains
    rw [if_neg hyphen]

/-- What a step takes before a text that extends no operator it takes where that text is missing. -/
theorem Taken.of_append {text after more : List Char} {segment : Segment}
    (closed : lexicon.closedBefore more = true) (nonempty : text ≠ [])
    (taken : Taken lexicon (text ++ more) segment (after ++ more)) :
    Taken lexicon text segment after := by
  obtain ⟨c, rest, rfl⟩ := List.exists_cons_of_ne_nil nonempty
  rw [List.cons_append] at taken
  generalize remains : after ++ more = remaining at taken
  generalize whole : rest ++ more = behind at taken
  cases taken with
  | blank blank =>
    obtain rfl := List.append_cancel_right (whole.trans remains.symm)
    exact .blank blank
  | comment notBlank role =>
    subst whole
    have remains : (c :: rest ++ more).dropWhile (· ≠ '\n') = after ++ more := remains.symm
    obtain ⟨same, rfl⟩ := dropWhile_of_append (c :: rest) remains
    have taken := @Taken.comment lexicon c rest notBlank role
    rwa [Segment.comment, ← same] at taken
  | @compound _ _ operator notBlank notComment longest =>
    subst whole
    have remains : after ++ more = (c :: rest ++ more).drop operator.length := remains
    have short : operator.length ≤ (c :: rest).length := by
      have length := congrArg List.length remains
      have covered := congrArg List.length (append_of_compoundAt? longest)
      simp only [List.length_append, List.length_drop, List.length_cons,
        String.length_toList] at length covered ⊢
      omega
    have longest := compoundAt?_of_append longest short
    rw [List.drop_append_of_le_length short] at remains
    obtain rfl := List.append_cancel_right remains
    have taken := Taken.compound notBlank notComment longest
    rw [← List.cons_append, Segment.compound, List.drop_append_of_le_length short,
      Lexicon.closedBefore_append_of_closed closed]
    exact taken
  | number ordinary starts points =>
    subst whole
    obtain ⟨same, rfl⟩ := dropWhile_of_append (c :: rest) remains.symm
    have starts := startsNumber_of_takeWhile starts same
    rw [← List.cons_append, same] at points ⊢
    exact .number ordinary.of_append starts points
  | @quoted _ content _ kind ordinary noNumber role free =>
    subst remains
    obtain rfl : rest = content ++ c :: after := by
      refine List.append_cancel_right (whole.trans ?_)
      simp
    rw [← whole] at ordinary noNumber
    exact .quoted ordinary.of_append (startsNumber_of_append noNumber) role free
  | @punctuation _ _ kind unquoted role =>
    subst whole
    have taken := Taken.punctuation unquoted.of_append role
    rwa [punctuation_of_append closed remains] at taken
  | word unquoted noRole letter =>
    subst whole
    have remains : (c :: rest ++ more).dropWhile continuesWord = after ++ more := remains.symm
    obtain ⟨same, rfl⟩ := dropWhile_of_append (c :: rest) remains
    have taken := @Taken.word lexicon c rest unquoted.of_append noRole letter
    rwa [Segment.word, ← same] at taken
  | unknown unquoted noRole noLetter =>
    subst whole
    obtain rfl := List.append_cancel_right remains
    rw [Segment.unknown, Lexicon.closedBefore_append_of_closed closed]
    exact .unknown unquoted.of_append noRole noLetter

end Segment

namespace Scan

/-- A run over a text begins a run over every longer text that goes on with a separating
character. -/
theorem Run.append {d : Char} (apart : lexicon.Separates d) {text rest : List Char}
    {segments : List Segment} (run : Run lexicon text segments rest)
    (newline : ∀ segment ∈ segments.getLast?, segment.joined.kind = .comment → d = '\n')
    (more : List Char) : Run lexicon (text ++ d :: more) segments (rest ++ d :: more) := by
  induction run with
  | done text => exact .done _
  | @step text middle rest segment segments taken run ih =>
    refine .step (taken.append apart (fun comment ended => ?_) more) (ih fun last member => ?_)
    · -- a comment that reaches the end of the text is the last segment
      subst ended
      cases run with
      | done => exact newline segment rfl comment
      | step taken => exact absurd taken (by rintro ⟨⟩)
    · refine newline last ?_
      rw [List.getLast?_cons, Option.mem_def.mp member]
      rfl

/-- A run over the beginning of a text, before what extends no operator, is a run where what follows
is missing. -/
theorem Run.of_append (moves : ¬ lexicon.StallsAtNewline) (named : "" ∉ lexicon.compounds)
    {text rest more : List Char} {segments : List Segment}
    (closed : lexicon.closedBefore more = true)
    (run : Run lexicon (text ++ more) segments (rest ++ more)) :
    Run lexicon text segments rest := by
  generalize whole : text ++ more = longer at run
  generalize remains : rest ++ more = remaining at run
  induction run generalizing text with
  | done longer =>
    obtain rfl := List.append_cancel_right (whole.trans remains.symm)
    exact .done _
  | @step longer middle remaining segment segments taken run ih =>
    subst remains whole
    obtain ⟨after, rfl⟩ : ∃ after, middle = after ++ more :=
      ⟨segments.flatMap Segment.source ++ rest, by rw [← run.source_append, List.append_assoc]⟩
    have nonempty : text ≠ [] := by
      rintro rfl
      have shorter := taken.length_lt moves named
      simp only [List.nil_append, List.length_append] at shorter
      omega
    exact .step (taken.of_append closed nonempty) (ih rfl rfl)

theorem Run.trans {first second third : List Char} {segments others : List Segment}
    (one : Run lexicon first segments second) (two : Run lexicon second others third) :
    Run lexicon first (segments ++ others) third := by
  induction one with
  | done text => exact two
  | step taken _ ih => exact .step taken (ih two)

end Scan

end Kite
