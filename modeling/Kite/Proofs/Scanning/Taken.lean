import Kite.Segment.Scan

/-!
# What one step of scanning takes

`Segment.Taken` lists, rule by rule, the segments that a step may take from the beginning
of a text, each with the conditions under which its rule applies and with the text that
remains. By `taken_of_next` and `next_of_taken` a successful step takes exactly what one of
the rules takes, so facts about a step are shown by cases on the rules. The content of a
quoted literal is characterised by `Content`, which does not mention the text around it.
-/

set_option autoImplicit false

namespace Kite.Segment

variable {lexicon : Lexicon}

/-- A text in which every backslash takes the character after it, and in which the delimiter
stands nowhere else. -/
inductive Content (delimiter : Char) : List Char → Prop where
  | nil : Content delimiter []
  | escape {c : Char} {rest : List Char} (notDelimiter : '\\' ≠ delimiter)
      (content : Content delimiter rest) : Content delimiter ('\\' :: c :: rest)
  | plain {c : Char} {rest : List Char} (notDelimiter : c ≠ delimiter) (notEscape : c ≠ '\\')
      (content : Content delimiter rest) : Content delimiter (c :: rest)

theorem splitAtDelimiter?_delimiter (delimiter : Char) (rest : List Char) :
    splitAtDelimiter? delimiter (delimiter :: rest) = some ([], rest) := by
  cases rest <;> simp [splitAtDelimiter?]

theorem splitAtDelimiter?_escape {delimiter : Char} (notDelimiter : '\\' ≠ delimiter) (c : Char)
    (rest : List Char) :
    splitAtDelimiter? delimiter ('\\' :: c :: rest) =
      (splitAtDelimiter? delimiter rest).map fun (content, after) =>
        ('\\' :: c :: content, after) := by
  rw [splitAtDelimiter?, if_neg notDelimiter, if_pos rfl]
  cases splitAtDelimiter? delimiter rest <;> rfl

theorem splitAtDelimiter?_plain {delimiter c : Char} (notDelimiter : c ≠ delimiter)
    (notEscape : c ≠ '\\') (rest : List Char) :
    splitAtDelimiter? delimiter (c :: rest) =
      (splitAtDelimiter? delimiter rest).map fun (content, after) => (c :: content, after) := by
  cases rest with
  | nil => simp [splitAtDelimiter?, notDelimiter, notEscape]
  | cons d rest =>
    rw [splitAtDelimiter?, if_neg notDelimiter, if_neg notEscape]
    cases splitAtDelimiter? delimiter (d :: rest) <;> rfl

/-- A text splits at the first delimiter outside escapes. -/
theorem splitAtDelimiter?_eq_some_iff {delimiter : Char} {text content after : List Char} :
    splitAtDelimiter? delimiter text = some (content, after) ↔
      Content delimiter content ∧ text = content ++ delimiter :: after := by
  constructor
  · intro split
    induction text using splitAtDelimiter?.induct delimiter generalizing content with
    | case1 => simp [splitAtDelimiter?] at split
    | case2 rest =>
      obtain ⟨rfl, rfl⟩ := by simpa [splitAtDelimiter?_delimiter] using split
      exact ⟨.nil, rfl⟩
    | case3 notDelimiter => simp [splitAtDelimiter?, notDelimiter] at split
    | case4 c rest unclosed notDelimiter ih =>
      simp [splitAtDelimiter?_escape notDelimiter, unclosed] at split
    | case5 c rest inner after' found notDelimiter ih =>
      rw [splitAtDelimiter?_escape notDelimiter, found] at split
      obtain ⟨rfl, rfl⟩ := by simpa using split
      obtain ⟨free, rfl⟩ := ih found
      exact ⟨.escape notDelimiter free, rfl⟩
    | case6 c rest notDelimiter notEscape unclosed ih =>
      simp [splitAtDelimiter?_plain notDelimiter notEscape, unclosed] at split
    | case7 c rest notDelimiter notEscape inner after' found ih =>
      rw [splitAtDelimiter?_plain notDelimiter notEscape, found] at split
      obtain ⟨rfl, rfl⟩ := by simpa using split
      obtain ⟨free, rfl⟩ := ih found
      exact ⟨.plain notDelimiter notEscape free, rfl⟩
  · rintro ⟨free, rfl⟩
    induction free with
    | nil => exact splitAtDelimiter?_delimiter delimiter after
    | escape notDelimiter _ ih => simp [splitAtDelimiter?_escape notDelimiter, ih]
    | plain notDelimiter notEscape _ ih =>
      simp [splitAtDelimiter?_plain notDelimiter notEscape, ih]

/-- A number begins with one of its characters. -/
theorem continuesNumber_of_startsNumber {c : Char} {rest : List Char}
    (starts : startsNumber c rest = true) : continuesNumber c = true := by
  unfold startsNumber at starts
  unfold continuesNumber
  grind

/-- None of the rules that come before numbers applies to the text `c :: rest`. -/
structure Ordinary (lexicon : Lexicon) (c : Char) (rest : List Char) : Prop where
  notBlank : lexicon.isBlank c = false
  notComment : lexicon.punctuation? c ≠ some .comment
  noCompound : lexicon.compoundAt? (c :: rest) = none

/-- None of the rules that come before punctuation applies to the text `c :: rest`. -/
structure Unquoted (lexicon : Lexicon) (c : Char) (rest : List Char) : Prop
    extends Ordinary lexicon c rest where
  noNumber : startsNumber c rest = false
  notQuote : lexicon.quote? c = none

/-- `Taken lexicon text segment after` says that some rule takes `segment` from the beginning of
`text` and leaves `after`. -/
inductive Taken (lexicon : Lexicon) : List Char → Segment → List Char → Prop where
  | blank {c : Char} {rest : List Char} (blank : lexicon.isBlank c = true) :
      Taken lexicon (c :: rest) (.plain { kind := .whitespace, source := [c] }) rest
  | comment {c : Char} {rest : List Char} (notBlank : lexicon.isBlank c = false)
      (role : lexicon.punctuation? c = some .comment) :
      Taken lexicon (c :: rest) (comment (c :: rest)).1 (comment (c :: rest)).2
  | compound {c : Char} {rest : List Char} {operator : String}
      (notBlank : lexicon.isBlank c = false) (notComment : lexicon.punctuation? c ≠ some .comment)
      (longest : lexicon.compoundAt? (c :: rest) = some operator) :
      Taken lexicon (c :: rest) (compound lexicon operator (c :: rest)).1
        (compound lexicon operator (c :: rest)).2
  | number {c : Char} {rest : List Char} (ordinary : Ordinary lexicon c rest)
      (starts : startsNumber c rest = true)
      (points : ((c :: rest).takeWhile continuesNumber).count '.' ≤ 1) :
      Taken lexicon (c :: rest)
        (.plain { kind := .number, source := (c :: rest).takeWhile continuesNumber })
        ((c :: rest).dropWhile continuesNumber)
  | quoted {c : Char} {content after : List Char} {kind : Kind}
      (ordinary : Ordinary lexicon c (content ++ c :: after))
      (noNumber : startsNumber c (content ++ c :: after) = false)
      (role : lexicon.quote? c = some kind) (free : Content c content) :
      Taken lexicon (c :: (content ++ c :: after)) (.literal kind c content) after
  | punctuation {c : Char} {rest : List Char} {kind : Kind} (unquoted : Unquoted lexicon c rest)
      (role : lexicon.punctuation? c = some kind) :
      Taken lexicon (c :: rest) (punctuation lexicon kind c rest).1
        (punctuation lexicon kind c rest).2
  | word {c : Char} {rest : List Char} (unquoted : Unquoted lexicon c rest)
      (noRole : lexicon.punctuation? c = none) (letter : Unicode.isXidStart c = true) :
      Taken lexicon (c :: rest) (word lexicon (c :: rest)).1 (word lexicon (c :: rest)).2
  | unknown {c : Char} {rest : List Char} (unquoted : Unquoted lexicon c rest)
      (noRole : lexicon.punctuation? c = none) (noLetter : Unicode.isXidStart c = false) :
      Taken lexicon (c :: rest) (unknown lexicon c rest).1 (unknown lexicon c rest).2

/-- Past blanks, comments and compound operators, numbers come first. -/
theorem next_of_ordinary {c : Char} {rest : List Char} (ordinary : Ordinary lexicon c rest) :
    next lexicon c rest =
      if startsNumber c rest then number (c :: rest)
      else
        match lexicon.quote? c with
        | some kind => quoted kind c rest
        | none =>
          match lexicon.punctuation? c with
          | some kind => .ok (punctuation lexicon kind c rest)
          | none =>
            if Unicode.isXidStart c then .ok (word lexicon (c :: rest))
            else .ok (unknown lexicon c rest) := by
  obtain ⟨notBlank, notComment, noCompound⟩ := ordinary
  simp only [next, notBlank, notComment, noCompound]
  rfl

/-- What a step takes, one of the rules takes. -/
theorem taken_of_next {c : Char} {rest after : List Char} {segment : Segment}
    (taken : next lexicon c rest = .ok (segment, after)) :
    Taken lexicon (c :: rest) segment after := by
  by_cases blank : lexicon.isBlank c = true
  · obtain ⟨rfl, rfl⟩ := by simpa [next, blank] using taken
    exact .blank blank
  have notBlank : lexicon.isBlank c = false := by simpa using blank
  by_cases role : lexicon.punctuation? c = some .comment
  · obtain ⟨rfl, rfl⟩ := by simpa [next, notBlank, role, Prod.ext_iff] using taken
    exact .comment notBlank role
  cases longest : lexicon.compoundAt? (c :: rest) with
  | some operator =>
    obtain ⟨rfl, rfl⟩ := by simpa [next, notBlank, role, longest, Prod.ext_iff] using taken
    exact .compound notBlank role longest
  | none =>
    have ordinary : Ordinary lexicon c rest := ⟨notBlank, role, longest⟩
    rw [next_of_ordinary ordinary] at taken
    by_cases starts : startsNumber c rest = true
    · by_cases points : 1 < ((c :: rest).takeWhile continuesNumber).count '.'
      · simp [starts, number, points] at taken
      · obtain ⟨rfl, rfl⟩ := by simpa [starts, number, points] using taken
        exact .number ordinary starts (Nat.not_lt.mp points)
    have noNumber : startsNumber c rest = false := by simpa using starts
    cases quote : lexicon.quote? c with
    | some kind =>
      cases found : splitAtDelimiter? c rest with
      | none => simp [noNumber, quote, quoted, found] at taken
      | some split =>
        obtain ⟨content, remaining⟩ := split
        obtain ⟨rfl, rfl⟩ := by simpa [noNumber, quote, quoted, found] using taken
        obtain ⟨free, rfl⟩ := splitAtDelimiter?_eq_some_iff.mp found
        exact .quoted ordinary noNumber quote free
    | none =>
      have unquoted : Unquoted lexicon c rest := { ordinary with noNumber, notQuote := quote }
      simp only [noNumber, quote] at taken
      cases punct : lexicon.punctuation? c with
      | some kind =>
        obtain ⟨rfl, rfl⟩ := by simpa [punct, Prod.ext_iff] using taken
        exact .punctuation unquoted punct
      | none =>
        by_cases letter : Unicode.isXidStart c = true
        · obtain ⟨rfl, rfl⟩ := by simpa [punct, letter, Prod.ext_iff] using taken
          exact .word unquoted punct letter
        · obtain ⟨rfl, rfl⟩ := by simpa [punct, letter, Prod.ext_iff] using taken
          exact .unknown unquoted punct (by simpa using letter)

/-- What one of the rules takes, a step takes: the rules exclude each other. -/
theorem next_of_taken {c : Char} {rest after : List Char} {segment : Segment}
    (taken : Taken lexicon (c :: rest) segment after) :
    next lexicon c rest = .ok (segment, after) := by
  cases taken with
  | blank blank => simp [next, blank]
  | comment notBlank role => simp [next, notBlank, role]
  | compound notBlank notComment longest => simp [next, notBlank, notComment, longest]
  | number ordinary starts points =>
    have few : ¬ 1 < ((c :: rest).takeWhile continuesNumber).count '.' := Nat.not_lt.mpr points
    rw [next_of_ordinary ordinary, if_pos starts, number, if_neg few]
  | @quoted _ content after kind ordinary noNumber role free =>
    have split : splitAtDelimiter? c (content ++ c :: after) = some (content, after) :=
      splitAtDelimiter?_eq_some_iff.mpr ⟨free, rfl⟩
    simp [next_of_ordinary ordinary, noNumber, role, quoted, split]
  | punctuation unquoted role =>
    simp [next_of_ordinary unquoted.toOrdinary, unquoted.noNumber, unquoted.notQuote, role]
  | word unquoted noRole letter =>
    simp [next_of_ordinary unquoted.toOrdinary, unquoted.noNumber, unquoted.notQuote, noRole,
      letter]
  | unknown unquoted noRole noLetter =>
    simp [next_of_ordinary unquoted.toOrdinary, unquoted.noNumber, unquoted.notQuote, noRole,
      noLetter]

end Kite.Segment
