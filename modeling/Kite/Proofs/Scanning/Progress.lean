import Kite.Proofs.Scanning.Run
import Kite.Stream.Raw

/-!
# Progress of the scanner

A step takes at least one character, with one exception. A comment ends before the next
newline, so a lexicon that lets a newline begin a comment, and does not list it as blank,
has a comment without text: the step leaves the text as it was, and the scanner never gets
past it (`Lexicon.StallsAtNewline`). By `finishes_iff` every other lexicon that entries
can build makes progress in every step and finishes every text.
-/

set_option autoImplicit false

namespace Kite

namespace Lexicon

/-- A lexicon that is made of the empty or of the standard one by adding entries. -/
inductive Built : Lexicon → Prop where
  | empty : Built empty
  | standard : Built standard
  | add {lexicon : Lexicon} (built : Built lexicon) (entry : Entry) : Built (lexicon.add entry)

theorem Built.extend {lexicon : Lexicon} (built : lexicon.Built) (entries : List Entry) :
    (lexicon.extend entries).Built :=
  extend_preserves built fun _ entry _ built => built.add entry

theorem Built.empty_not_mem_compounds {lexicon : Lexicon} (built : lexicon.Built) :
    "" ∉ lexicon.compounds := by
  induction built with
  | empty => exact List.not_mem_nil
  | standard => exact legible_standard.compound
  | add _ entry ih => exact empty_not_mem_compounds_add entry ih

/-- A newline begins a comment, and the comment ends before it. -/
def StallsAtNewline (lexicon : Lexicon) : Prop :=
  lexicon.isBlank '\n' = false ∧ lexicon.punctuation? '\n' = some .comment

theorem isBlank_add {lexicon : Lexicon} {c : Char} (blank : lexicon.isBlank c = true)
    (entry : Entry) : (lexicon.add entry).isBlank c = true := by
  cases entry with
  | blank d =>
    have listed : c ∈ lexicon.blanks := by simpa [isBlank] using blank
    simp [add, isBlank, listed]
  | compound text =>
    rw [add_compound]
    exact blank
  | word _ _ | punctuation _ _ | quote _ _ | symbol _ => exact blank

/-- The newline stays blank in every extension of the standard lexicon. -/
theorem not_stallsAtNewline_extend_standard (entries : List Entry) :
    ¬ (standard.extend entries).StallsAtNewline := by
  have blank : (standard.extend entries).isBlank '\n' = true :=
    extend_preserves (P := fun lexicon => lexicon.isBlank '\n' = true) (by decide)
      fun _ entry _ blank => isBlank_add blank entry
  rintro ⟨notBlank, -⟩
  simp [blank] at notBlank

theorem not_stallsAtNewline_standard : ¬ standard.StallsAtNewline :=
  not_stallsAtNewline_extend_standard []

end Lexicon

variable {lexicon : Lexicon}

/-! ## One step -/

namespace Segment

/-- A comment that a newline begins takes nothing. -/
theorem next_newline_of_stalls (stalls : lexicon.StallsAtNewline) (rest : List Char) :
    next lexicon '\n' rest = .ok (.plain { kind := .comment, source := [] }, '\n' :: rest) := by
  simp [next, stalls.1, stalls.2, comment]

/-- Every other step takes some text. -/
theorem Taken.source_ne_nil (moves : ¬ lexicon.StallsAtNewline) (named : "" ∉ lexicon.compounds)
    {text after : List Char} {segment : Segment} (taken : Taken lexicon text segment after) :
    segment.source ≠ [] := by
  cases taken with
  | blank blank => simp [source]
  | @comment c rest notBlank role =>
    have notNewline : c ≠ '\n' := by
      rintro rfl
      exact moves ⟨notBlank, role⟩
    simp [source, Segment.comment, notNewline]
  | @compound c rest operator notBlank notComment longest =>
    have listed : operator ∈ lexicon.compounds := List.mem_of_find?_eq_some longest
    have nonempty : operator ≠ "" := fun empty => named (empty ▸ listed)
    simpa [source, Segment.compound] using nonempty
  | @number c rest ordinary starts points =>
    have continues := continuesNumber_of_startsNumber starts
    simp [source, continues]
  | quoted ordinary noNumber role free => simp [source]
  | punctuation unquoted role =>
    unfold Segment.punctuation
    split
    · split <;> simp [source]
    · simp [source]
  | word unquoted noRole letter => simp [source, Segment.word, continuesWord, letter]
  | unknown unquoted noRole noLetter => simp [source, Segment.unknown]

theorem Taken.length_lt (moves : ¬ lexicon.StallsAtNewline) (named : "" ∉ lexicon.compounds)
    {text after : List Char} {segment : Segment} (taken : Taken lexicon text segment after) :
    after.length < text.length := by
  have covered : segment.source.length + after.length = text.length := by
    rw [← List.length_append, taken.source_append]
  have some : 0 < segment.source.length :=
    List.length_pos_iff.mpr (taken.source_ne_nil moves named)
  omega

/-- A step fails because of the text only. -/
theorem next_ne_noProgress (c : Char) (rest : List Char) :
    next lexicon c rest ≠ .error .noProgress := by
  unfold next number quoted
  grind

end Segment

/-! ## Whole texts -/

namespace Scan

/-- The scanner comes to the end of the text or to a token that it cannot finish, after however
many steps. -/
inductive Stops (lexicon : Lexicon) : List Char → Prop where
  | done : Stops lexicon []
  | refused {c : Char} {rest : List Char} {cause : LexicalError.Cause}
      (failed : Segment.next lexicon c rest = .error cause) : Stops lexicon (c :: rest)
  | step {c : Char} {rest after : List Char} {segment : Segment}
      (taken : Segment.next lexicon c rest = .ok (segment, after)) (onward : Stops lexicon after) :
      Stops lexicon (c :: rest)

section Moving

variable (moves : ¬ lexicon.StallsAtNewline) (named : "" ∉ lexicon.compounds)

include moves named

theorem stops (text : List Char) : Stops lexicon text := by
  -- every step leaves a shorter text
  induction length : text.length using Nat.strongRecOn generalizing text with
  | ind length ih =>
    subst length
    cases text with
    | nil => exact .done
    | cons c rest =>
      cases result : Segment.next lexicon c rest with
      | error cause => exact .refused result
      | ok taken =>
        obtain ⟨segment, after⟩ := taken
        have shorter := (Segment.taken_of_next result).length_lt moves named
        exact .step result (ih _ shorter after rfl)

theorem ofTextWithin_eq_of_le {rounds others : Nat} {text : List Char}
    (enough : text.length ≤ rounds) (enoughOthers : text.length ≤ others) :
    ofTextWithin lexicon rounds text = ofTextWithin lexicon others text := by
  induction rounds generalizing others text with
  | zero =>
    obtain rfl : text = [] := List.length_eq_zero_iff.mp (by omega)
    cases others <;> rfl
  | succ rounds ih =>
    cases text with
    | nil => cases others <;> rfl
    | cons c rest =>
      cases others with
      | zero => simp at enoughOthers
      | succ others =>
        rw [ofTextWithin, ofTextWithin]
        cases result : Segment.next lexicon c rest with
        | error cause => rfl
        | ok taken =>
          obtain ⟨segment, after⟩ := taken
          have shorter := (Segment.taken_of_next result).length_lt moves named
          simp only [List.length_cons] at enough enoughOthers shorter
          have same : ofTextWithin lexicon rounds after = ofTextWithin lexicon others after :=
            ih (by omega) (by omega)
          simp only [same]

/-- A scan is its first segment and the scan of the text after it. -/
theorem ofText_of_taken {text after : List Char} {segment : Segment}
    (taken : Segment.Taken lexicon text segment after) :
    ofText lexicon text = (ofText lexicon after).cons segment := by
  have shorter := taken.length_lt moves named
  cases text with
  | nil => simp at shorter
  | cons c rest =>
    have same : ofTextWithin lexicon rest.length after = ofTextWithin lexicon after.length after :=
      ofTextWithin_eq_of_le moves named (by simpa using Nat.le_of_lt_succ shorter) (Nat.le_refl _)
    simp only [ofText, List.length_cons, ofTextWithin, Segment.next_of_taken taken, same]

/-- A scan goes on from where a run has led. -/
theorem ofText_of_run {text rest : List Char} {segments : List Segment}
    (run : Run lexicon text segments rest) :
    ofText lexicon text =
      { ofText lexicon rest with segments := segments ++ (ofText lexicon rest).segments } := by
  induction run with
  | done text => rfl
  | step taken _ ih =>
    rw [ofText_of_taken moves named taken, ih]
    rfl

theorem ofText_of_finished {text : List Char} {segments : List Segment}
    (run : Run lexicon text segments []) : ofText lexicon text = ⟨segments, none⟩ := by
  rw [ofText_of_run moves named run]
  simp [ofText, ofTextWithin]

theorem ofText_of_refused {text rest : List Char} {c : Char} {segments : List Segment}
    {cause : LexicalError.Cause} (run : Run lexicon text segments (c :: rest))
    (refused : Segment.next lexicon c rest = .error cause) :
    ofText lexicon text = ⟨segments, some cause⟩ := by
  rw [ofText_of_run moves named run]
  simp [ofText, ofTextWithin, refused]

theorem failure_ne_noProgress (text : List Char) :
    (ofText lexicon text).failure ≠ some .noProgress := by
  have stops := stops moves named text
  induction stops with
  | done => simp [ofText, ofTextWithin]
  | @refused c rest cause failed =>
    have refusal : cause ≠ .noProgress := by
      rintro rfl
      exact Segment.next_ne_noProgress c rest failed
    simpa [ofText, ofTextWithin, failed] using refusal
  | step taken _ ih =>
    rw [ofText_of_taken moves named (Segment.taken_of_next taken)]
    exact ih

end Moving

end Scan

/-- A lexicon that entries can build makes progress in every step, comes to an end on every text
and never gives a text up for lack of progress: all this exactly if it does not let a newline
begin a comment. -/
theorem finishes_iff (built : lexicon.Built) :
    ((∀ c rest segment after, Segment.next lexicon c rest = .ok (segment, after) →
          after.length < (c :: rest).length) ∧
        ∀ text : String, Scan.Stops lexicon text.toList ∧
          ∀ error, tokenize lexicon text = .error error → error.cause ≠ .noProgress) ↔
      ¬ lexicon.StallsAtNewline := by
  have named := built.empty_not_mem_compounds
  constructor
  · rintro ⟨progress, -⟩ stalls
    have shorter := progress _ _ _ _ (Segment.next_newline_of_stalls stalls [])
    exact Nat.lt_irrefl _ shorter
  · intro moves
    refine ⟨?_, fun text => ⟨Scan.stops moves named text.toList, ?_⟩⟩
    · intro c rest segment after taken
      exact (Segment.taken_of_next taken).length_lt moves named
    · intro error refused
      unfold tokenize at refused
      cases failure : (Scan.ofText lexicon text.toList).failure with
      | none => simp [failure] at refused
      | some cause =>
        obtain rfl : { cause, position := _ } = error := by simpa [failure] using refused
        rintro rfl
        exact Scan.failure_ne_noProgress moves named text.toList failure

/-- The standard lexicon with another comment character. -/
theorem finishes_iff_two_comment_characters :
    (Lexicon.standard.extend [.punctuation '%' .comment]).Built ∧
      Scan.Stops (Lexicon.standard.extend [.punctuation '%' .comment]) "%a\n%%".toList := by
  have built := Lexicon.Built.standard.extend [.punctuation '%' .comment]
  have moves := Lexicon.not_stallsAtNewline_extend_standard [.punctuation '%' .comment]
  exact ⟨built, (((finishes_iff built).mpr moves).2 "%a\n%%").1⟩

/-- Under a lexicon in which a newline is no blank and begins a comment, a step at a newline takes
nothing, no number of steps gets past it, and the text is given up. -/
theorem newline_comment_stalls :
    let lexicon := Lexicon.empty.extend [.punctuation '\n' .comment]
    lexicon.Built ∧
      Segment.next lexicon '\n' [] = .ok (.plain { kind := .comment, source := [] }, ['\n']) ∧
      ¬ Scan.Stops lexicon ['\n'] ∧
      tokenize lexicon "\n" = .error { cause := .noProgress, position := .start } := by
  intro lexicon
  have stalls : lexicon.StallsAtNewline := ⟨rfl, rfl⟩
  have stays := Segment.next_newline_of_stalls stalls []
  refine ⟨Lexicon.Built.empty.extend _, stays, ?_, rfl⟩
  intro stops
  generalize text : ['\n'] = newline at stops
  induction stops with
  | done => simp at text
  | refused failed =>
    obtain ⟨rfl, rfl⟩ := List.cons.inj text
    simp [stays] at failed
  | step taken _ ih =>
    obtain ⟨rfl, rfl⟩ := List.cons.inj text
    obtain ⟨-, rfl⟩ := by simpa [stays] using taken
    exact ih rfl

end Kite
