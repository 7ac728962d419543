import Kite.Proofs.Scanning.Taken
import Kite.Proofs.Scanning.Vocabulary

/-!
# A run of the scanner

`Scan.Run` chains the steps of the scanner from a text to the text that remains. A scan
without a failure is a run to the end of the text (`run_ofText`), the segments of a run
cover what was passed (`Run.source_append`), and a property of single steps holds of all
segments of a run (`Run.forall_mem`). Under a legible lexicon the pieces of a run spell
the text that they cover; under others all do but those that report a hyphen for another
character (`Segment.Taken.spelled_or_reportsHyphen`).
-/

set_option autoImplicit false

namespace Kite

variable {lexicon : Lexicon}

namespace Segment

/-- The compound operator that stands at the beginning of a text is a beginning of it. -/
theorem append_of_compoundAt? {text : List Char} {operator : String}
    (longest : lexicon.compoundAt? text = some operator) :
    operator.toList ++ text.drop operator.length = text := by
  have found : operator.toList <+: text := by
    simpa using List.find?_some longest
  obtain ⟨rest, rfl⟩ := found
  simp [← String.length_toList]

theorem Taken.source_append {text after : List Char} {segment : Segment}
    (taken : Taken lexicon text segment after) : segment.source ++ after = text := by
  cases taken with
  | blank blank => rfl
  | comment notBlank role => exact List.takeWhile_append_dropWhile
  | compound notBlank notComment longest => exact append_of_compoundAt? longest
  | number ordinary starts points => exact List.takeWhile_append_dropWhile
  | quoted ordinary noNumber role free => simp [source]
  | punctuation unquoted role =>
    unfold Segment.punctuation
    split
    · split <;> rfl
    · rfl
  | word unquoted noRole letter => exact List.takeWhile_append_dropWhile
  | unknown unquoted noRole noLetter => rfl

end Segment

/-- A piece that spells the text that it covers, and covers some. -/
structure Piece.Spelled (piece : Piece) : Prop where
  lexeme : piece.lexeme.toList = piece.source
  nonempty : piece.source ≠ []

theorem Piece.Spelled.lexeme_eq {piece : Piece} (spelled : piece.Spelled) :
    piece.lexeme = String.ofList piece.source := by
  rw [← spelled.lexeme, String.ofList_toList]

theorem Piece.Spelled.lexeme_ne_empty {piece : Piece} (spelled : piece.Spelled) :
    piece.lexeme ≠ "" := by
  intro empty
  apply spelled.nonempty
  simp [← spelled.lexeme, empty]

theorem Piece.spelled_of_ne_nil {kind : Kind} {source : List Char} {closed : Option Bool}
    {internal : Bool} (nonempty : source ≠ []) :
    Piece.Spelled { kind, source, closed, internal } :=
  ⟨String.toList_ofList, nonempty⟩

/-- A piece that reports a hyphen, or an arrow that begins with one, for some character with the
role of the hyphen. -/
def Piece.ReportsHyphen (lexicon : Lexicon) (piece : Piece) : Prop :=
  ∃ c, lexicon.punctuation? c = some .hyphen ∧
    (piece.source = [c] ∧ piece.lexeme = "-" ∨ piece.source = [c, '>'] ∧ piece.lexeme = "->")

namespace Segment

/-- The pieces that may lie between two delimiters. -/
inductive ContentPiece (lexicon : Lexicon) (delimiter : Char) : Piece → Prop where
  | run {text : List Char} (nonempty : text ≠ []) :
      ContentPiece lexicon delimiter { kind := .unknown, source := text, internal := true }
  | escape (c : Char) :
      ContentPiece lexicon delimiter { kind := .escape, source := ['\\', c], internal := true }
  | blank {c : Char} (blank : lexicon.isBlank c = true) :
      ContentPiece lexicon delimiter { kind := .whitespace, source := [c], internal := true }
  | quote {c : Char} {kind : Kind} (notDelimiter : c ≠ delimiter)
      (role : lexicon.quote? c = some kind) :
      ContentPiece lexicon delimiter { kind := kind, source := [c], internal := true }

theorem contentPiece_of_mem_runPieces {delimiter : Char} {run : List Char} {piece : Piece}
    (member : piece ∈ runPieces run) : ContentPiece lexicon delimiter piece := by
  unfold runPieces at member
  split at member
  · simp at member
  · next nonempty =>
    obtain rfl := List.mem_singleton.mp member
    exact .run (by simpa using nonempty)

/-- The content of a literal falls into runs, escapes, blanks and foreign quote characters. -/
theorem contentPiece_of_mem {delimiter : Char} {run content : List Char} {piece : Piece}
    (free : Content delimiter content) (member : piece ∈ contentPieces lexicon run content) :
    ContentPiece lexicon delimiter piece := by
  induction free generalizing run with
  | nil => exact contentPiece_of_mem_runPieces member
  | @escape c rest notDelimiter _ ih =>
    rw [contentPieces, List.mem_append, List.mem_cons] at member
    rcases member with before | rfl | later
    · exact contentPiece_of_mem_runPieces before
    · exact .escape c
    · exact ih later
  | @plain c rest notDelimiter notEscape _ ih =>
    rw [contentPieces.eq_3 _ _ _ _ fun _ _ escape _ => notEscape escape] at member
    split at member
    · next blank =>
      rw [List.mem_append, List.mem_cons] at member
      rcases member with before | rfl | later
      · exact contentPiece_of_mem_runPieces before
      · exact .blank blank
      · exact ih later
    · split at member
      · next kind role =>
        rw [List.mem_append, List.mem_cons] at member
        rcases member with before | rfl | later
        · exact contentPiece_of_mem_runPieces before
        · exact .quote notDelimiter role
        · exact ih later
      · exact ih member

theorem ContentPiece.spelled {delimiter : Char} {piece : Piece}
    (inside : ContentPiece lexicon delimiter piece) : piece.Spelled := by
  cases inside with
  | run nonempty => exact Piece.spelled_of_ne_nil nonempty
  | escape c => exact Piece.spelled_of_ne_nil (by simp)
  | blank blank => exact Piece.spelled_of_ne_nil (by simp)
  | quote notDelimiter role => exact Piece.spelled_of_ne_nil (by simp)

theorem ContentPiece.internal {delimiter : Char} {piece : Piece}
    (inside : ContentPiece lexicon delimiter piece) : piece.internal = true := by
  cases inside <;> rfl

/-- A step takes pieces that spell what they cover, but for hyphens and arrows, which are spelled
alike whatever character makes them. -/
theorem Taken.spelled_or_reportsHyphen {text after : List Char} {segment : Segment} {piece : Piece}
    (newline : lexicon.isBlank '\n' = false → lexicon.punctuation? '\n' ≠ some .comment)
    (named : "" ∉ lexicon.compounds) (taken : Taken lexicon text segment after)
    (member : piece ∈ segment.pieces lexicon) :
    piece.Spelled ∨ piece.ReportsHyphen lexicon := by
  cases taken with
  | blank blank =>
    obtain rfl := List.mem_singleton.mp member
    exact .inl (Piece.spelled_of_ne_nil (by simp))
  | @comment c rest notBlank role =>
    obtain rfl := List.mem_singleton.mp member
    have notNewline : c ≠ '\n' := by
      rintro rfl
      exact newline notBlank role
    exact .inl (Piece.spelled_of_ne_nil (by simp [notNewline]))
  | @compound c rest operator notBlank notComment longest =>
    obtain rfl := List.mem_singleton.mp member
    have listed : operator ∈ lexicon.compounds := List.mem_of_find?_eq_some longest
    have nonempty : operator ≠ "" := fun empty => named (empty ▸ listed)
    exact .inl (Piece.spelled_of_ne_nil (by simpa using nonempty))
  | @number c rest ordinary starts points =>
    obtain rfl := List.mem_singleton.mp member
    have continues := continuesNumber_of_startsNumber starts
    exact .inl (Piece.spelled_of_ne_nil (by simp [continues]))
  | quoted ordinary noNumber role free =>
    simp only [pieces, List.mem_append, List.mem_cons, List.not_mem_nil, or_false] at member
    rcases member with (rfl | inside) | rfl
    · exact .inl (Piece.spelled_of_ne_nil (by simp))
    · exact .inl (contentPiece_of_mem free inside).spelled
    · exact .inl (Piece.spelled_of_ne_nil (by simp))
  | @punctuation c rest kind unquoted role =>
    unfold Segment.punctuation at member
    split at member
    · next hyphen =>
      subst hyphen
      split at member
      · obtain rfl := List.mem_singleton.mp member
        exact .inr ⟨c, role, .inr ⟨rfl, rfl⟩⟩
      · obtain rfl := List.mem_singleton.mp member
        exact .inr ⟨c, role, .inl ⟨rfl, rfl⟩⟩
    · obtain rfl := List.mem_singleton.mp member
      exact .inl (Piece.spelled_of_ne_nil (by simp))
  | @word c rest unquoted noRole letter =>
    obtain rfl := List.mem_singleton.mp member
    exact .inl (Piece.spelled_of_ne_nil (by simp [continuesWord, letter]))
  | unknown unquoted noRole noLetter =>
    obtain rfl := List.mem_singleton.mp member
    exact .inl (Piece.spelled_of_ne_nil (by simp))

/-- Under a legible lexicon a step takes pieces that spell what they cover. -/
theorem Taken.spelled {text after : List Char} {segment : Segment} {piece : Piece}
    (legible : lexicon.Legible) (taken : Taken lexicon text segment after)
    (member : piece ∈ segment.pieces lexicon) : piece.Spelled := by
  have newline : lexicon.punctuation? '\n' ≠ some .comment :=
    fun role => legible.comment '\n' role rfl
  rcases taken.spelled_or_reportsHyphen (fun _ => newline) legible.compound member with
    spelled | ⟨c, role, shape⟩
  · exact spelled
  · -- the lexeme is fixed, so it is the text only because the text is a hyphen
    obtain rfl : c = '-' := legible.hyphen c role
    rcases shape with ⟨source, lexeme⟩ | ⟨source, lexeme⟩
    · exact ⟨by simp [source, lexeme], by simp [source]⟩
    · exact ⟨by simp [source, lexeme], by simp [source]⟩

end Segment

namespace Scan

/-- `Run lexicon text segments rest` says that steps from the beginning of `text` take `segments`
and leave `rest`. -/
inductive Run (lexicon : Lexicon) : List Char → List Segment → List Char → Prop where
  | done (text : List Char) : Run lexicon text [] text
  | step {text middle rest : List Char} {segment : Segment} {segments : List Segment}
      (taken : Segment.Taken lexicon text segment middle) (run : Run lexicon middle segments rest) :
      Run lexicon text (segment :: segments) rest

theorem run_ofTextWithin {rounds : Nat} {text : List Char}
    (finished : (ofTextWithin lexicon rounds text).failure = none) :
    Run lexicon text (ofTextWithin lexicon rounds text).segments [] := by
  fun_induction ofTextWithin lexicon rounds text with
  | case1 => exact .done []
  | case2 => simp at finished
  | case3 rounds c rest cause failed => simp at finished
  | case4 rounds c rest segment after taken ih =>
    exact .step (Segment.taken_of_next taken) (ih finished)

/-- A scan without a failure runs to the end of the text. -/
theorem run_ofText {text : List Char} (finished : (ofText lexicon text).failure = none) :
    Run lexicon text (ofText lexicon text).segments [] :=
  run_ofTextWithin finished

/-- The segments of a run cover the text that the run passes. -/
theorem Run.source_append {text rest : List Char} {segments : List Segment}
    (run : Run lexicon text segments rest) : segments.flatMap Segment.source ++ rest = text := by
  induction run with
  | done text => rfl
  | step taken _ ih => rw [List.flatMap_cons, List.append_assoc, ih, taken.source_append]

theorem Run.source_pieces_append {text rest : List Char} {segments : List Segment}
    (run : Run lexicon text segments rest) :
    (segments.flatMap (Segment.pieces lexicon)).flatMap Piece.source ++ rest = text := by
  have covered : (segments.flatMap (Segment.pieces lexicon)).flatMap Piece.source =
      segments.flatMap Segment.source := by
    rw [List.flatMap_assoc]
    simp only [Segment.flatMap_source_pieces]
  rw [covered, run.source_append]

/-- What holds of every segment that a step takes holds of all segments of a run. -/
theorem Run.forall_mem {P : Segment → Prop} {text rest : List Char} {segments : List Segment}
    (run : Run lexicon text segments rest)
    (single : ∀ {text segment after}, Segment.Taken lexicon text segment after → P segment) :
    ∀ segment ∈ segments, P segment := by
  induction run with
  | done text => simp
  | step taken _ ih => exact List.forall_mem_cons.mpr ⟨single taken, ih⟩

theorem Run.spelled {text rest : List Char} {segments : List Segment} (legible : lexicon.Legible)
    (run : Run lexicon text segments rest) :
    ∀ piece ∈ segments.flatMap (Segment.pieces lexicon), piece.Spelled := by
  intro piece member
  obtain ⟨segment, listed, inside⟩ := List.mem_flatMap.mp member
  have spelled : ∀ segment ∈ segments, ∀ piece ∈ segment.pieces lexicon, piece.Spelled :=
    run.forall_mem fun taken _ member => taken.spelled legible member
  exact spelled segment listed piece inside

end Scan

end Kite
