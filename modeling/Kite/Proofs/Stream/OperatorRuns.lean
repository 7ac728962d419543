import Kite.Stream.Operators

/-!
# Runs of operator pieces

What `joinOperators` makes of a token sequence, without regard to where the tokens come
from. A token that is no operator piece ends every run, so the tokens before it and those
after it are joined apart (`joinOperators_append_cons`), and every token of the result
inherits from one of the sequence (`exists_of_mem_joinOperators`).
-/

set_option autoImplicit false

namespace Kite.Stream

variable {lexicon : Lexicon}

@[simp] theorem operatorOfRun_nil : operatorOfRun [] = [] := rfl

@[simp] theorem operatorOfRun_singleton (only : Token) :
    operatorOfRun [only] =
      [{ only with kind := if only.kind = .hyphen then .hyphen else .operator }] := rfl

/-- Several pieces make an operator that stands where the first of them stands and is closed if the
last of them is. -/
theorem operatorOfRun_reverse (first last : Token) (middle : List Token) :
    operatorOfRun (first :: (middle ++ [last])).reverse =
      [{ first with
          kind := .operator
          lexeme := String.join ((first :: (middle ++ [last])).map Token.lexeme)
          closed := last.closed }] := by
  have backwards : (first :: (middle ++ [last])).reverse = last :: (middle.reverse ++ [first]) := by
    simp
  rw [backwards]
  cases earlier : middle.reverse ++ [first] with
  | nil => simp at earlier
  | cons next others =>
    have forwards : (last :: next :: others).reverse = first :: (middle ++ [last]) := by
      rw [← earlier, ← backwards, List.reverse_reverse]
    simp only [operatorOfRun, forwards]

/-- A run makes one operator, which stands where the run begins and has the text of its pieces. -/
theorem exists_operatorOfRun (first : Token) (rest : List Token) :
    ∃ operator, operatorOfRun (first :: rest).reverse = [operator] ∧
      (operator.kind = .operator ∨ operator.kind = .hyphen) ∧
      operator.lexeme = String.join ((first :: rest).map Token.lexeme) ∧
      operator.position = first.position := by
  rcases List.eq_nil_or_concat rest with rfl | ⟨middle, last, rfl⟩
  · refine ⟨_, operatorOfRun_singleton first, ?_, by simp, rfl⟩
    by_cases hyphen : first.kind = .hyphen <;> simp [hyphen]
  · rw [List.concat_eq_append]
    exact ⟨_, operatorOfRun_reverse first last middle, .inl rfl, rfl, rfl⟩

/-- A token that is no operator piece ends the run before it. -/
theorem gatherOperators_append_cons {separator : Token}
    (apart : isOperatorPiece lexicon separator = false) (run before after : List Token) :
    gatherOperators lexicon run (before ++ separator :: after) =
      gatherOperators lexicon run before ++ separator :: gatherOperators lexicon [] after := by
  induction before generalizing run with
  | nil => simp [gatherOperators, apart]
  | cons token before ih =>
    rw [List.cons_append, gatherOperators, gatherOperators]
    split
    · split
      · exact ih (token :: run)
      · rw [ih [token], List.append_assoc]
    · rw [ih [], List.append_assoc, List.cons_append]

theorem joinOperators_append_cons {separator : Token}
    (apart : isOperatorPiece lexicon separator = false) (before after : List Token) :
    joinOperators lexicon (before ++ separator :: after) =
      joinOperators lexicon before ++ separator :: joinOperators lexicon after :=
  gatherOperators_append_cons apart [] before after

theorem joinOperators_cons {separator : Token}
    (apart : isOperatorPiece lexicon separator = false) (after : List Token) :
    joinOperators lexicon (separator :: after) = separator :: joinOperators lexicon after :=
  joinOperators_append_cons apart [] after

/-- A token has the place among literals of another one, and its kind unless it is an operator. -/
structure Inherits (token source : Token) : Prop where
  internal : token.internal = source.internal
  kind : token.kind = source.kind ∨ token.kind = .operator

theorem exists_of_mem_operatorOfRun {run : List Token} {token : Token}
    (member : token ∈ operatorOfRun run) : ∃ source ∈ run, Inherits token source := by
  unfold operatorOfRun at member
  split at member
  · next only =>
    obtain rfl := List.mem_singleton.mp member
    refine ⟨only, List.mem_cons_self, rfl, ?_⟩
    by_cases hyphen : only.kind = .hyphen <;> simp [hyphen]
  · next last rest first others _ backwards =>
    obtain rfl := List.mem_singleton.mp member
    have listed : first ∈ (last :: rest).reverse := by simp [backwards]
    exact ⟨first, List.mem_reverse.mp listed, rfl, .inr rfl⟩
  · simp at member

theorem exists_of_mem_gatherOperators {run tokens : List Token} {token : Token}
    (member : token ∈ gatherOperators lexicon run tokens) :
    ∃ source ∈ run ++ tokens, Inherits token source := by
  induction tokens generalizing run with
  | nil => simpa using exists_of_mem_operatorOfRun (by simpa [gatherOperators] using member)
  | cons next tokens ih =>
    have ofRun : token ∈ operatorOfRun run → ∃ source ∈ run ++ next :: tokens,
        Inherits token source := by
      intro flushed
      obtain ⟨source, listed, inherits⟩ := exists_of_mem_operatorOfRun flushed
      exact ⟨source, List.mem_append_left _ listed, inherits⟩
    have later : ∀ {started : List Token}, (∀ piece ∈ started, piece ∈ next :: run) →
        token ∈ gatherOperators lexicon started tokens →
        ∃ source ∈ run ++ next :: tokens, Inherits token source := by
      intro started known gathered
      obtain ⟨source, listed, inherits⟩ := ih gathered
      have found : source ∈ run ++ next :: tokens := by
        have := known source
        grind
      exact ⟨source, found, inherits⟩
    rw [gatherOperators] at member
    split at member
    · split at member
      · exact later (fun _ piece => piece) member
      · rcases List.mem_append.mp member with flushed | gathered
        · exact ofRun flushed
        · exact later (by simp) gathered
    · rcases List.mem_append.mp member with flushed | kept
      · exact ofRun flushed
      · rcases List.mem_cons.mp kept with rfl | gathered
        · exact ⟨token, by simp, rfl, .inl rfl⟩
        · exact later (by simp) gathered

/-- Every token of the result inherits from one of the tokens that are joined. -/
theorem exists_of_mem_joinOperators {tokens : List Token} {token : Token}
    (member : token ∈ joinOperators lexicon tokens) :
    ∃ source ∈ tokens, Inherits token source := by
  have gathered : token ∈ gatherOperators lexicon [] tokens := member
  exact exists_of_mem_gatherOperators gathered

end Kite.Stream
