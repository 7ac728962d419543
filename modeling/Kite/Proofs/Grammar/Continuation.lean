import Kite.Proofs.Grammar.Lookahead

/-!
# Programs that go on behind a semicolon

A semicolon ends a program in the same way as the end of the input does: it either ends the
last statement or is an empty statement of its own (`Repeats.resume`). Behind it the parser
stands where it would stand before the remaining tokens alone, with all nesting levels
free, so the program of the whole is the one program followed by the other one
(`parseTokens_append`).
-/

set_option autoImplicit false

namespace Kite

namespace Parse

variable {before after cursor : Cursor}

section Statements

variable {level : Level} {primary : List Token → Expression → Prop}
  {scope : List Token → List Statement → Prop} {semicolon : Token} {other behind : Cursor}

/-- The end of the input and a semicolon are alike for what ends there. -/
theorem endsAlike_of_passes (kind : semicolon.kind = .semicolon)
    (passes : other.Passes (cursor.rest ++ [semicolon]) behind) :
    (cursor.kindAt 0).EndsAlike (other.kindAt 0) := by
  obtain ⟨rest, stop⟩ := cursor
  cases rest with
  | nil =>
    refine .inr ⟨rfl, ?_⟩
    rw [passes.kindAt_zero, kind]
    rfl
  | cons token rest => exact .inl passes.kindAt_zero.symm

/-- A semicolon behind the input is taken where the input ends without one. -/
theorem accept_resume (kind : semicolon.kind = .semicolon) {accepted : Bool}
    (done : (accept .semicolon).run before = .ok accepted cursor)
    (passes : other.Passes (before.rest ++ [semicolon]) behind) :
    ∃ resumed seam, (accept .semicolon).run other = .ok resumed seam ∧
      (cursor.rest = [] ∧ seam = behind ∨ seam.Passes (cursor.rest ++ [semicolon]) behind) := by
  rw [accept_run] at done
  split at done
  next own =>
    obtain ⟨-, rfl⟩ := EStateM.Result.ok.inj done
    obtain ⟨shown, first⟩ := Cursor.exists_of_kindAt own (by simp)
    rw [shown.rest] at passes
    refine ⟨true, other.next, ?_, .inr passes.next⟩
    rw [accept_run, if_pos (passes.kindAt_zero.trans first)]
  next missing =>
    obtain ⟨-, rfl⟩ := EStateM.Result.ok.inj done
    cases left : before.rest with
    | nil =>
      rw [left] at passes
      refine ⟨true, other.next, ?_, .inl ⟨rfl, passes.next.eq_of_nil⟩⟩
      rw [accept_run, if_pos (passes.kindAt_zero.trans kind)]
    | cons token rest =>
      rw [left] at passes
      have unseen : other.kindAt 0 ≠ .semicolon := by
        rw [passes.kindAt_zero]
        simpa [Cursor.kindAt, left] using missing
      refine ⟨false, other, ?_, .inr passes⟩
      rw [accept_run, if_neg unseen]

/-- A statement is read in the same way if its input goes on with a semicolon, but at the end of
its input it takes the semicolon. -/
theorem statement_resume (reads : level.Reads primary scope) (settles : level.Settles)
    (kind : semicolon.kind = .semicolon) {value : Option Statement}
    (done : (statement level).run before = .ok value cursor)
    (passes : other.Passes (before.rest ++ [semicolon]) behind) :
    ∃ seam, (statement level).run other = .ok value seam ∧
      (cursor.rest = [] ∧ seam = behind ∨ seam.Passes (cursor.rest ++ [semicolon]) behind) := by
  rw [statement_run] at done
  split at done
  next empty =>
    obtain ⟨rfl, rfl⟩ := EStateM.Result.ok.inj done
    obtain ⟨shown, first⟩ := Cursor.exists_of_kindAt empty (by simp)
    rw [shown.rest] at passes
    refine ⟨other.next, ?_, .inr passes.next⟩
    rw [statement_run, if_pos (passes.kindAt_zero.trans first)]
  next foreign =>
    obtain ⟨bare, middle, answered, rest⟩ := bind_eq_ok_iff.mp done
    obtain ⟨_, accepted, rfl⟩ := map_eq_ok_iff.mp rest
    obtain ⟨tokens, length, passesBare, again⟩ :=
      settles_bareStatement reads settles bare middle answered
    rw [passesBare.rest, List.append_assoc] at passes
    obtain ⟨ending, left, right⟩ := passes.split
    have same : other.kindAt 0 = before.kindAt 0 := by
      rw [left.kindAt_of_lt length, passesBare.kindAt_of_lt length]
    have repeated := again other ending left (endsAlike_of_passes kind right)
    obtain ⟨resumed, seam, acceptedAgain, split⟩ := accept_resume kind accepted right
    refine ⟨seam, ?_, split⟩
    rw [statement_run, if_neg (same ▸ foreign), bind_of_ok repeated, bind_of_ok acceptedAgain]
    rfl

/-- The end of the input ends the rounds. -/
theorem Repeats.eq_of_rest_eq_nil {values : List (Option Statement)}
    (rounds : Repeats (statementUnless level inputEnds) before values after)
    (ended : before.rest = []) : values = [] ∧ before = after := by
  cases rounds with
  | done => exact ⟨rfl, rfl⟩
  | round answered _ =>
    obtain ⟨ahead, -⟩ := statementUnless_inputEnds_eq_some_iff.mp answered
    simp [Cursor.kindAt, ended] at ahead

/-- Rounds that read an input to its end read it in the same way, and a semicolon behind it as
well, if more input follows. -/
theorem Repeats.resume (reads : level.Reads primary scope) (settles : level.Settles)
    (kind : semicolon.kind = .semicolon) {values : List (Option Statement)}
    (rounds : Repeats (statementUnless level inputEnds) before values after)
    (ended : after.rest = [])
    (passes : other.Passes (before.rest ++ [semicolon]) behind) :
    ∃ resumed, Repeats (statementUnless level inputEnds) other resumed behind ∧
      resumed.filterMap id = values.filterMap id := by
  induction rounds generalizing other with
  | done cursor =>
    rw [ended] at passes
    have seen := passes.kindAt_zero.trans kind
    have empty : (statement level).run other = .ok none behind := by
      rw [statement_run, if_pos seen, passes.next.eq_of_nil]
    have round := statementUnless_inputEnds_eq_some_iff.mpr ⟨by simp [seen], empty⟩
    exact ⟨[none], .round round (.done behind), rfl⟩
  | @round before cursor after value values answered others ih =>
    obtain ⟨ahead, done⟩ := statementUnless_inputEnds_eq_some_iff.mp answered
    obtain ⟨seam, resumed, split⟩ := statement_resume reads settles kind done passes
    have aheadOther : other.kindAt 0 ≠ .endOfInput := by
      obtain ⟨shown, first⟩ := Cursor.exists_of_kindAt rfl ahead
      rw [shown.rest] at passes
      rw [passes.kindAt_zero, first]
      exact ahead
    have round := statementUnless_inputEnds_eq_some_iff.mpr ⟨aheadOther, resumed⟩
    rcases split with ⟨finished, rfl⟩ | onward
    · obtain ⟨rfl, -⟩ := others.eq_of_rest_eq_nil finished
      exact ⟨[value], .round round (.done seam), rfl⟩
    · obtain ⟨found, rounds, same⟩ := ih ended onward
      refine ⟨value :: found, .round round rounds, ?_⟩
      rw [List.filterMap_cons, List.filterMap_cons, same]

/-- A program is read by rounds of statements that lead to the end of the input. -/
theorem program_eq_ok_iff (reads : level.Reads primary scope) {statements : List Statement} :
    (Parse.program level).run before = .ok (statements ++ [.endOfInput]) after ↔
      ∃ values, Repeats (statementUnless level inputEnds) before values after ∧
        after.kindAt 0 = .endOfInput ∧ values.filterMap id = statements := by
  have progresses := progresses_statementUnless reads peeks_inputEnds
  rw [program_eq_statementsUntil, statementsUntil_eq_many]
  constructor
  · intro done
    obtain ⟨found, answered, same⟩ := map_eq_ok_iff.mp done
    obtain rfl := List.append_cancel_right same
    obtain ⟨values, repeated, rfl⟩ := map_eq_ok_iff.mp answered
    obtain ⟨stopped, rounds, last⟩ := (many_eq_ok_iff progresses).mp repeated
    obtain ⟨rfl, held⟩ := statementUnless_eq_none peeks_inputEnds last
    exact ⟨values, rounds, by simpa [inputEnds_run] using held, rfl⟩
  · rintro ⟨values, rounds, ended, rfl⟩
    have last : (statementUnless level inputEnds).run after = .ok none after := by
      rw [statementUnless, bind_of_ok inputEnds_run, decide_eq_true ended]
      rfl
    have repeated : (many (statementUnless level inputEnds)).run before = .ok values after :=
      (many_eq_ok_iff progresses).mpr ⟨after, rounds, last⟩
    rw [bind_assoc, bind_of_ok repeated]
    rfl

/-- A program goes on behind a semicolon with the program of the input that follows. -/
theorem program_resume (reads : level.Reads primary scope) (settles : level.Settles)
    (kind : semicolon.kind = .semicolon) {statements : List Statement}
    (done : (Parse.program level).run before = .ok (statements ++ [.endOfInput]) after)
    (ended : after.rest = []) (passes : other.Passes (before.rest ++ [semicolon]) behind) :
    (Parse.program level).run other =
      (Parse.program level >>= fun others => pure (statements ++ others)).run behind := by
  have progresses := progresses_statementUnless reads peeks_inputEnds
  obtain ⟨values, rounds, -, rfl⟩ := (program_eq_ok_iff reads).mp done
  obtain ⟨resumed, onward, same⟩ := rounds.resume reads settles kind ended passes
  rw [program_eq_statementsUntil, statementsUntil_eq_many]
  simp only [bind_assoc, pure_bind]
  rw [EStateM.run_bind, onward.many_run progresses]
  simp only [EStateM.run_bind]
  cases (many (statementUnless level inputEnds)).run behind with
  | error error cursor => rfl
  | ok others cursor =>
    simp only [EStateM.run_pure, List.filterMap_append, same, List.append_assoc]

end Statements

end Parse

/-- A program ends with the end of the input. -/
theorem exists_statements_of_parseTokens {tokens : List Token} {program : List Statement}
    (parsed : parseTokens tokens = .ok program) :
    ∃ statements, program = statements ++ [.endOfInput] := by
  obtain ⟨after, done⟩ := program_of_parseTokens parsed
  obtain ⟨-, statements, -, -, -, same⟩ :=
    Parse.program_eq_ok (Level.reads_derivations nestingLimit) done
  exact ⟨statements, same⟩

theorem parseTokens_of_ok {tokens : List Token} {program : List Statement} {after : Cursor}
    (done : (Parse.program (Level.within nestingLimit)).run (Cursor.ofTokens tokens) =
      .ok program after) : parseTokens tokens = .ok program := by
  rw [EStateM.run] at done
  rw [parseTokens, done]

theorem parseTokens_of_error {tokens : List Token} {error : GrammarError} {after : Cursor}
    (failed : (Parse.program (Level.within nestingLimit)).run (Cursor.ofTokens tokens) =
      .error error after) : parseTokens tokens = .error error := by
  rw [EStateM.run] at failed
  rw [parseTokens, failed]

/-- A program goes on behind a semicolon with the program of the tokens that follow, or fails as
that one does. -/
theorem parseTokens_append {first second : List Token} {stop semicolon finish : Token}
    (plain : ∀ token ∈ first, token.kind ≠ .endOfInput) (stops : stop.kind = .endOfInput)
    (kind : semicolon.kind = .semicolon)
    (plainSecond : ∀ token ∈ second, token.kind ≠ .endOfInput)
    (finishes : finish.kind = .endOfInput) {statements : List Statement}
    (parsed : parseTokens (first ++ [stop]) = .ok (statements ++ [.endOfInput])) :
    parseTokens (first ++ semicolon :: (second ++ [finish])) =
      (parseTokens (second ++ [finish])).map (statements ++ ·) := by
  obtain ⟨after, done⟩ := program_of_parseTokens parsed
  have reads := Level.reads_derivations nestingLimit
  have ended := Parse.rest_eq_nil_of_program done
  have plainWhole : ∀ token ∈ first ++ semicolon :: second, token.kind ≠ .endOfInput := by
    simp only [List.mem_append, List.mem_cons]
    rintro token (member | rfl | member)
    · exact plain token member
    · simp [kind]
    · exact plainSecond token member
  have passes : (Cursor.ofTokens (first ++ semicolon :: (second ++ [finish]))).Passes
      ((Cursor.ofTokens (first ++ [stop])).rest ++ [semicolon])
      (Cursor.ofTokens (second ++ [finish])) := by
    have whole : first ++ semicolon :: (second ++ [finish]) =
        (first ++ semicolon :: second) ++ [finish] := by simp
    rw [whole, Cursor.ofTokens_of_end plainWhole finishes, Cursor.ofTokens_of_end plain stops,
      Cursor.ofTokens_of_end plainSecond finishes]
    exact ⟨by simp [List.filter_append, kind], rfl⟩
  have resumed :=
    Parse.program_resume reads (Level.settles_within nestingLimit) kind done ended passes
  cases result : (Parse.program (Level.within nestingLimit)).run
      (Cursor.ofTokens (second ++ [finish])) with
  | ok others cursor =>
    rw [Parse.bind_of_ok result] at resumed
    rw [parseTokens_of_ok resumed, parseTokens_of_ok result]
    rfl
  | error error cursor =>
    rw [Parse.bind_of_error result] at resumed
    rw [parseTokens_of_error resumed, parseTokens_of_error result]
    rfl

end Kite
