import Kite.Proofs.Scanning.Vocabulary
import Mathlib.Data.List.Nodup
import Mathlib.Data.List.Sort

/-!
# The longest compound operator

The compound operators of a lexicon stand in the order of a stable sort: longest first, and
those of one length in the order in which they were first added (`Lexicon.Arranged`). An entry
keeps this order (`Arranged.insert`, `Arranged.known`), so every lexicon that is built from the
empty or the standard one has it (`arranged_extend`). In such a list the first operator that
begins a text is the longest one that does. `compoundAt?_extend` says so for all sequences of
entries: which operator is found depends on the set of the operators only.
-/

set_option autoImplicit false

namespace Kite.Lexicon

/-! ## A stable sort by length -/

/-- The operators that were added, possibly several times, each once and longest first. -/
structure Arranged (compounds added : List String) : Prop where
  sorted : compounds.Pairwise fun longer shorter => shorter.length ≤ longer.length
  once : compounds.Nodup
  mem_iff : ∀ text, text ∈ compounds ↔ text ∈ added
  /-- Operators of one length keep the order of their first additions. -/
  stable : ∀ length,
    compounds.filter (·.length = length) = added.eraseDups.filter (·.length = length)

theorem insertCompound_cons (text first : String) (compounds : List String) :
    insertCompound text (first :: compounds) =
      if text.length ≤ first.length then first :: insertCompound text compounds
      else text :: first :: compounds := by
  unfold insertCompound
  split
  next longer => simp [longer]
  next shorter => simp [shorter]

theorem insertCompound_perm (text : String) (compounds : List String) :
    (insertCompound text compounds).Perm (text :: compounds) := by
  unfold insertCompound
  refine List.perm_middle.trans ?_
  rw [List.takeWhile_append_dropWhile]

variable {compounds : List String}

theorem sorted_insertCompound
    (sorted : compounds.Pairwise fun longer shorter => shorter.length ≤ longer.length)
    (text : String) :
    (insertCompound text compounds).Pairwise
      fun longer shorter => shorter.length ≤ longer.length := by
  induction compounds with
  | nil => exact List.pairwise_singleton _ text
  | cons first compounds ih =>
    obtain ⟨behind, rest⟩ := List.pairwise_cons.mp sorted
    rw [insertCompound_cons]
    split
    next longer =>
      refine List.pairwise_cons.mpr ⟨fun other member => ?_, ih rest⟩
      rw [(insertCompound_perm text compounds).mem_iff, List.mem_cons] at member
      rcases member with rfl | member
      · exact longer
      · exact behind other member
    next shorter =>
      refine List.pairwise_cons.mpr ⟨fun other member => ?_, sorted⟩
      rcases List.mem_cons.mp member with rfl | member
      · omega
      · have := behind other member
        omega

/-- Among the operators of its length the new one is the last. -/
theorem filter_insertCompound
    (sorted : compounds.Pairwise fun longer shorter => shorter.length ≤ longer.length)
    (text : String) (length : Nat) :
    (insertCompound text compounds).filter (·.length = length) =
      compounds.filter (·.length = length) ++ [text].filter (·.length = length) := by
  induction compounds with
  | nil => rfl
  | cons first compounds ih =>
    obtain ⟨behind, rest⟩ := List.pairwise_cons.mp sorted
    rw [insertCompound_cons]
    split
    next longer =>
      rw [List.filter_cons, List.filter_cons, ih rest]
      split <;> rfl
    next shorter =>
      by_cases same : text.length = length
      · -- everything behind the new operator is shorter than it
        have none : (first :: compounds).filter (·.length = length) = [] := by
          apply List.filter_eq_nil_iff.mpr
          intro other member
          rcases List.mem_cons.mp member with rfl | member
          · simp
            omega
          · have := behind other member
            simp
            omega
        rw [List.filter_cons, none]
        simp [same]
      · rw [List.filter_cons]
        simp [same]

/-! ## What entries add -/

/-- The text that an entry adds to the compound operators; the empty text is not added. -/
def Entry.compound? : Entry → Option String
  | .compound text => if text = "" then none else some text
  | _ => none

theorem compounds_add (lexicon : Lexicon) (entry : Entry) :
    (lexicon.add entry).compounds =
      match entry.compound? with
      | none => lexicon.compounds
      | some text =>
        if text ∈ lexicon.compounds then lexicon.compounds
        else insertCompound text lexicon.compounds := by
  cases entry with
  | compound text =>
    by_cases empty : text = ""
    · simp [add, Entry.compound?, empty]
    · by_cases known : text ∈ lexicon.compounds
      · simp [add, Entry.compound?, empty, known]
      · simp [add, Entry.compound?, empty, known]
  | word _ _ | punctuation _ _ | quote _ _ | symbol _ | blank _ => rfl

variable {added : List String} {text : String}

theorem eraseDups_concat_of_mem (known : text ∈ added) :
    (added ++ [text]).eraseDups = added.eraseDups := by
  simp [List.eraseDups_append, List.removeAll, known]

theorem eraseDups_concat_of_not_mem (new : text ∉ added) :
    (added ++ [text]).eraseDups = added.eraseDups ++ [text] := by
  simp [List.eraseDups_append, List.removeAll, new, List.eraseDups_cons]

/-- Adding an operator again changes nothing. -/
theorem Arranged.known (arranged : Arranged compounds added) (known : text ∈ compounds) :
    Arranged compounds (added ++ [text]) where
  sorted := arranged.sorted
  once := arranged.once
  mem_iff other := by
    have listed := (arranged.mem_iff text).mp known
    rw [arranged.mem_iff, List.mem_append, List.mem_singleton]
    constructor
    · exact Or.inl
    · rintro (member | rfl)
      · exact member
      · exact listed
  stable length := by
    rw [eraseDups_concat_of_mem ((arranged.mem_iff text).mp known)]
    exact arranged.stable length

/-- A new operator goes behind those that are at least as long. -/
theorem Arranged.insert (arranged : Arranged compounds added) (new : text ∉ compounds) :
    Arranged (insertCompound text compounds) (added ++ [text]) where
  sorted := sorted_insertCompound arranged.sorted text
  once := (insertCompound_perm text compounds).nodup_iff.mpr
    (List.nodup_cons.mpr ⟨new, arranged.once⟩)
  mem_iff other := by
    rw [(insertCompound_perm text compounds).mem_iff, List.mem_cons, arranged.mem_iff,
      List.mem_append, List.mem_singleton, or_comm]
  stable length := by
    have absent : text ∉ added := fun member => new ((arranged.mem_iff text).mpr member)
    rw [filter_insertCompound arranged.sorted, eraseDups_concat_of_not_mem absent,
      List.filter_append, arranged.stable]

/-- Every entry keeps the order. -/
theorem Arranged.add {lexicon : Lexicon} (arranged : Arranged lexicon.compounds added)
    (entry : Entry) :
    Arranged (lexicon.add entry).compounds (added ++ entry.compound?.toList) := by
  rw [compounds_add]
  cases entry.compound? with
  | none => simpa using arranged
  | some text =>
    show Arranged (if text ∈ lexicon.compounds then _ else _) (added ++ [text])
    split
    next known => exact arranged.known known
    next new => exact arranged.insert new

/-- So do all entries one after the other. -/
theorem Arranged.extend {lexicon : Lexicon} (arranged : Arranged lexicon.compounds added)
    (entries : List Entry) :
    Arranged (lexicon.extend entries).compounds (added ++ entries.filterMap Entry.compound?) := by
  induction entries generalizing lexicon added with
  | nil => simpa [Lexicon.extend] using arranged
  | cons entry entries ih =>
    have onward := ih (arranged.add entry)
    rw [List.append_assoc] at onward
    have split : (entry :: entries).filterMap Entry.compound? =
        entry.compound?.toList ++ entries.filterMap Entry.compound? := by
      rw [List.filterMap_cons]
      cases entry.compound? <;> rfl
    rw [split]
    exact onward

theorem arranged_empty : Arranged empty.compounds empty.compounds where
  sorted := List.Pairwise.nil
  once := List.nodup_nil
  mem_iff _ := Iff.rfl
  stable _ := rfl

theorem arranged_standard : Arranged standard.compounds standard.compounds where
  sorted := by decide
  once := by decide
  mem_iff _ := Iff.rfl
  stable length := by
    have once : standard.compounds.eraseDups = standard.compounds := by decide
    rw [once]

/-! ## The longest match -/

/-- Among compound operators that are listed longest first the longest one is found. -/
theorem compoundAt?_longest {lexicon : Lexicon}
    (sorted : lexicon.compounds.Pairwise fun longer shorter => shorter.length ≤ longer.length)
    {text : List Char} {operator : String} (longest : lexicon.compoundAt? text = some operator) :
    ∀ longer ∈ lexicon.compounds, operator.length < longer.length →
      ¬ longer.toList <+: text := by
  obtain ⟨-, before, after, split, others⟩ := List.find?_eq_some_iff_append.mp longest
  rw [split] at sorted
  obtain ⟨-, behind, -⟩ := List.pairwise_append.mp sorted
  intro longer listed length found
  rw [split, List.mem_append, List.mem_cons] at listed
  rcases listed with earlier | rfl | later
  · have absent := others longer earlier
    simp [List.isPrefixOf_iff_prefix.mpr found] at absent
  · exact Nat.lt_irrefl _ length
  · have shorter := (List.pairwise_cons.mp behind).1 longer later
    omega

/-- Two operators of one length that begin the same text are the same. -/
theorem eq_of_prefix_of_length_eq {first second : String} {text : List Char}
    (one : first.toList <+: text) (two : second.toList <+: text)
    (length : first.length = second.length) : first = second := by
  apply String.toList_injective
  rw [← String.length_toList, ← String.length_toList] at length
  have within : first.toList <+: second.toList :=
    List.prefix_of_prefix_length_le one two (Nat.le_of_eq length)
  exact within.eq_of_length length

theorem compoundAt?_eq_none_iff {lexicon : Lexicon} {text : List Char} :
    lexicon.compoundAt? text = none ↔
      ∀ operator ∈ lexicon.compounds, ¬ operator.toList <+: text := by
  simp [compoundAt?, List.isPrefixOf_iff_prefix]

/-- The operator that is found begins the text, and no longer one does. -/
theorem Arranged.compoundAt?_eq_some_iff {lexicon : Lexicon}
    (arranged : Arranged lexicon.compounds added) {text : List Char} {operator : String} :
    lexicon.compoundAt? text = some operator ↔
      operator ∈ added ∧ operator.toList <+: text ∧
        ∀ other ∈ added, other.toList <+: text → other.length ≤ operator.length := by
  have sound : ∀ found, lexicon.compoundAt? text = some found →
      found ∈ added ∧ found.toList <+: text ∧
        ∀ other ∈ added, other.toList <+: text → other.length ≤ found.length := by
    intro found longest
    obtain ⟨begins, -⟩ := List.find?_eq_some_iff_append.mp longest
    have listed : found ∈ lexicon.compounds := List.mem_of_find?_eq_some longest
    refine ⟨(arranged.mem_iff found).mp listed, List.isPrefixOf_iff_prefix.mp begins, ?_⟩
    intro other member matched
    apply Nat.le_of_not_lt
    intro longer
    exact compoundAt?_longest arranged.sorted longest other ((arranged.mem_iff other).mpr member)
      longer matched
  constructor
  · exact sound operator
  · rintro ⟨member, begins, longest⟩
    cases result : lexicon.compoundAt? text with
    | none =>
      have absent := compoundAt?_eq_none_iff.mp result operator
        ((arranged.mem_iff operator).mpr member)
      exact absurd begins absent
    | some found =>
      obtain ⟨memberFound, beginsFound, longestFound⟩ := sound found result
      have le := longest found memberFound beginsFound
      have ge := longestFound operator member begins
      rw [eq_of_prefix_of_length_eq beginsFound begins (by omega)]

theorem Arranged.compoundAt?_eq_none_iff {lexicon : Lexicon}
    (arranged : Arranged lexicon.compounds added) {text : List Char} :
    lexicon.compoundAt? text = none ↔ ∀ operator ∈ added, ¬ operator.toList <+: text := by
  rw [Lexicon.compoundAt?_eq_none_iff]
  simp only [arranged.mem_iff]

/-- Only the set of the operators decides which one is found. -/
theorem Arranged.compoundAt?_congr {lexicon other : Lexicon} {addedOther : List String}
    (arranged : Arranged lexicon.compounds added)
    (arrangedOther : Arranged other.compounds addedOther)
    (same : ∀ text, text ∈ addedOther ↔ text ∈ added) (text : List Char) :
    other.compoundAt? text = lexicon.compoundAt? text := by
  apply Option.ext
  intro operator
  rw [arrangedOther.compoundAt?_eq_some_iff, arranged.compoundAt?_eq_some_iff]
  simp only [same]

/-- Whatever entries extend the empty or the standard lexicon: its compound operators are those of
the old lexicon and the ones that were added, each once, longest first and otherwise in the order
of their first additions. The one that is found at the beginning of a text is the longest that
begins it, none is found only if none begins it, and the order of the additions does not matter. -/
theorem compoundAt?_extend {base : Lexicon} (start : base = empty ∨ base = standard)
    (entries : List Entry) :
    let lexicon := base.extend entries
    let added := base.compounds ++ entries.filterMap Entry.compound?
    Arranged lexicon.compounds added ∧
      (∀ text operator, lexicon.compoundAt? text = some operator ↔
        operator ∈ added ∧ operator.toList <+: text ∧
          ∀ other ∈ added, other.toList <+: text → other.length ≤ operator.length) ∧
      (∀ text, lexicon.compoundAt? text = none ↔
        ∀ operator ∈ added, ¬ operator.toList <+: text) ∧
      ∀ others : List Entry,
        (∀ text, text ∈ others.filterMap Entry.compound? ↔
          text ∈ entries.filterMap Entry.compound?) →
        ∀ text, (base.extend others).compoundAt? text = lexicon.compoundAt? text := by
  intro lexicon added
  have arrangedBase : Arranged base.compounds base.compounds := by
    rcases start with rfl | rfl
    · exact arranged_empty
    · exact arranged_standard
  have arranged : Arranged lexicon.compounds added := arrangedBase.extend entries
  refine ⟨arranged, fun text operator => arranged.compoundAt?_eq_some_iff,
    fun text => arranged.compoundAt?_eq_none_iff, fun others same text => ?_⟩
  refine arranged.compoundAt?_congr (arrangedBase.extend others) (fun text => ?_) text
  rw [List.mem_append, List.mem_append, same]

/-- Operators that begin with each other, one that is known, the empty text, and one whose
characters take several bytes each. -/
theorem compoundAt?_extend_overlapping :
    let entries := [Entry.compound "=", .compound "", .blank '_', .compound "==",
      .compound "\u2192\u2192", .compound "<=>"]
    let lexicon := standard.extend entries
    let added := standard.compounds ++ ["=", "==", "\u2192\u2192", "<=>"]
    (standard = empty ∨ standard = standard) ∧
      Arranged lexicon.compounds added ∧
      lexicon.compounds = "<=>" :: standard.compounds ++ ["\u2192\u2192", "="] ∧
      lexicon.compoundAt? "<=>a".toList = some "<=>" ∧
      lexicon.compoundAt? "<".toList = none ∧
      (standard.extend entries.reverse).compoundAt? "<=>a".toList =
        lexicon.compoundAt? "<=>a".toList := by
  intro entries lexicon added
  have start : standard = empty ∨ standard = standard := .inr rfl
  obtain ⟨arranged, found, missed, unordered⟩ := compoundAt?_extend start entries
  refine ⟨start, arranged, by decide, (found _ _).mpr (by decide), (missed _).mpr (by decide), ?_⟩
  apply unordered entries.reverse
  intro text
  rw [List.filterMap_reverse, List.mem_reverse]

end Kite.Lexicon
