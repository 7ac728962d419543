import Kite.Lexicon.Standard

/-!
# What entries leave as it was

`extend_preserves` is the induction over the entries that extend a lexicon: a property
that every single entry keeps holds at the end. What a single entry does to the role of a
character is said by `lookup_roles_add_entry` and `lookup_roles_add_of_ne`. The property
needed for tokens that spell their text is `Legible`, and `legible_extend_standard` finds
it in every extension of the standard lexicon that gives no character a role as punctuation.
-/

set_option autoImplicit false

namespace Kite.Lexicon

/-- A property that every entry keeps holds of the extended lexicon. -/
theorem extend_preserves {P : Lexicon → Prop} {lexicon : Lexicon} {entries : List Entry}
    (initially : P lexicon)
    (kept : ∀ lexicon, ∀ entry ∈ entries, P lexicon → P (lexicon.add entry)) :
    P (lexicon.extend entries) := by
  induction entries generalizing lexicon with
  | nil => exact initially
  | cons entry entries ih =>
    have added : P (lexicon.add entry) := kept lexicon entry List.mem_cons_self initially
    exact ih added fun lexicon entry member => kept lexicon entry (List.mem_cons_of_mem _ member)

/-- A compound operator has no part in the rest of the lexicon. -/
theorem add_compound (lexicon : Lexicon) (text : String) :
    lexicon.add (.compound text) =
      { lexicon with compounds := (lexicon.add (.compound text)).compounds } := by
  by_cases known : text = "" ∨ text ∈ lexicon.compounds
  · simp [add, known]
  · simp [add, known]

theorem punctuation?_eq_some_iff {lexicon : Lexicon} {c : Char} {kind : Kind} :
    lexicon.punctuation? c = some kind ↔ lexicon.roles.lookup c = some (.punctuation kind) := by
  unfold punctuation?
  split <;> simp_all

theorem quote?_eq_some_iff {lexicon : Lexicon} {c : Char} {kind : Kind} :
    lexicon.quote? c = some kind ↔ lexicon.roles.lookup c = some (.quote kind) := by
  unfold quote?
  split <;> simp_all

theorem mem_roles_of_lookup {lexicon : Lexicon} {c : Char} {role : Role}
    (found : lexicon.roles.lookup c = some role) : (c, role) ∈ lexicon.roles := by
  obtain ⟨before, after, split, _⟩ := List.lookup_eq_some_iff.mp found
  simp [split]

/-- The character to which an entry gives a role; most kinds of entries give none. -/
def Entry.character? : Entry → Option Char
  | .punctuation c _ | .quote c _ => some c
  | .word _ _ | .compound _ | .symbol _ | .blank _ => none

/-- The entry that gives a character a role. -/
def Role.entry (c : Char) : Role → Entry
  | .punctuation kind => .punctuation c kind
  | .quote kind => .quote c kind

@[simp] theorem Role.entry_inj {c : Char} {first second : Role} :
    first.entry c = second.entry c ↔ first = second := by
  cases first <;> cases second <;> simp [Role.entry]

theorem Entry.exists_role {entry : Entry} {c : Char} (named : entry.character? = some c) :
    ∃ role : Role, entry = role.entry c := by
  cases entry with
  | punctuation d kind =>
    obtain rfl : d = c := Option.some.inj named
    exact ⟨.punctuation kind, rfl⟩
  | quote d kind =>
    obtain rfl : d = c := Option.some.inj named
    exact ⟨.quote kind, rfl⟩
  | word _ _ | compound _ | symbol _ | blank _ => exact nomatch named

/-- An entry that names a character replaces the role it had. -/
theorem lookup_roles_add_entry (lexicon : Lexicon) (c : Char) (role : Role) :
    (lexicon.add (role.entry c)).roles.lookup c = some role := by
  cases role <;> simp [add, Role.entry]

/-- The other entries leave the role of the character alone. -/
theorem lookup_roles_add_of_ne {lexicon : Lexicon} {entry : Entry} {c : Char}
    (other : entry.character? ≠ some c) :
    (lexicon.add entry).roles.lookup c = lexicon.roles.lookup c := by
  cases entry with
  | punctuation d kind | quote d kind =>
    have different : c ≠ d := fun same => other (congrArg some same.symm)
    simp [add, List.lookup_cons, beq_false_of_ne different]
  | compound text => rw [add_compound]
  | word _ _ | symbol _ | blank _ => rfl

/-- Only a punctuation entry makes a character punctuation. -/
theorem punctuation?_of_add {lexicon : Lexicon} {entry : Entry} {c : Char} {kind : Kind}
    (other : ∀ c kind, entry ≠ .punctuation c kind)
    (role : (lexicon.add entry).punctuation? c = some kind) :
    lexicon.punctuation? c = some kind := by
  rw [punctuation?_eq_some_iff] at role ⊢
  by_cases named : entry.character? = some c
  · obtain ⟨latest, rfl⟩ := Entry.exists_role named
    rw [lookup_roles_add_entry] at role
    obtain rfl : latest = .punctuation kind := Option.some.inj role
    exact absurd rfl (other c kind)
  · rwa [lookup_roles_add_of_ne named] at role

/-- A compound operator of the extended lexicon was there before or is the one that is added. -/
theorem mem_compounds_of_add {lexicon : Lexicon} {entry : Entry} {operator : String}
    (listed : operator ∈ (lexicon.add entry).compounds) :
    operator ∈ lexicon.compounds ∨ entry = .compound operator ∧ operator ≠ "" := by
  cases entry with
  | compound text =>
    by_cases known : text = "" ∨ text ∈ lexicon.compounds
    · exact .inl (by simpa [add, known] using listed)
    · have inserted : (lexicon.add (.compound text)).compounds =
          insertCompound text lexicon.compounds := by
        simp [add, known]
      rw [inserted, insertCompound, List.mem_append, List.mem_cons] at listed
      rcases listed with longer | rfl | shorter
      · exact .inl (List.takeWhile_sublist _ |>.subset longer)
      · exact .inr ⟨rfl, fun empty => known (Or.inl empty)⟩
      · exact .inl (List.dropWhile_sublist _ |>.subset shorter)
  | word _ _ | punctuation _ _ | quote _ _ | symbol _ | blank _ => exact .inl listed

theorem empty_not_mem_compounds_add {lexicon : Lexicon} (entry : Entry)
    (absent : "" ∉ lexicon.compounds) : "" ∉ (lexicon.add entry).compounds := by
  intro listed
  rcases mem_compounds_of_add listed with known | ⟨-, nonempty⟩
  · exact absent known
  · exact nonempty rfl

/-- Entries that are all compound operators leave the rest of the lexicon as it was. -/
theorem extend_of_compounds {lexicon : Lexicon} {entries : List Entry}
    (only : ∀ entry ∈ entries, ∃ text, entry = .compound text) :
    lexicon.extend entries = { lexicon with compounds := (lexicon.extend entries).compounds } := by
  refine extend_preserves (P := fun extended =>
    extended = { lexicon with compounds := extended.compounds }) rfl ?_
  intro extended entry member same
  obtain ⟨text, rfl⟩ := only entry member
  rw [add_compound, same]

/-- A lexicon under which every token spells the text that it covers, and covers some text. -/
structure Legible (lexicon : Lexicon) : Prop where
  /-- A comment ends before the next newline, so it cannot begin with one. -/
  comment : ∀ c, lexicon.punctuation? c = some .comment → c ≠ '\n'
  /-- A hyphen is spelled `-` whatever character makes it. -/
  hyphen : ∀ c, lexicon.punctuation? c = some .hyphen → c = '-'
  compound : "" ∉ lexicon.compounds

/-- A lexicon stays legible as long as no punctuation is added. -/
theorem Legible.add {lexicon : Lexicon} (legible : lexicon.Legible) {entry : Entry}
    (other : ∀ c kind, entry ≠ .punctuation c kind) : (lexicon.add entry).Legible where
  comment c role := legible.comment c (punctuation?_of_add other role)
  hyphen c role := legible.hyphen c (punctuation?_of_add other role)
  compound := empty_not_mem_compounds_add entry legible.compound

theorem legible_standard : standard.Legible where
  comment c role := by
    have listed := mem_roles_of_lookup (punctuation?_eq_some_iff.mp role)
    obtain rfl : c = '#' := by simpa [standard] using listed
    decide
  hyphen c role := by
    simpa [standard] using mem_roles_of_lookup (punctuation?_eq_some_iff.mp role)
  compound := by decide

/-- Every extension of the standard lexicon without new punctuation is legible. -/
theorem legible_extend_standard {entries : List Entry}
    (others : ∀ c kind, .punctuation c kind ∉ entries) : (standard.extend entries).Legible := by
  refine extend_preserves legible_standard fun lexicon entry member legible => ?_
  refine legible.add fun c kind same => ?_
  exact others c kind (same ▸ member)

end Kite.Lexicon
