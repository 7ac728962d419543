import Kite.Kind

/-!
# The vocabulary of the scanner

A lexicon says which words are keywords, which operators are compound, which role a
character has, which characters may be glued into operators and which are blank. It is
built by adding entries to another lexicon. A character has at most one role, the one
of the last entry that names it, and the compound operators are kept longest first, so
that the first one that matches is the longest.
-/

set_option autoImplicit false

namespace Kite

/-- What a character stands for on its own. -/
inductive Lexicon.Role where
  /-- A token of the given kind. -/
  | punctuation (kind : Kind)
  /-- A delimiter of quoted literals of the given kind. -/
  | quote (kind : Kind)
  deriving DecidableEq, Repr

/-- The vocabulary that turns characters into tokens. -/
structure Lexicon where
  /-- Words with a kind of their own, the latest first. -/
  words : List (String × Kind) := []
  /-- Operators of several characters, longest first. -/
  compounds : List String := []
  /-- Characters with a role, the latest first. -/
  roles : List (Char × Lexicon.Role) := []
  /-- Characters that may be glued into operators. -/
  symbols : List Char := []
  /-- Characters that separate tokens. -/
  blanks : List Char := []
  deriving DecidableEq, Repr

/-- One addition to a lexicon. -/
inductive Lexicon.Entry where
  | word (text : String) (kind : Kind)
  | compound (text : String)
  | punctuation (c : Char) (kind : Kind)
  | quote (c : Char) (kind : Kind)
  | symbol (c : Char)
  | blank (c : Char)
  deriving DecidableEq, Repr

namespace Lexicon

/-- The lexicon without entries. -/
def empty : Lexicon := {}

/-- Puts a new compound operator behind those that are at least as long. -/
def insertCompound (text : String) (compounds : List String) : List String :=
  compounds.takeWhile (text.length ≤ ·.length) ++
    text :: compounds.dropWhile (text.length ≤ ·.length)

/-- Adds one entry. A new kind or role replaces an older one, and an empty or known compound
operator changes nothing. -/
def add (lexicon : Lexicon) : Entry → Lexicon
  | .word text kind => { lexicon with words := (text, kind) :: lexicon.words }
  | .compound text =>
    if text = "" ∨ text ∈ lexicon.compounds then lexicon
    else { lexicon with compounds := insertCompound text lexicon.compounds }
  | .punctuation c kind => { lexicon with roles := (c, .punctuation kind) :: lexicon.roles }
  | .quote c kind => { lexicon with roles := (c, .quote kind) :: lexicon.roles }
  | .symbol c => { lexicon with symbols := c :: lexicon.symbols }
  | .blank c => { lexicon with blanks := c :: lexicon.blanks }

/-- Adds entries one after the other. -/
def extend (lexicon : Lexicon) (entries : List Entry) : Lexicon :=
  entries.foldl Lexicon.add lexicon

/-- The kind of a word; a word that is not listed is an identifier. -/
def kindOfWord (lexicon : Lexicon) (word : String) : Kind :=
  (lexicon.words.lookup word).getD .identifier

/-- The longest compound operator at the beginning of a text. -/
def compoundAt? (lexicon : Lexicon) (text : List Char) : Option String :=
  lexicon.compounds.find? fun compound => compound.toList.isPrefixOf text

/-- The kind of token that a punctuation character makes. -/
def punctuation? (lexicon : Lexicon) (c : Char) : Option Kind :=
  match lexicon.roles.lookup c with
  | some (.punctuation kind) => some kind
  | _ => none

/-- The kind of literal that a quote character delimits. -/
def quote? (lexicon : Lexicon) (c : Char) : Option Kind :=
  match lexicon.roles.lookup c with
  | some (.quote kind) => some kind
  | _ => none

/-- Whether a character may be glued into an operator. -/
def isSymbol (lexicon : Lexicon) (c : Char) : Bool :=
  lexicon.symbols.contains c

/-- Whether a character separates tokens. -/
def isBlank (lexicon : Lexicon) (c : Char) : Bool :=
  lexicon.blanks.contains c

/-- Whether a text is a run of operator characters. -/
def isOperatorText (lexicon : Lexicon) (text : String) : Bool :=
  text ≠ "" && text.toList.all lexicon.isSymbol

end Lexicon

end Kite
