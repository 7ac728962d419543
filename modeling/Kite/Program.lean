import Kite.Grammar.Session
import Kite.Stream.Tidy

/-!
# Programs from source text

The whole way from a source text to its program: the text is cut into tokens, the
tokens are tidied, and the grammar reads them. Either the scanner or the grammar may
refuse the text. Many texts are read one by one, none of them affecting another.
-/

set_option autoImplicit false

namespace Kite

/-- Why a source text is refused. -/
inductive SourceError where
  | lexical (error : LexicalError)
  | grammatical (error : GrammarError)
  deriving DecidableEq, Repr

instance : ToString SourceError where
  toString
    | .lexical error => toString error
    | .grammatical error => toString error

/-- The program that a source text spells. -/
def parseSource (lexicon : Lexicon) (text : String) : Except SourceError (List Statement) := do
  let tokens ← (lex lexicon text).mapError .lexical
  (parseTokens tokens).mapError .grammatical

/-- The programs of many source texts, in their order. -/
def parseSources (lexicon : Lexicon) (texts : List String) :
    List (Except SourceError (List Statement)) :=
  texts.map (parseSource lexicon)

/-- The tidy tokens of many source texts, in their order. -/
def lexSources (lexicon : Lexicon) (texts : List String) :
    List (Except LexicalError (List Token)) :=
  texts.map (lex lexicon)

end Kite
