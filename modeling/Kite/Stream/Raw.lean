import Kite.Lexicon.Standard
import Kite.Segment.Scan

/-!
# Raw tokens

`tokenize` turns a source text into tokens without leaving anything out: blanks and
comments are tokens, and a quoted literal is the tokens of its delimiters and of its
content. The last token marks the end of the input and stands just past the text.
-/

set_option autoImplicit false

namespace Kite

/-- The tokens of a source text, or the first token that cannot be finished. -/
def tokenize (lexicon : Lexicon) (text : String) : Except LexicalError (List Token) :=
  let scan := Scan.ofText lexicon text.toList
  let finish := Position.start.past scan.source
  match scan.failure with
  | some cause => .error { cause, position := finish }
  | none => .ok (Piece.place Position.start (scan.pieces lexicon) ++ [Token.endOfInput finish])

end Kite
