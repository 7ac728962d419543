import Kite.Lexicon

/-!
# The standard vocabulary

The lexicon in force where no other is given. It lists no keywords; its compound
operators all have two characters; and each style of quoted literal has its own
delimiter.
-/

set_option autoImplicit false

namespace Kite.Lexicon

/-- The lexicon in force by default. -/
def standard : Lexicon where
  compounds :=
    ["==", "!=", ">=", "<=", "&&", "||", "++", "--", "+=", "-=", "*=", "/=", "%="]
  roles :=
    [('-', .punctuation .hyphen),
      ('(', .punctuation (.opening .round)), (')', .punctuation (.closing .round)),
      ('{', .punctuation (.opening .curly)), ('}', .punctuation (.closing .curly)),
      ('[', .punctuation (.opening .square)), (']', .punctuation (.closing .square)),
      (',', .punctuation .comma), ('.', .punctuation .dot),
      (';', .punctuation .semicolon), (':', .punctuation .colon),
      ('#', .punctuation .comment), ('\\', .punctuation .escape),
      (QuoteStyle.string.delimiter, .quote (.quoted .string)),
      (QuoteStyle.char.delimiter, .quote (.quoted .char)),
      (QuoteStyle.template.delimiter, .quote (.quoted .template))]
  symbols := ['+', '-', '*', '/', '%', '<', '>', '=', '!', '&', '|', '^', '~', '?', '@']
  blanks := [' ', '\t', '\n', '\r']

end Kite.Lexicon
