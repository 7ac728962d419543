import Kite.LexicalError
import Kite.Segment
import Kite.Unicode.XidStart

/-!
# Scanning a text into segments

`Segment.next` takes the segment at the beginning of a text, and `Scan.ofText` repeats
it to the end. The rules are tried in this order: blank, comment, compound operator,
number, quoted literal, punctuation, word; a character that none of them takes is an
unknown piece of its own. An operator piece is closed unless the character after it may
still be glued to it.
-/

set_option autoImplicit false

namespace Kite

namespace Lexicon

/-- Whether no character that may be glued into an operator stands at the beginning of a text. -/
def closedBefore (lexicon : Lexicon) : List Char → Bool
  | [] => true
  | c :: _ => !lexicon.isSymbol c

end Lexicon

namespace Segment

/-- A comment runs up to the end of its line. -/
def comment (text : List Char) : Segment × List Char :=
  (.plain { kind := .comment, source := text.takeWhile (· ≠ '\n') }, text.dropWhile (· ≠ '\n'))

/-- A compound operator that stands at the beginning of the text. -/
def compound (lexicon : Lexicon) (operator : String) (text : List Char) : Segment × List Char :=
  let rest := text.drop operator.length
  (.plain
    { kind := .operator
      source := operator.toList
      closed := some (lexicon.closedBefore rest) }, rest)

/-- Whether a number begins with `c` before the text `rest`. -/
def startsNumber (c : Char) (rest : List Char) : Bool :=
  c.isDigit || c = '.' && (rest.head?.any Char.isDigit)

/-- Whether a character continues a number. -/
def continuesNumber (c : Char) : Bool :=
  c.isDigit || c = '.'

/-- A number takes all digits and points that follow each other, and at most one point may be
among them. -/
def number (text : List Char) : Except LexicalError.Cause (Segment × List Char) :=
  let digits := text.takeWhile continuesNumber
  if 1 < digits.count '.' then .error (.multipleDecimalPoints (String.ofList digits))
  else .ok (.plain { kind := .number, source := digits }, text.dropWhile continuesNumber)

/-- Splits the text after an opening delimiter into the content up to the closing delimiter and
the text after it. A backslash takes the character after it into the content. -/
def splitAtDelimiter? (delimiter : Char) : List Char → Option (List Char × List Char)
  | [] => none
  | c :: rest =>
    if c = delimiter then some ([], rest)
    else if c = '\\' then
      match rest with
      | [] => none
      | escaped :: rest =>
        match splitAtDelimiter? delimiter rest with
        | none => none
        | some (content, after) => some (c :: escaped :: content, after)
    else
      match splitAtDelimiter? delimiter rest with
      | none => none
      | some (content, after) => some (c :: content, after)

/-- A quoted literal, given the text after its opening delimiter. -/
def quoted (kind : Kind) (delimiter : Char) (rest : List Char) :
    Except LexicalError.Cause (Segment × List Char) :=
  match splitAtDelimiter? delimiter rest with
  | none => .error (.unterminatedLiteral kind)
  | some (content, after) => .ok (.literal kind delimiter content, after)

/-- A punctuation character of the given kind. A hyphen and a `>` make an arrow, and every
character that stands for a hyphen is reported as `-`. -/
def punctuation (lexicon : Lexicon) (kind : Kind) (c : Char) (rest : List Char) :
    Segment × List Char :=
  if kind = .hyphen then
    match rest with
    | '>' :: rest =>
      (.plain
        { kind := .arrow
          source := [c, '>']
          lexeme := "->"
          closed := some (lexicon.closedBefore rest) }, rest)
    | _ =>
      (.plain
        { kind := .hyphen
          source := [c]
          lexeme := "-"
          closed := some (lexicon.closedBefore rest) }, rest)
  else (.plain { kind := kind, source := [c] }, rest)

/-- Whether a character continues a word. -/
def continuesWord (c : Char) : Bool :=
  Unicode.isXidStart c || c.isDigit

/-- A word takes all letters and digits that follow each other. -/
def word (lexicon : Lexicon) (text : List Char) : Segment × List Char :=
  let letters := text.takeWhile continuesWord
  (.plain { kind := lexicon.kindOfWord (String.ofList letters), source := letters },
    text.dropWhile continuesWord)

/-- A character that no other rule takes. -/
def unknown (lexicon : Lexicon) (c : Char) (rest : List Char) : Segment × List Char :=
  (.plain { kind := .unknown, source := [c], closed := some (lexicon.closedBefore rest) }, rest)

/-- The segment at the beginning of the text `c :: rest`, and the text after it. -/
def next (lexicon : Lexicon) (c : Char) (rest : List Char) :
    Except LexicalError.Cause (Segment × List Char) :=
  if lexicon.isBlank c then .ok (.plain { kind := .whitespace, source := [c] }, rest)
  else if lexicon.punctuation? c = some .comment then .ok (comment (c :: rest))
  else
    -- compound operators come before numbers and quotes, whatever characters they are made of
    match lexicon.compoundAt? (c :: rest) with
    | some operator => .ok (compound lexicon operator (c :: rest))
    | none =>
      if startsNumber c rest then number (c :: rest)
      else
        match lexicon.quote? c with
        | some kind => quoted kind c rest
        | none =>
          match lexicon.punctuation? c with
          | some kind => .ok (punctuation lexicon kind c rest)
          | none =>
            if Unicode.isXidStart c then .ok (word lexicon (c :: rest))
            else .ok (unknown lexicon c rest)

end Segment

/-- The segments of a text up to its end or up to the first token that cannot be finished. -/
structure Scan where
  segments : List Segment
  /-- What ended the scan before the end of the text. -/
  failure : Option LexicalError.Cause
  deriving DecidableEq, Repr

namespace Scan

/-- Puts a segment before those of a scan. -/
def cons (segment : Segment) (scan : Scan) : Scan :=
  { scan with segments := segment :: scan.segments }

/-- Scans a text in at most the given number of rounds. -/
def ofTextWithin (lexicon : Lexicon) : Nat → List Char → Scan
  | _, [] => ⟨[], none⟩
  | 0, _ :: _ => ⟨[], some .noProgress⟩
  | rounds + 1, c :: rest =>
    match Segment.next lexicon c rest with
    | .error cause => ⟨[], some cause⟩
    | .ok (segment, after) => (ofTextWithin lexicon rounds after).cons segment

/-- Scans a text. A round that makes progress takes at least one character, so a text that is
not finished after as many rounds as it has characters is not being scanned at all. -/
def ofText (lexicon : Lexicon) (text : List Char) : Scan :=
  ofTextWithin lexicon text.length text

/-- The pieces of all segments. -/
def pieces (lexicon : Lexicon) (scan : Scan) : List Piece :=
  scan.segments.flatMap (Segment.pieces lexicon)

/-- The source text of all segments. -/
def source (scan : Scan) : List Char :=
  scan.segments.flatMap Segment.source

end Scan

end Kite
