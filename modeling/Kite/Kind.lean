/-!
# Kinds of tokens

A token is sorted by its kind. Brackets come in three shapes and quoted literals in
three styles, so that a rule about all brackets or about all quoted literals is one
pattern. `Kind.name` is the name under which a kind appears in messages.
-/

set_option autoImplicit false

namespace Kite

/-- The three shapes of brackets. -/
inductive Bracket where
  | round
  | square
  | curly
  deriving DecidableEq, Repr

/-- The three styles of quoted literals. -/
inductive QuoteStyle where
  | string
  | char
  | template
  deriving DecidableEq, Repr

/-- The delimiter that encloses a literal of this style by default. -/
def QuoteStyle.delimiter : QuoteStyle → Char
  | .string => '\x22'
  | .char => '\x27'
  | .template => '\x60'

/-- What a token is. -/
inductive Kind where
  | identifier
  | number
  | quoted (style : QuoteStyle)
  | hyphen
  | operator
  | opening (shape : Bracket)
  | closing (shape : Bracket)
  | comma
  | dot
  | semicolon
  | colon
  | arrow
  /-- A character, or the plain text inside a literal, that no other kind describes. -/
  | unknown
  | comment
  | escape
  | whitespace
  | endOfInput
  deriving DecidableEq, Repr

namespace Kind

/-- Whether a token of this kind stands for the value it spells. -/
def isLiteral : Kind → Bool
  | .number | .quoted _ => true
  | _ => false

/-- Whether a token of this kind delimits or holds a quoted literal. -/
def isQuoted : Kind → Bool
  | .quoted _ => true
  | _ => false

/-- Whether a token of this kind may be part of an operator. -/
def isOperatorLike : Kind → Bool
  | .operator | .hyphen | .arrow | .unknown => true
  | _ => false

/-- The name of a kind in messages. -/
def name : Kind → String
  | .identifier => "Identifier"
  | .number => "Number"
  | .quoted .string => "String"
  | .quoted .char => "Char"
  | .quoted .template => "TemplateString"
  | .hyphen => "Hyphen"
  | .operator => "Operator"
  | .opening .round => "OpenParenthesis"
  | .opening .square => "OpenBracket"
  | .opening .curly => "OpenBrace"
  | .closing .round => "CloseParenthesis"
  | .closing .square => "CloseBracket"
  | .closing .curly => "CloseBrace"
  | .comma => "Comma"
  | .dot => "Dot"
  | .semicolon => "SemiColon"
  | .colon => "Colon"
  | .arrow => "Arrow"
  | .unknown => "Unknown"
  | .comment => "Comment"
  | .escape => "Escape"
  | .whitespace => "Whitespace"
  | .endOfInput => "EndOfInput"

/-- Every kind, once. -/
def all : List Kind :=
  [.identifier, .number, .quoted .string, .quoted .char, .quoted .template, .hyphen, .operator,
    .opening .round, .opening .square, .opening .curly, .closing .round, .closing .square,
    .closing .curly, .comma, .dot, .semicolon, .colon, .arrow, .unknown, .comment, .escape,
    .whitespace, .endOfInput]

/-- The kind of the given name. -/
def ofName? (name : String) : Option Kind :=
  Kind.all.find? fun kind => kind.name = name

instance : ToString Kind := ⟨Kind.name⟩

/-- No kind is missing from the list of all kinds. -/
theorem mem_all (kind : Kind) : kind ∈ Kind.all := by
  cases kind with
  | quoted style => cases style <;> decide
  | opening shape => cases shape <;> decide
  | closing shape => cases shape <;> decide
  | _ => decide

/-- Reading a name back gives the kind that has it. -/
theorem ofName?_name (kind : Kind) : Kind.ofName? kind.name = some kind := by
  cases kind with
  | quoted style => cases style <;> decide
  | opening shape => cases shape <;> decide
  | closing shape => cases shape <;> decide
  | _ => decide

end Kind

end Kite
