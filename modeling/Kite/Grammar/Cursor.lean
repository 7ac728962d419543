import Kite.Token

/-!
# Cursors

The grammar reads its tokens through a cursor, which holds the tokens still ahead up to
the end of the input. At the end the cursor stays on the end token. Comments mean
nothing to the grammar and are left out, and so is whatever follows the first end
token; tokens without an end token get one at the place of the last of them.
-/

set_option autoImplicit false

namespace Kite

/-- The tokens that are still to be read. -/
structure Cursor where
  /-- The tokens ahead, without comments and without the end token. -/
  rest : List Token
  /-- The token that ends the input. -/
  stop : Token
  deriving DecidableEq, Repr

namespace Cursor

/-- The end token for tokens that have none: it stands where the last of them stands. -/
def missingStop (tokens : List Token) : Token :=
  .endOfInput ((tokens.getLast?.map Token.position).getD Position.start)

/-- The cursor at the beginning of a token sequence. -/
def ofTokens (tokens : List Token) : Cursor :=
  let visible := tokens.filter fun token => token.kind ≠ .comment
  { rest := visible.takeWhile fun token => token.kind ≠ .endOfInput
    stop := (visible.find? fun token => token.kind = .endOfInput).getD (missingStop visible) }

/-- The token under the cursor. -/
def token (cursor : Cursor) : Token :=
  cursor.rest.headD cursor.stop

/-- The kind of the token that stands `distance` tokens ahead. -/
def kindAt (cursor : Cursor) (distance : Nat) : Kind :=
  match cursor.rest[distance]? with
  | some token => token.kind
  | none => .endOfInput

/-- The cursor behind the token under it; at the end of the input it stays. -/
def next (cursor : Cursor) : Cursor :=
  { cursor with rest := cursor.rest.tail }

end Cursor

end Kite
