import Kite.Number.Binary64

/-!
# Numerals

The text of a double-precision number is an optional sign followed by a word for
infinity or not-a-number in any case, or by decimal digits with an optional point and
an optional exponent. The digits may stand on either side of the point, but there must
be one. `Binary64.ofNumeral?` reads such a text as the nearest number.
-/

set_option autoImplicit false

namespace Kite.Numeral

/-- Takes an optional sign off a text; `true` stands for minus. -/
def splitSign : List Char → Bool × List Char
  | '-' :: text => (true, text)
  | '+' :: text => (false, text)
  | text => (false, text)

/-- The value of decimal digits. -/
def digitsValue (digits : List Char) : Nat :=
  digits.foldl (fun value c => 10 * value + (c.toNat - '0'.toNat)) 0

/-- The exponent written at the end of a numeral; without one it is zero. -/
def exponent? : List Char → Option Int
  | [] => some 0
  | mark :: text =>
    let (negative, digits) := splitSign text
    if (mark = 'e' ∨ mark = 'E') ∧ digits ≠ [] ∧ digits.all Char.isDigit then
      some (if negative then -(digitsValue digits : Int) else digitsValue digits)
    else none

/-- The digits after a point, if there is one, and the text after them. -/
def splitFraction : List Char → List Char × List Char
  | '.' :: text => (text.takeWhile Char.isDigit, text.dropWhile Char.isDigit)
  | text => ([], text)

/-- The significand and the exponent of ten of an unsigned decimal numeral. -/
def decimal? (text : List Char) : Option (Nat × Int) :=
  let whole := text.takeWhile Char.isDigit
  let (fraction, rest) := splitFraction (text.dropWhile Char.isDigit)
  let digits := whole ++ fraction
  if digits = [] then none
  else (exponent? rest).map fun exponent => (digitsValue digits, exponent - fraction.length)

end Kite.Numeral

namespace Kite.Binary64

/-- The number that a numeral stands for. -/
def ofNumeral? (text : String) : Option Binary64 :=
  let (negative, unsigned) := Numeral.splitSign text.toList
  let word := String.ofList (unsigned.map Char.toLower)
  if word = "nan" then some .nan
  else if word = "inf" ∨ word = "infinity" then some (.signed negative infiniteMagnitude)
  else
    (Numeral.decimal? unsigned).map fun (significand, exponent) =>
      .signed negative (ofDecimal significand exponent)

end Kite.Binary64
