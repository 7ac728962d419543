/-!
# Double-precision numbers

A double-precision number is not-a-number or has a sign and a magnitude. A magnitude is
given by its 63-bit pattern: patterns ascend with the magnitudes they stand for, from
zero through the subnormal and normal numbers up to infinity. `Binary64.ofRatio` and
`Binary64.ofDecimal` round an exact value to the nearest number; of two equally near
ones the pattern that is even wins.
-/

set_option autoImplicit false

namespace Kite

/-- A double-precision number; all ways of being not-a-number are one. -/
inductive Binary64 where
  | nan
  | signed (negative : Bool) (magnitude : Fin 0x7ff0000000000001)
  deriving DecidableEq, Repr

namespace Binary64

/-- The magnitude of infinity. -/
def infiniteMagnitude : Fin 0x7ff0000000000001 := ⟨0x7ff0000000000000, by decide⟩

/-- The number whose 64 bits, sign first, are given; any pattern above infinity is
not-a-number. -/
def ofBits (bits : Nat) : Binary64 :=
  let magnitude := bits % Nat.pow 2 63
  if bound : magnitude < 0x7ff0000000000001 then .signed (bits.testBit 63) ⟨magnitude, bound⟩
  else .nan

/-- The 64 bits of a number, sign first. -/
def bits? : Binary64 → Option Nat
  | .nan => none
  | .signed negative magnitude => some ((if negative then Nat.pow 2 63 else 0) + magnitude.val)

/-- The quotient of two naturals rounded to the nearest natural, a half to the even one. -/
def roundedQuotient (numerator denominator : Nat) : Nat :=
  let quotient := numerator / denominator
  let remainder := numerator % denominator
  if 2 * remainder < denominator ∨ 2 * remainder = denominator ∧ quotient % 2 = 0 then quotient
  else quotient + 1

/-- The greatest exponent of two that does not exceed a ratio of two positive naturals. -/
def floorLog (numerator denominator : Nat) : Int :=
  let estimate := (numerator.log2 : Int) - denominator.log2
  if numerator * Nat.pow 2 (-estimate).toNat < denominator * Nat.pow 2 estimate.toNat then
    estimate - 1
  else estimate

/-- The magnitude nearest to a ratio of naturals. Numbers near the ratio are multiples of
`2 ^ scale`, which keeps 53 significant bits unless the ratio is subnormal. -/
def ofRatio (numerator denominator : Nat) : Fin 0x7ff0000000000001 :=
  if numerator = 0 then 0
  else
    let scale := max (floorLog numerator denominator - 52) (-1074)
    let significand :=
      roundedQuotient (numerator * Nat.pow 2 (-scale).toNat) (denominator * Nat.pow 2 scale.toNat)
    -- a significand of `2 ^ 52` adds one to the exponent field, rounding up to `2 ^ 53` one more
    let pattern := (scale + 1074).toNat * Nat.pow 2 52 + significand
    if bound : pattern < 0x7ff0000000000001 then ⟨pattern, bound⟩ else infiniteMagnitude

/-- The magnitude nearest to `significand * 10 ^ exponent`. Values of `10 ^ 400` and more are
infinite and values below `2 ^ (-1080)` are zero, so that no greater power is computed. -/
def ofDecimal (significand : Nat) (exponent : Int) : Fin 0x7ff0000000000001 :=
  if significand = 0 then 0
  else if 400 ≤ exponent then infiniteMagnitude
  else if significand.log2 + 1 + 3 * exponent < -1080 then 0
  else ofRatio (significand * Nat.pow 10 exponent.toNat) (Nat.pow 10 (-exponent).toNat)

end Binary64

end Kite
