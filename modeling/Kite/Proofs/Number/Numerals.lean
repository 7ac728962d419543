import Kite.Proofs.Number.Exact

/-!
# Every number has a numeral

A multiple of `2 ^ (-1074)` is a multiple of `10 ^ (-1074)` too. So the exact value of a
number can be written as decimal digits with that exponent, and read as a numeral these
give the number back (`Binary64.exists_numeral`).
-/

set_option autoImplicit false

namespace Kite

namespace Numeral

theorem isDigit_digitChar : ∀ digit < 10, (Nat.digitChar digit).isDigit = true := by decide

theorem toNat_digitChar : ∀ digit < 10, (Nat.digitChar digit).toNat - '0'.toNat = digit := by
  decide

theorem digitsValue_append_singleton (digits : List Char) (c : Char) :
    digitsValue (digits ++ [c]) = 10 * digitsValue digits + (c.toNat - '0'.toNat) := by
  simp [digitsValue]

theorem exists_digits (value : Nat) :
    ∃ digits, digits ≠ [] ∧ (∀ c ∈ digits, c.isDigit = true) ∧ digitsValue digits = value := by
  induction value using Nat.strongRecOn with
  | ind value ih =>
    by_cases single : value < 10
    · refine ⟨[Nat.digitChar value], by simp, ?_, ?_⟩
      · simpa using isDigit_digitChar value single
      · simpa [digitsValue] using toNat_digitChar value single
    · obtain ⟨digits, -, decimal, same⟩ := ih (value / 10) (by omega)
      have last : value % 10 < 10 := Nat.mod_lt _ (by decide)
      refine ⟨digits ++ [Nat.digitChar (value % 10)], by simp, ?_, ?_⟩
      · intro c member
        rcases List.mem_append.mp member with earlier | here
        · exact decimal c earlier
        · rw [List.mem_singleton.mp here]
          exact isDigit_digitChar _ last
      · rw [digitsValue_append_singleton, same, toNat_digitChar _ last]
        omega

/-- Digits before an exponent are the significand. -/
theorem decimal?_of_digits {digits : List Char} (nonempty : digits ≠ [])
    (decimal : ∀ c ∈ digits, c.isDigit = true) :
    decimal? (digits ++ ['e', '-', '1', '0', '7', '4']) = some (digitsValue digits, -1074) := by
  have whole : (digits ++ ['e', '-', '1', '0', '7', '4']).takeWhile Char.isDigit = digits := by
    rw [List.takeWhile_append_of_pos decimal]
    simp
  have rest : (digits ++ ['e', '-', '1', '0', '7', '4']).dropWhile Char.isDigit =
      ['e', '-', '1', '0', '7', '4'] := by
    rw [List.dropWhile_append_of_pos decimal]
    rfl
  have exponent : exponent? ['e', '-', '1', '0', '7', '4'] = some (-1074) := by decide
  simp [decimal?, whole, rest, splitFraction, exponent, nonempty]

theorem splitSign_of_digits (negative : Bool) {digits rest : List Char} (nonempty : digits ≠ [])
    (decimal : ∀ c ∈ digits, c.isDigit = true) :
    splitSign ((if negative then ['-'] else []) ++ (digits ++ rest)) = (negative, digits ++ rest) := by
  cases negative with
  | true => rfl
  | false =>
    obtain ⟨first, others, rfl⟩ := List.exists_cons_of_ne_nil nonempty
    have digit := decimal first List.mem_cons_self
    change splitSign (first :: (others ++ rest)) = _
    unfold splitSign
    split
    next same => simp [(List.cons.inj same).1] at digit
    next same => simp [(List.cons.inj same).1] at digit
    next => rfl

/-- A text that ends with a digit is no word that ends otherwise. -/
theorem ne_word_of_digit (start : List Char) {word : String}
    (other : word.toList.getLast? ≠ some '4') :
    String.ofList ((start ++ ['e', '-', '1', '0', '7', '4']).map Char.toLower) ≠ word := by
  rintro rfl
  apply other
  have lower : Char.toLower '4' = '4' := by decide
  simp [lower]

end Numeral

namespace Binary64

open Numeral

/-- Decimal digits with an exponent are a number of the given sign. -/
theorem ofNumeral?_of_digits (negative : Bool) {digits : List Char} (nonempty : digits ≠ [])
    (decimal : ∀ c ∈ digits, c.isDigit = true) :
    ofNumeral? (String.ofList ((if negative then ['-'] else []) ++
      (digits ++ ['e', '-', '1', '0', '7', '4']))) =
      some (.signed negative (ofDecimal (digitsValue digits) (-1074))) := by
  have notNan : _ ≠ "nan" := ne_word_of_digit digits (by decide)
  have notInf : _ ≠ "inf" := ne_word_of_digit digits (by decide)
  have notInfinity : _ ≠ "infinity" := ne_word_of_digit digits (by decide)
  rw [ofNumeral?, String.toList_ofList, splitSign_of_digits negative nonempty decimal]
  simp only [notNan, notInf, notInfinity, decimal?_of_digits nonempty decimal]
  simp

/-- The exact decimal value of a magnitude is rounded to the magnitude itself. -/
theorem ofDecimal_multiple {pattern power : Nat} (bound : pattern < 0x7ff0000000000001)
    (unit : power = 1074) :
    ofDecimal (multiple pattern * Nat.pow 5 power) (-(power : Int)) = ⟨pattern, bound⟩ := by
  have positive : 0 < Nat.pow 5 power := Nat.pow_pos (by decide)
  have exact := ofRatio_multiple unit positive bound
  by_cases zero : multiple pattern = 0
  · rw [zero, Nat.zero_mul] at exact ⊢
    rw [← exact]
    simp [ofDecimal, ofRatio]
  have nonzero : multiple pattern * Nat.pow 5 power ≠ 0 := Nat.mul_ne_zero zero positive.ne'
  have notInfinite : ¬(400 : Int) ≤ -(power : Int) := by omega
  -- a factor of five is worth more than two powers of two
  have logarithm : 2 * power ≤ (multiple pattern * Nat.pow 5 power).log2 := by
    rw [Nat.le_log2 nonzero, Nat.pow_mul]
    have powers : (2 ^ 2) ^ power ≤ Nat.pow 5 power := Nat.pow_le_pow_left (by decide) power
    have scaled : Nat.pow 5 power ≤ multiple pattern * Nat.pow 5 power :=
      Nat.le_mul_of_pos_left _ (Nat.pos_of_ne_zero zero)
    exact powers.trans scaled
  have notZero : ¬((multiple pattern * Nat.pow 5 power).log2 : Int) + 1 + 3 * -(power : Int) <
      -1080 := by
    omega
  rw [ofDecimal, if_neg nonzero, if_neg notInfinite, if_neg notZero]
  have tens : Nat.pow 10 (-(-(power : Int))).toNat = Nat.pow 2 power * Nat.pow 5 power := by
    rw [neg_neg, Int.toNat_natCast]
    exact Nat.mul_pow 2 5 power
  have none : (-(power : Int)).toNat = 0 := by omega
  rw [tens, none]
  simpa using exact

/-- Every number is the value of a numeral. -/
theorem exists_numeral (value : Binary64) : ∃ text, ofNumeral? text = some value := by
  cases value with
  | nan => exact ⟨"nan", by decide⟩
  | signed negative magnitude =>
    -- with the power left open, nothing tries to compute it
    obtain ⟨power, unit⟩ : ∃ power, power = 1074 := ⟨_, rfl⟩
    obtain ⟨digits, nonempty, decimal, same⟩ :=
      exists_digits (multiple magnitude * Nat.pow 5 power)
    have exponent : (-1074 : Int) = -(power : Int) := by omega
    refine ⟨_, (ofNumeral?_of_digits negative nonempty decimal).trans ?_⟩
    rw [same, exponent, ofDecimal_multiple magnitude.isLt unit]

end Binary64

end Kite
