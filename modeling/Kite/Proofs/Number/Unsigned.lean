import Mathlib.Data.List.TakeWhile
import Kite.Number.Numeral
import Kite.Segment.Scan

/-!
# Numbers of the scanner are numerals

The scanner takes digits and points as a number as long as there are no two points among
them. With a digit among them such a text is a numeral without sign and exponent, so it
has a value, which is neither not-a-number nor negative (`Binary64.exists_ofNumeral?`).
-/

set_option autoImplicit false

namespace Kite

/-- A text that the scanner may take as a number. -/
structure Segment.NumberText (text : List Char) : Prop where
  continues : ∀ c ∈ text, continuesNumber c = true
  points : text.count '.' ≤ 1
  digit : ∃ c ∈ text, c.isDigit = true

namespace Numeral

/-- Digits, and a point with digits behind it if there is one. -/
inductive Plain : List Char → Prop where
  | whole {digits : List Char} (decimal : ∀ c ∈ digits, c.isDigit = true) : Plain digits
  | fraction {whole digits : List Char} (decimal : ∀ c ∈ whole, c.isDigit = true)
      (decimals : ∀ c ∈ digits, c.isDigit = true) : Plain (whole ++ '.' :: digits)

theorem isDigit_of_continuesNumber {c : Char} (continues : Segment.continuesNumber c = true)
    (notPoint : c ≠ '.') : c.isDigit = true := by
  simpa [Segment.continuesNumber, notPoint] using continues

/-- The first point parts a text with at most one point into digits and digits. -/
theorem plain_of_points {text : List Char}
    (continues : ∀ c ∈ text, Segment.continuesNumber c = true) (points : text.count '.' ≤ 1) :
    Plain text := by
  by_cases point : '.' ∈ text
  · obtain ⟨whole, digits, rfl, before⟩ := List.eq_append_cons_of_mem point
    obtain ⟨first, second⟩ := List.forall_mem_append.mp continues
    have behind : '.' ∉ digits := by
      intro another
      have counted := List.count_pos_iff.mpr another
      simp [List.count_append] at points
      omega
    refine .fraction (fun c member => ?_) (fun c member => ?_)
    · exact isDigit_of_continuesNumber (first c member) fun same => before (same ▸ member)
    · exact isDigit_of_continuesNumber (second c (List.mem_cons_of_mem _ member))
        fun same => behind (same ▸ member)
  · exact .whole fun c member =>
      isDigit_of_continuesNumber (continues c member) fun same => point (same ▸ member)

/-- Digits with a point among them, but no other text, are the digits of a numeral. -/
theorem Plain.decimal?_isSome {text : List Char} (plain : Plain text)
    (digit : ∃ c ∈ text, c.isDigit = true) : (decimal? text).isSome = true := by
  have point : Char.isDigit '.' = false := by decide
  cases plain with
  | whole decimal =>
    have all : text.takeWhile Char.isDigit = text := List.takeWhile_eq_self_iff.mpr decimal
    have none : text.dropWhile Char.isDigit = [] := List.dropWhile_eq_nil_iff.mpr decimal
    obtain ⟨c, member, -⟩ := digit
    simp [decimal?, all, none, splitFraction, exponent?, List.ne_nil_of_mem member]
  | @fraction whole digits decimal decimals =>
    have before : (whole ++ '.' :: digits).takeWhile Char.isDigit = whole := by
      rw [List.takeWhile_append_of_pos decimal]
      simp [point]
    have after : (whole ++ '.' :: digits).dropWhile Char.isDigit = '.' :: digits := by
      rw [List.dropWhile_append_of_pos decimal]
      simp [point]
    have all : digits.takeWhile Char.isDigit = digits := List.takeWhile_eq_self_iff.mpr decimals
    have none : digits.dropWhile Char.isDigit = [] := List.dropWhile_eq_nil_iff.mpr decimals
    have some : whole = [] → digits ≠ [] := by
      rintro rfl rfl
      obtain ⟨c, member, isDigit⟩ := digit
      obtain rfl := List.mem_singleton.mp member
      simp [point] at isDigit
    simpa [decimal?, before, after, splitFraction, all, none, exponent?] using some

theorem splitSign_of_continues {text : List Char}
    (continues : ∀ c ∈ text, Segment.continuesNumber c = true) :
    splitSign text = (false, text) := by
  unfold splitSign
  split
  next rest => exact absurd (continues '-' List.mem_cons_self) (by decide)
  next rest => exact absurd (continues '+' List.mem_cons_self) (by decide)
  next => rfl

theorem toLower_of_isDigit {c : Char} (digit : c.isDigit = true) : c.toLower = c := by
  have small : c.val ≤ '9'.val := by
    simpa using (Bool.and_eq_true_iff.mp digit).2
  unfold Char.toLower
  rw [dif_neg]
  rintro ⟨large, -⟩
  exact absurd (UInt32.le_trans large small) (by decide)

/-- A text with a digit is none of the words that stand for numbers. -/
theorem ne_word_of_mem {text : List Char} {c : Char} (member : c ∈ text)
    (digit : c.isDigit = true) {word : String} (letters : word.toList.any Char.isDigit = false) :
    String.ofList (text.map Char.toLower) ≠ word := by
  rintro rfl
  have listed : c ∈ (String.ofList (text.map Char.toLower)).toList := by
    rw [String.toList_ofList]
    exact List.mem_map.mpr ⟨c, member, toLower_of_isDigit digit⟩
  exact Bool.eq_false_iff.mp letters (List.any_eq_true.mpr ⟨c, listed, digit⟩)

end Numeral

/-- What the scanner takes as a number has a value, which is neither not-a-number nor negative. -/
theorem Binary64.exists_ofNumeral? {text : String} (number : Segment.NumberText text.toList) :
    ∃ magnitude, ofNumeral? text = some (.signed false magnitude) := by
  obtain ⟨continues, points, digit⟩ := number
  have plain := Numeral.plain_of_points continues points
  obtain ⟨⟨significand, exponent⟩, value⟩ := Option.isSome_iff_exists.mp (plain.decimal?_isSome digit)
  obtain ⟨c, member, isDigit⟩ := digit
  have notNan : _ ≠ "nan" := Numeral.ne_word_of_mem member isDigit rfl
  have notInf : _ ≠ "inf" := Numeral.ne_word_of_mem member isDigit rfl
  have notInfinity : _ ≠ "infinity" := Numeral.ne_word_of_mem member isDigit rfl
  refine ⟨ofDecimal significand exponent, ?_⟩
  rw [ofNumeral?, Numeral.splitSign_of_continues continues]
  simp only [notNan, notInf, notInfinity, value]
  simp

end Kite
