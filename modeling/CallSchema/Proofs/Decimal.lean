import CallSchema.Yaml.Plain

/-!
Whole numbers that are read back from their decimal digits. The digits have no leading zero and no
letter that announces a radix, so a plain scalar that consists of them says the number and nothing
else, as long as the number fits 64 bits.
-/
namespace CallSchema

namespace Decimal
variable {number : Nat}

theorem digitValue?_of_isDigit {digit : Char} (decimal : digit.isDigit = true) :
    digitValue? digit = some (digit.toNat - '0'.toNat) := by
  have bounds : '0' ≤ digit ∧ digit ≤ '9' := by
    simpa [Char.le_def, UInt32.le_iff_toNat_le] using Char.isDigit_iff_toNat.mp decimal
  rw [digitValue?, if_pos bounds]

/-- Reading on through decimal digits is what the digits are worth. -/
theorem continue?_eq_ofDigitChars {digits : List Char} (value : Nat)
    (decimal : ∀ digit ∈ digits, digit.isDigit = true) :
    continue? 10 value digits = some (Nat.ofDigitChars 10 digits value) := by
  induction digits generalizing value with
  | nil => simp [continue?]
  | cons digit rest ih =>
    have first := decimal digit List.mem_cons_self
    have small : digit.toNat - '0'.toNat < 10 := by
      have bounds := Char.isDigit_iff_toNat.mp first
      have zero : '0'.toNat = 48 := rfl
      have nine : '9'.toNat = 57 := rfl
      omega
    rw [continue?, digitValue?_of_isDigit first]
    simp only [small, if_true]
    rw [ih _ fun digit member => decimal digit (List.mem_cons_of_mem _ member),
      Nat.ofDigitChars_cons, Nat.mul_comm]

theorem isDigit_of_mem_natural {digit : Char} (member : digit ∈ (natural number).toList) :
    digit.isDigit = true := by
  rw [natural, String.toList_ofList] at member
  exact Nat.isDigit_of_mem_toDigits (by decide) (by decide) member

theorem not_mem_natural {c : Char} (other : c.isDigit = false) : c ∉ (natural number).toList :=
  fun member => Bool.eq_false_iff.mp other (isDigit_of_mem_natural member)

/-- The digits of a number are read back as the number. -/
theorem read?_natural (number : Nat) : read? 10 (natural number).toList = some number := by
  have some_digit : (natural number).toList ≠ [] := by
    rw [natural, String.toList_ofList]
    exact Nat.toDigits_ne_nil
  rw [read?, if_neg (by simpa using some_digit),
    continue?_eq_ofDigitChars 0 fun digit => isDigit_of_mem_natural, natural,
    String.toList_ofList, Nat.ofDigitChars_ten_toDigits]

/-- A zero leads only where it is the only digit. -/
theorem natural_eq_cons (number : Nat) :
    ∃ digit rest, (natural number).toList = digit :: rest ∧ digit.isDigit = true ∧
      (digit = '0' → rest = []) := by
  rw [natural, String.toList_ofList]
  induction number using Nat.base_induction 10 (by decide) with
  | single number small =>
    exact ⟨_, _, Nat.toDigits_of_lt_base small, by simp [small], fun _ => rfl⟩
  | digit upper last small positive ih =>
    obtain ⟨digit, rest, lead, decimal, zero⟩ := ih
    rw [← Nat.toDigits_append_toDigits (by decide) positive small, lead]
    refine ⟨digit, rest ++ Nat.toDigits 10 last, rfl, decimal, fun same => absurd positive ?_⟩
    -- a number whose only digit is a zero is no upper part
    rw [← @Nat.ofDigitChars_ten_toDigits upper, lead, same, zero same]
    decide

end Decimal

namespace Yaml.Plain

/-- Digits that can only be read as a decimal number: they have no sign, announce no radix and are
not padded, not even after a minus sign. -/
structure Bare (digits : List Char) : Prop where
  unplussed : ∀ rest, digits ≠ '+' :: rest
  unsigned : signed digits = false
  decimal : readInRadix? digits = none
  unpadded : isPadded digits = false
  unpadded_negated : isPadded ('-' :: digits) = false

theorem bare_natural (number : Nat) : Bare (Decimal.natural number).toList := by
  obtain ⟨digit, rest, lead, decimal, zero⟩ := Decimal.natural_eq_cons number
  have plus : digit ≠ '+' := by
    rintro rfl
    exact absurd decimal (by decide)
  have minus : digit ≠ '-' := by
    rintro rfl
    exact absurd decimal (by decide)
  rw [lead]
  by_cases leading : digit = '0'
  · rw [leading, zero leading]
    exact ⟨by simp, rfl, rfl, rfl, rfl⟩
  · constructor
    · simp [plus]
    · simp [signed, plus, minus]
    · simp [readInRadix?, radix?, leading]
    · simp [isPadded, unsigned, plus, minus, leading]
    · simp [isPadded, unsigned, leading]

/-- The digits of a number say the number. -/
theorem natural?_natural (number : Nat) :
    natural? (Decimal.natural number).toList = some number := by
  obtain ⟨unplussed, unsigned, decimal, unpadded, _⟩ := bare_natural number
  have read := Decimal.read?_natural number
  generalize (Decimal.natural number).toList = digits at *
  simp [natural?, unsigned, decimal, unpadded, read]

/-- The digits of a number after a minus sign are no number without one. -/
theorem natural?_negated (number : Nat) :
    natural? ('-' :: (Decimal.natural number).toList) = none := by
  simp [natural?, readInRadix?, radix?, signed]

/-- The digits of a number after a minus sign say the number with one. -/
theorem negated?_natural (number : Nat) :
    negated? ('-' :: (Decimal.natural number).toList) = some number := by
  have bare := bare_natural number
  simp [negated?, bare.decimal, bare.unpadded_negated, Decimal.read?_natural]

/-- A number that fits 64 bits is said by its digits. -/
theorem whole_natural {number : Nat} (fits : number < Nat.pow 2 64) :
    whole (Decimal.natural number).toList = .fits number := by
  simp only [whole, natural?_natural, fits, if_true]

/-- A number that fits 64 bits, with a sign or without, is said by its digits. -/
theorem whole_integer {number : Int} (lower : -(Nat.pow 2 63 : Int) ≤ number)
    (upper : number < Nat.pow 2 64) :
    whole (Decimal.integer number).toList = .fits number := by
  cases number with
  | ofNat number => exact whole_natural (Int.ofNat_lt.mp upper)
  | negSucc number =>
    have fits : number + 1 ≤ Nat.pow 2 63 := by omega
    have sign : (Decimal.integer (.negSucc number)).toList =
        '-' :: (Decimal.natural (number + 1)).toList := by
      simp [Decimal.integer]
    rw [whole, sign, natural?_negated, negated?_natural]
    simp only [fits, if_true]
    rfl

section Said
variable {text : String} {number : Int} (said : whole text.toList = .fits number)
include said

/-- A text that says a whole number is not a text that says none. -/
theorem ne_of_whole (word : String) (none : whole word.toList = .none) : text ≠ word := by
  rintro rfl
  cases none.symm.trans said

theorem isEmpty_eq_false : text.toList.isEmpty = false := by
  have other := ne_of_whole said "" (by decide)
  simpa using other

/-- No spelling of nothing says a whole number. -/
theorem isNull_eq_false : isNull text = false := by
  have other := ne_of_whole said
  simp [isNull, other "~" (by decide), other "null" (by decide), other "Null" (by decide),
    other "NULL" (by decide)]

/-- No spelling of a truth value says a whole number. -/
theorem bool?_eq_none : bool? text = none := by
  have other := ne_of_whole said
  simp [bool?, other "true" (by decide), other "True" (by decide), other "TRUE" (by decide),
    other "false" (by decide), other "False" (by decide), other "FALSE" (by decide)]

/-- A text that says a whole number that fits 64 bits means that number. -/
theorem meaning_eq_int : meaning text = .int number := by
  rw [meaning, isEmpty_eq_false said, isNull_eq_false said, bool?_eq_none said, said]
  rfl

end Said

end Yaml.Plain
end CallSchema
