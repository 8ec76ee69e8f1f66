/-!
Numbers and their texts. Whole numbers are written in decimal digits, and the digits of a radix are
read back. Floating-point numbers of 64 bits are exact values: a decimal number is read as the
nearest of them, a tie going to the even mantissa, and a number is written with the fewest digits
that read back as the same number, and of those the nearest. All arithmetic is on natural numbers.
-/
namespace CallSchema

/-! ### Whole numbers -/

namespace Decimal

/-- The decimal digits of a number, without leading zeros. -/
def natural (number : Nat) : String := String.ofList (Nat.toDigits 10 number)

/-- The decimal digits of a number, after a minus sign if it is negative. -/
def integer : Int → String
  | .ofNat number => natural number
  | .negSucc number => "-" ++ natural (number + 1)

/-- The value of a digit in any radix up to sixteen; letters of either case stand for ten and
more. -/
def digitValue? (digit : Char) : Option Nat :=
  if '0' ≤ digit ∧ digit ≤ '9' then some (digit.toNat - '0'.toNat)
  else if 'a' ≤ digit ∧ digit ≤ 'f' then some (digit.toNat - 'a'.toNat + 10)
  else if 'A' ≤ digit ∧ digit ≤ 'F' then some (digit.toNat - 'A'.toNat + 10)
  else none

/-- Reads further digits after those already worth `value`. -/
def continue? (radix : Nat) : Nat → List Char → Option Nat
  | value, [] => some value
  | value, digit :: rest =>
    match digitValue? digit with
    | none => none
    | some worth => if worth < radix then continue? radix (value * radix + worth) rest else none

/-- Reads a number that consists of one digit of the radix or more, and of nothing else. -/
def read? (radix : Nat) (digits : List Char) : Option Nat :=
  if digits.isEmpty then none else continue? radix 0 digits

end Decimal

/-! ### Floating-point numbers -/

/-- A number `± mantissa · 2 ^ exponent`, an infinity, or no number at all. -/
inductive Binary64 where
  | notANumber
  | infinite (negative : Bool)
  | finite (negative : Bool) (mantissa : Nat) (exponent : Int)
  deriving DecidableEq

namespace Binary64

/-- A positive decimal number `digits · 10 ^ exponent`. -/
structure Scaled where
  digits : Nat
  exponent : Int
  deriving DecidableEq

/-- The least exponent; the numbers that have it are the subnormal ones and their neighbours. -/
def leastExponent : Int := -1074

/-- The greatest exponent of a finite number. -/
def greatestExponent : Int := 971

/-- The number of decimal digits. -/
def width (number : Nat) : Nat := (Nat.toDigits 10 number).length

/-- A quotient rounded to the nearest whole number, halves to the even one. -/
def roundedQuotient (numerator denominator : Nat) : Nat :=
  let below := numerator / denominator
  let twice := 2 * (numerator % denominator)
  if twice < denominator then below
  else if denominator < twice then below + 1
  else if below % 2 = 0 then below else below + 1

/-- Numerator and denominator of a quotient divided by a power of two. -/
def divided (numerator denominator : Nat) (power : Int) : Nat × Nat :=
  (numerator * Nat.pow 2 (-power).toNat, denominator * Nat.pow 2 power.toNat)

/-- Mantissa and exponent of the number nearest to a positive quotient, were there no greatest
exponent. -/
def nearest (numerator denominator : Nat) : Nat × Int :=
  let guess : Int := (numerator.log2 : Int) - denominator.log2 - 52
  let atGuess := divided numerator denominator guess
  let exponent := if atGuess.1 < Nat.pow 2 52 * atGuess.2 then guess - 1 else guess
  let exponent := max exponent leastExponent
  let quotient := divided numerator denominator exponent
  let mantissa := roundedQuotient quotient.1 quotient.2
  if mantissa = Nat.pow 2 53 then (Nat.pow 2 52, exponent + 1) else (mantissa, exponent)

/-- The number nearest to a decimal one, unless that is too great to be finite. -/
def ofScaled? (negative : Bool) (decimal : Scaled) : Option Binary64 :=
  let magnitude := decimal.exponent + width decimal.digits
  if decimal.digits = 0 ∨ magnitude < -330 then some (.finite negative 0 leastExponent)
  else if 310 < magnitude then none
  else
    let number := nearest (decimal.digits * Nat.pow 10 decimal.exponent.toNat)
      (Nat.pow 10 (-decimal.exponent).toNat)
    if greatestExponent < number.2 then none else some (.finite negative number.1 number.2)

/-- The place of the first digit: the greatest power of ten that is not above a positive
quotient. -/
def leadingPower (numerator denominator : Nat) : Int :=
  if denominator ≤ numerator then (width (numerator / denominator) : Int) - 1
  else -(width ((denominator + numerator - 1) / numerator - 1) : Int)

/-- A decimal number, times four and the given denominator, set against a numerator. -/
def scaledBy (digits : Nat) (power : Int) (numerator denominator : Nat) : Nat × Nat :=
  (digits * Nat.pow 10 power.toNat * denominator, numerator * Nat.pow 10 (-power).toNat)

/-- The decimal number with a given count of digits that reads back as `mantissa · 2 ^ exponent`
and is nearest to it, if one of that count reads back. -/
def digitsOfCount? (mantissa : Nat) (exponent : Int) (count : Nat) : Option Scaled :=
  let quarters := Nat.pow 2 (exponent - 2).toNat
  let denominator := Nat.pow 2 (2 - exponent).toNat
  let value := 4 * mantissa * quarters
  let narrow := mantissa = Nat.pow 2 52 ∧ leastExponent < exponent
  let low := (4 * mantissa - if narrow then 1 else 2) * quarters
  let high := (4 * mantissa + 2) * quarters
  let even := mantissa % 2 = 0
  let power := leadingPower value denominator - count + 1
  let at0 := scaledBy 1 power value denominator
  let below := at0.2 / at0.1
  let above := below + 1
  let lowest := scaledBy below power low denominator
  let highest := scaledBy above power high denominator
  let belowReadsBack := lowest.2 < lowest.1 ∨ (even ∧ lowest.2 = lowest.1)
  let aboveReadsBack := highest.1 < highest.2 ∨ (even ∧ highest.1 = highest.2)
  let middle := scaledBy (2 * below + 1) power (2 * value) denominator
  if belowReadsBack ∧ aboveReadsBack then
    if middle.2 < middle.1 ∨ (middle.2 = middle.1 ∧ below % 2 = 0) then some ⟨below, power⟩
    else some ⟨above, power⟩
  else if belowReadsBack then some ⟨below, power⟩
  else if aboveReadsBack then some ⟨above, power⟩
  else none

/-- Zeros at the end of the digits, moved into the exponent. -/
def withoutTrailingZeros : Nat → Scaled → Scaled
  | 0, decimal => decimal
  | steps + 1, decimal =>
    if decimal.digits % 10 = 0 then
      withoutTrailingZeros steps ⟨decimal.digits / 10, decimal.exponent + 1⟩
    else decimal

/-- The decimal number of fewest digits that reads back as `mantissa · 2 ^ exponent`; seventeen
digits always do. -/
def shortest (mantissa : Nat) (exponent : Int) : Scaled :=
  let counts := (List.range 17).map (· + 1)
  match counts.findSome? (digitsOfCount? mantissa exponent) with
  | some decimal => withoutTrailingZeros 20 decimal
  | none => ⟨0, 0⟩

/-- How numbers are spelt: where the point may stand in the digits, counted from before the
first, for the number to be written without an exponent (anywhere if there is no range), what
comes before an exponent that is not negative, and the words for what is not finite. -/
structure Spelling where
  positional : Option (Int × Int)
  exponentLead : String
  infinity : String
  notANumber : String

/-- Numbers in documents have an exponent from `1e16` up and below `1e-5`. -/
def documentSpelling : Spelling := ⟨some (-4, 16), "", ".inf", ".nan"⟩

/-- Numbers in serialised documents have an exponent where documents have one, and a sign before
it in any case. What is not finite is no number there. -/
def serialSpelling : Spelling := ⟨some (-4, 16), "+", "null", "null"⟩

/-- Numbers in messages never have an exponent. -/
def messageSpelling : Spelling := ⟨none, "", "inf", "NaN"⟩

private def zeros (count : Nat) : String := String.ofList (List.replicate count '0')

/-- Digits without an exponent; a whole number ends in `.0`. -/
def positionalText (digits : List Char) (exponent : Int) : String :=
  let point : Int := digits.length + exponent
  if 0 ≤ exponent then String.ofList digits ++ zeros exponent.toNat ++ ".0"
  else if 0 < point then
    String.ofList (digits.take point.toNat) ++ "." ++ String.ofList (digits.drop point.toNat)
  else "0." ++ zeros (-point).toNat ++ String.ofList digits

/-- One digit, the others after a point, and the power of ten, after a lead if that is not
negative. -/
def exponentText (lead : String) (digits : List Char) (exponent : Int) : String :=
  let number : Int := digits.length + exponent - 1
  let power := (if 0 ≤ number then lead else "") ++ Decimal.integer number
  match digits with
  | [digit] => String.singleton digit ++ "e" ++ power
  | digit :: rest => String.singleton digit ++ "." ++ String.ofList rest ++ "e" ++ power
  | [] => "0.0"

/-- The text of a positive decimal number. -/
def decimalText (spelling : Spelling) (decimal : Scaled) : String :=
  let digits := Nat.toDigits 10 decimal.digits
  let point : Int := digits.length + decimal.exponent
  match spelling.positional with
  | none => positionalText digits decimal.exponent
  | some (least, greatest) =>
    if least ≤ point ∧ point ≤ greatest then positionalText digits decimal.exponent
    else exponentText spelling.exponentLead digits decimal.exponent

/-- The text of a number. -/
def text (spelling : Spelling) : Binary64 → String
  | .notANumber => spelling.notANumber
  | .infinite negative => (if negative then "-" else "") ++ spelling.infinity
  | .finite negative mantissa exponent =>
    (if negative then "-" else "") ++
      if mantissa = 0 then "0.0" else decimalText spelling (shortest mantissa exponent)

/-- Equality of numbers: the two zeros are equal, and what is no number equals itself. -/
def same : Binary64 → Binary64 → Bool
  | .finite _ 0 _, .finite _ 0 _ => true
  | a, b => decide (a = b)

end Binary64

end CallSchema
