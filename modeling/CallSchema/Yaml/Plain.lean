import CallSchema.Number
import CallSchema.Yaml.Tag

/-!
What a plain scalar says: nothing, a truth value, a whole number, a floating-point number, or a
text where it is none of these.
-/
namespace CallSchema.Yaml.Plain

/-- Spellings of nothing. -/
def isNull (text : String) : Bool :=
  text == "~" || text == "null" || text == "Null" || text == "NULL"

/-- Spellings of a truth value. -/
def bool? (text : String) : Option Bool :=
  if text == "true" || text == "True" || text == "TRUE" then some true
  else if text == "false" || text == "False" || text == "FALSE" then some false
  else none

/-- The text without a leading sign. -/
def unsigned : List Char → List Char
  | '+' :: rest => rest
  | '-' :: rest => rest
  | text => text

/-- Whether a text starts with a sign. -/
def signed (text : List Char) : Bool := text.head? == some '+' || text.head? == some '-'

/-- Digits after a zero are no number. -/
def isPadded (text : List Char) : Bool :=
  match unsigned text with
  | '0' :: rest => !rest.isEmpty && rest.all fun c => '0' ≤ c && c ≤ '9'
  | _ => false

/-- The radix that leading characters announce, with the digits that follow. -/
def radix? : List Char → Option (Nat × List Char)
  | '0' :: 'x' :: rest => some (16, rest)
  | '0' :: 'o' :: rest => some (8, rest)
  | '0' :: 'b' :: rest => some (2, rest)
  | _ => none

/-- A number in an announced radix. -/
def readInRadix? (text : List Char) : Option Nat :=
  (radix? text).bind fun (radix, digits) => Decimal.read? radix digits

/-- Reads a whole number without a minus sign: decimal, or in the radix that is announced. -/
def natural? (text : List Char) : Option Nat :=
  let digits :=
    match text with
    | '+' :: rest => rest
    | text => text
  match readInRadix? digits with
  | some number => some number
  | none => if signed digits || isPadded text then none else Decimal.read? 10 digits

/-- Reads a whole number with a minus sign, without the sign. -/
def negated? (text : List Char) : Option Nat :=
  match text with
  | '-' :: rest =>
    match readInRadix? rest with
    | some number => some number
    | none => if isPadded text then none else Decimal.read? 10 rest
  | _ => none

/-- What a text says as a whole number: a number that fits 64 bits, one that fits only 128, or
none. -/
inductive Whole where
  | fits (number : Int)
  | tooGreat
  | none
  deriving DecidableEq

/-- Reads a whole number. -/
def whole (text : List Char) : Whole :=
  match natural? text with
  | some number =>
    if number < Nat.pow 2 64 then .fits number
    else if number < Nat.pow 2 128 then .tooGreat
    else .none
  | none =>
    match negated? text with
    | some number =>
      if number ≤ Nat.pow 2 63 then .fits (-number)
      else if number ≤ Nat.pow 2 127 then .tooGreat
      else .none
    | none => .none

/-- Leading decimal digits and what follows them. -/
def spanDigits (text : List Char) : List Char × List Char :=
  text.span fun c => '0' ≤ c && c ≤ '9'

/-- The value of decimal digits. -/
def digitsValue (digits : List Char) : Nat := (Decimal.read? 10 digits).getD 0

/-- Reads the exponent after digits, if there is one and nothing else. -/
def exponent? : List Char → Option Int
  | [] => some 0
  | c :: rest =>
    if c == 'e' || c == 'E' then
      let digits := unsigned rest
      (Decimal.read? 10 digits).bind fun number =>
        if digits.all fun d => '0' ≤ d && d ≤ '9' then
          some (if rest.head? == some '-' then -(number : Int) else number)
        else none
    else none

/-- Reads digits with a point among them or beside them, and an exponent. A number too great to be
finite is none. -/
def decimal? (text : List Char) : Option Binary64 :=
  let (whole, rest) := spanDigits (unsigned text)
  let (fraction, rest) :=
    match rest with
    | '.' :: rest => spanDigits rest
    | rest => ([], rest)
  if whole.isEmpty && fraction.isEmpty then none
  else
    (exponent? rest).bind fun exponent =>
      Binary64.ofScaled? (text.head? == some '-')
        ⟨digitsValue (whole ++ fraction), exponent - fraction.length⟩

/-- Reads a floating-point number. -/
def float? (text : String) : Option Binary64 :=
  let unplussed :=
    match text.toList with
    | '+' :: rest => rest
    | chars => chars
  let word := String.ofList unplussed
  if text.toList.head? == some '+' && signed unplussed then none
  else if word == ".inf" || word == ".Inf" || word == ".INF" then some (.infinite false)
  else if text == "-.inf" || text == "-.Inf" || text == "-.INF" then some (.infinite true)
  else if text == ".nan" || text == ".NaN" || text == ".NAN" then some .notANumber
  else decimal? unplussed

/-- What a plain scalar says. -/
inductive Meaning where
  | null
  | bool (value : Bool)
  | int (number : Int)
  | tooGreat
  | float (number : Binary64)
  | text
  deriving DecidableEq

/-- Reads a plain scalar. -/
def meaning (text : String) : Meaning :=
  let chars := text.toList
  if chars.isEmpty || isNull text then .null
  else
    match bool? text, whole chars with
    | some value, _ => .bool value
    | none, .fits number => .int number
    | none, .tooGreat => .tooGreat
    | none, .none =>
      if isPadded chars then .text
      else
        match float? text with
        | some number => .float number
        | none => .text

end CallSchema.Yaml.Plain
