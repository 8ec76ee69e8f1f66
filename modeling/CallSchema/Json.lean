import CallSchema.Number

/-!
JSON values and their two texts: in one line without blanks, and over several lines with two
blanks for each level. Within a string only quotes, backslashes and controls are escaped.
-/
namespace CallSchema

/-- A JSON value. The fields of an object keep their order. -/
inductive Json where
  | null
  | bool (value : Bool)
  | int (number : Int)
  | float (number : Binary64)
  | string (text : String)
  | array (items : List Json)
  | object (fields : List (String × Json))

instance : Inhabited Json := ⟨.null⟩

namespace Json

/-- The number of a 64-bit word. -/
def word (number : UInt64) : Json := .int number.toNat

/-- A digit of a hexadecimal number, in lower case. -/
def hexDigit (worth : Nat) : Char := (Nat.digitChar worth)

/-- One character inside a string. -/
def escapedChar (c : Char) : String :=
  match c with
  | '\x22' => "\\\""
  | '\\' => "\\\\"
  | '\x08' => "\\b"
  | '\t' => "\\t"
  | '\n' => "\\n"
  | '\x0c' => "\\f"
  | '\r' => "\\r"
  | c =>
    if c.toNat < 0x20 then
      String.ofList ['\\', 'u', '0', '0', hexDigit (c.toNat / 16), hexDigit (c.toNat % 16)]
    else String.singleton c

/-- A string with its quotes. -/
def stringText (text : String) : String :=
  "\"" ++ String.join (text.toList.map escapedChar) ++ "\""

/-- A floating-point number; what is not finite has no number in JSON. -/
def floatText : Binary64 → String
  | .finite negative mantissa exponent =>
    (Binary64.finite negative mantissa exponent).text Binary64.serialSpelling
  | _ => "null"

mutual

/-- The text in one line. -/
def compact : Json → String
  | .null => "null"
  | .bool value => if value then "true" else "false"
  | .int number => Decimal.integer number
  | .float number => floatText number
  | .string text => stringText text
  | .array items => "[" ++ compactItems items ++ "]"
  | .object fields => "\x7b" ++ compactFields fields ++ "\x7d"

/-- Items with commas between them. -/
def compactItems : List Json → String
  | [] => ""
  | [item] => item.compact
  | item :: rest => item.compact ++ "," ++ compactItems rest

/-- Fields with commas between them. -/
def compactFields : List (String × Json) → String
  | [] => ""
  | [(name, value)] => stringText name ++ ":" ++ value.compact
  | (name, value) :: rest => stringText name ++ ":" ++ value.compact ++ "," ++ compactFields rest

end

/-- A new line with its indentation. -/
def newLine (level : Nat) : String := "\n" ++ String.ofList (List.replicate (2 * level) ' ')

mutual

/-- The text over several lines, at a level of nesting; what is empty stays in one line. -/
def prettyAt (level : Nat) : Json → String
  | .null => "null"
  | .bool value => if value then "true" else "false"
  | .int number => Decimal.integer number
  | .float number => floatText number
  | .string text => stringText text
  | .array [] => "[]"
  | .array items => "[" ++ prettyItems (level + 1) items ++ newLine level ++ "]"
  | .object [] => "\x7b\x7d"
  | .object fields => "\x7b" ++ prettyFields (level + 1) fields ++ newLine level ++ "\x7d"

/-- Items on lines of their own. -/
def prettyItems (level : Nat) : List Json → String
  | [] => ""
  | [item] => newLine level ++ item.prettyAt level
  | item :: rest => newLine level ++ item.prettyAt level ++ "," ++ prettyItems level rest

/-- Fields on lines of their own. -/
def prettyFields (level : Nat) : List (String × Json) → String
  | [] => ""
  | [(name, value)] => newLine level ++ stringText name ++ ": " ++ value.prettyAt level
  | (name, value) :: rest =>
    newLine level ++ stringText name ++ ": " ++ value.prettyAt level ++ "," ++
      prettyFields level rest

end

/-- The text over several lines. -/
def pretty (value : Json) : String := value.prettyAt 0

end Json
end CallSchema
