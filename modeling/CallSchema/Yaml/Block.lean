import CallSchema.Yaml.Page
import CallSchema.Yaml.Value

/-!
Values in block style: an item of a sequence behind a dash, an entry of a mapping on its own line,
what belongs to it two blanks further in. A sequence in an entry is not indented. Empty
collections are written in brackets, and a key that is too long or no simple one stands behind a
question mark.
-/
namespace CallSchema.Yaml

/-- Where a value stands. -/
inductive Place where
  | root
  | item
  | key
  | entry
  deriving DecidableEq

/-- The indentation of what a value holds. -/
def deeper (indent : Option Nat) (outermost : Nat) : Nat :=
  match indent with
  | none => outermost
  | some indent => indent + 2

/-- What is written of a tag's name after its exclamation mark; an exclamation mark that the name
begins with is the tag's own. -/
def writtenLabel (label : String) : String :=
  match (bareLabel label).toList with
  | '!' :: rest => String.ofList rest
  | chars => String.ofList chars

/-- Writes a tag as a word: its name after an exclamation mark, or in brackets if it has none. -/
def Page.tag (page : Page) (label : String) : Page :=
  let stands (c : Char) : Bool :=
    isNameChar c || bracketedTagChars.contains c ||
      (tagChars.contains c && c != '%' && c != '!')
  let octet (octet : UInt8) : String := "%" ++ Style.hexadecimal 2 octet.toNat
  let letter (c : Char) : String :=
    if stands c then String.singleton c else String.join ((Tag.octetsOf c.toString).map octet)
  let name := (writtenLabel label).toList
  if name.isEmpty then page.word "!<%21>"
  else page.word ("!" ++ String.join (name.map letter))

namespace Value

/-- The text of a scalar with the style asked for. -/
def scalarText? : Value → Option (Style × String)
  | .null => some (.plain, "null")
  | .bool value => some (.plain, if value then "true" else "false")
  | .int number => some (.plain, Decimal.integer number)
  | .float number => some (.plain, number.text Binary64.documentSpelling)
  | .string text => some (Style.asked text, text)
  | .sequence _ | .mapping _ | .tagged .. => none

/-- How many octets a simple key may have, its tag included. -/
def simpleKeyLimit : Nat := 128

/-- Whether a value after a tag of so many octets can stand in front of a colon: a scalar on one
line or an empty collection, if it is not too long. -/
def isSimpleKey (tagSize : Nat) : Value → Bool
  | .tagged label value => value.isSimpleKey (writtenLabel label).utf8ByteSize.succ
  | .sequence items => items.isEmpty && decide (tagSize ≤ simpleKeyLimit)
  | .mapping entries => entries.isEmpty && decide (tagSize ≤ simpleKeyLimit)
  | value =>
    match value.scalarText? with
    | some (_, text) =>
      !text.toList.any isBreak && decide (tagSize + text.utf8ByteSize ≤ simpleKeyLimit)
    | none => false

mutual

/-- Writes a value. -/
def onPage (place : Place) (indent : Option Nat) (page : Page) : Value → Page
  | .tagged label value => value.onPage place indent (page.tag label)
  | .sequence [] => (page.word "[").suffix "]"
  | .sequence items =>
    let isFlush := !page.isFresh && decide (place = .entry)
    itemsOnPage (if isFlush then indent.getD 0 else deeper indent 0) page items
  | .mapping [] => (page.word "\x7b").suffix "\x7d"
  | .mapping entries => entriesOnPage (deeper indent 0) page entries
  | value =>
    match value.scalarText? with
    | some (asked, text) =>
      page.scalar (deeper indent 2) (asked.chosen (decide (place = .key)) text.toList) text
    | none => page

/-- Writes the items of a sequence. -/
def itemsOnPage (indent : Nat) (page : Page) : List Value → Page
  | [] => page
  | item :: rest =>
    let page := (page.indentTo indent).mark "-"
    itemsOnPage indent (item.onPage .item (some indent) page) rest

/-- Writes the entries of a mapping. -/
def entriesOnPage (indent : Nat) (page : Page) : List (Value × Value) → Page
  | [] => page
  | (key, value) :: rest =>
    let page := page.indentTo indent
    let page :=
      if key.isSimpleKey 0 then (key.onPage .key (some indent) page).suffix ":"
      else ((key.onPage .entry (some indent) (page.mark "?")).indentTo indent).mark ":"
    entriesOnPage indent (value.onPage .entry (some indent) page) rest

end

/-- Whether a value is a mapping with one entry. -/
def isSingle : Value → Bool
  | .mapping [_] => true
  | _ => false

/-- Whether a value is tagged. -/
def isTagged : Value → Bool
  | .tagged .. => true
  | _ => false

mutual

/-- Whether a value has a block form. A mapping with one entry and no tag has none if its key has
a tag or is again a mapping with one entry. -/
def hasBlock (tagged : Bool) : Value → Bool
  | .tagged _ value => value.hasBlock true
  | .sequence items => itemsHaveBlocks items
  | .mapping [(key, value)] =>
    (tagged || !(key.isTagged || key.isSingle)) && key.hasBlock false && value.hasBlock false
  | .mapping entries => entriesHaveBlocks entries
  | _ => true

/-- Whether all items have block forms. -/
def itemsHaveBlocks : List Value → Bool
  | [] => true
  | item :: rest => item.hasBlock false && itemsHaveBlocks rest

/-- Whether all keys and values have block forms. -/
def entriesHaveBlocks : List (Value × Value) → Bool
  | [] => true
  | (key, value) :: rest =>
    key.hasBlock false && value.hasBlock false && entriesHaveBlocks rest

end

mutual

/-- A value as an expression: the kind of each part before its content. -/
def expression : Value → String
  | .null => "Null"
  | .bool value => "Bool(" ++ (if value then "true" else "false") ++ ")"
  | .int number => "Number(" ++ Decimal.integer number ++ ")"
  | .float number => "Number(" ++ number.text Binary64.documentSpelling ++ ")"
  | .string text => "String(" ++ Text.quoted text ++ ")"
  | .sequence items => "Sequence [" ++ itemExpressions items ++ "]"
  | .mapping entries => "Mapping \x7b" ++ entryExpressions entries ++ "\x7d"
  | .tagged label value =>
    "TaggedValue \x7b tag: !" ++ bareLabel label ++ ", value: " ++ value.expression ++ " \x7d"

/-- Items with commas between them. -/
def itemExpressions : List Value → String
  | [] => ""
  | [item] => item.expression
  | item :: rest => item.expression ++ ", " ++ itemExpressions rest

/-- Entries with commas between them. The content of a scalar is enough for a key. -/
def entryExpressions : List (Value × Value) → String
  | [] => ""
  | (key, value) :: rest =>
    let name :=
      match key with
      | .bool value => if value then "true" else "false"
      | .int number => Decimal.integer number
      | .float number => number.text Binary64.documentSpelling
      | .string text => Text.quoted text
      | key => key.expression
    name ++ ": " ++ value.expression ++
      (if rest.isEmpty then "" else ", " ++ entryExpressions rest)

end

/-- A value in block style, without white space at the end; where there is no block form, as an
expression. -/
def sizeText (value : Value) : String :=
  if value.hasBlock false then Text.trimEnd (value.onPage .root none {}).text
  else value.expression

end Value
end CallSchema.Yaml
