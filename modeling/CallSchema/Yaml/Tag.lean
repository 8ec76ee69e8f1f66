import CallSchema.Number
import CallSchema.Yaml.Cursor

/-!
Tags as they are written, and what they stand for. A tag is a handle and a suffix; a handle stands
for the octets that a directive gives it. Octets may be written as a percent sign and two digits,
so a tag need not be the encoding of a text.
-/
namespace CallSchema.Yaml

/-- A tag, by the octets of its full name. -/
structure Tag where
  octets : List UInt8
  deriving DecidableEq

namespace Tag

/-- The octets of a text in its usual encoding. -/
def octetsOf (text : String) : List UInt8 := text.toUTF8.data.toList

/-- The text that octets encode, if they encode one. -/
def decode? (octets : List UInt8) : Option String := String.fromUTF8? ⟨octets.toArray⟩

/-- The tag of a full name. -/
def ofText (name : String) : Tag := ⟨octetsOf name⟩

/-- Common tags begin so. -/
def commonLead : String := "tag:yaml.org,2002:"

/-- Nothing at all. -/
def null : Tag := ofText "tag:yaml.org,2002:null"

/-- A truth value. -/
def bool : Tag := ofText "tag:yaml.org,2002:bool"

/-- A whole number. -/
def int : Tag := ofText "tag:yaml.org,2002:int"

/-- A floating-point number. -/
def float : Tag := ofText "tag:yaml.org,2002:float"

/-- Whether the tag belongs to the document alone: whether it begins with an exclamation mark. -/
def isLocal (tag : Tag) : Bool := tag.octets.head? == some 0x21

/-- The name of a tag of the document's own, after the exclamation mark, if it is a text. An
exclamation mark alone is a name of itself. -/
def label? (tag : Tag) : Option String :=
  match tag.octets with
  | [0x21] => some "!"
  | 0x21 :: rest => decode? rest
  | _ => none

/-! ### Tags in a text -/

/-- How many octets a character's encoding has, by its first octet. -/
def encodedWidth? (octet : Nat) : Option Nat :=
  if octet < 0x80 then some 1
  else if octet < 0xc0 then none
  else if octet < 0xe0 then some 2
  else if octet < 0xf0 then some 3
  else if octet < 0xf8 then some 4
  else none

/-- Reads the name of a tag, backwards. A percent sign and two digits stand for an octet; `due`
octets that continue a character's encoding must follow. -/
def scanOctets (bracketed : Bool) :
    Nat → List Char → Mark → List UInt8 → Option (List UInt8 × Cursor)
  | due, '%' :: high :: low :: rest, mark, octets =>
    match Decimal.digitValue? high, Decimal.digitValue? low with
    | some sixteens, some ones =>
      let octet := sixteens * 16 + ones
      let after := ((mark.past '%').past high).past low
      if 0 < due then
        if 0x80 ≤ octet ∧ octet < 0xc0 then
          scanOctets bracketed (due - 1) rest after (octet.toUInt8 :: octets)
        else none
      else
        match encodedWidth? octet with
        | some width => scanOctets bracketed (width - 1) rest after (octet.toUInt8 :: octets)
        | none => none
    | _, _ => none
  | due, c :: rest, mark, octets =>
    if c == '%' || 0 < due then none
    else if isNameChar c || tagChars.contains c || (bracketed && bracketedTagChars.contains c) then
      scanOctets bracketed 0 rest (mark.past c) (c.toNat.toUInt8 :: octets)
    else some (octets, ⟨c :: rest, mark⟩)
  | due, [], mark, octets => if due = 0 then some (octets, ⟨[], mark⟩) else none

/-- A tag's handle: an exclamation mark, letters and digits, and a second exclamation mark if
there is one. -/
def scanHandle? (cursor : Cursor) : Option (String × Cursor) :=
  if startsWith '!' cursor.rest then
    let (letters, after) := cursor.advance.span isNameChar
    if startsWith '!' after.rest then
      some (String.ofList ('!' :: letters ++ ['!']), after.advance)
    else some (String.ofList ('!' :: letters), after)
  else none

/-- The octets up to a zero, in order; nothing after a zero counts. -/
def finish (backwards : List UInt8) : List UInt8 := backwards.reverse.takeWhile (· != 0)

/-- Reads a tag as handle and suffix. The handle is empty where the suffix is the whole tag: in
angle brackets, and for the exclamation mark alone. Inside brackets a comma may follow at once,
and otherwise a gap must. -/
def scan? (flow : Bool) (cursor : Cursor) : Option (String × List UInt8 × Cursor) :=
  match written with
  | none => none
  | some (handle, suffix, after) =>
    if (flow && startsWith ',' after.rest) || atGap after.rest then some (handle, suffix, after)
    else none
where
  written : Option (String × List UInt8 × Cursor) :=
    if startsWith '<' cursor.advance.rest then
      let start := cursor.advanceBy 2
      match scanOctets true 0 start.rest start.mark [] with
      | none => none
      | some (octets, after) =>
        if octets.isEmpty || !startsWith '>' after.rest then none
        else some ("", finish octets, after.advance)
    else
      match scanHandle? cursor with
      | none => none
      | some (handle, start) =>
        let letters := handle.toList.drop 1
        if letters.getLast? == some '!' then
          match scanOctets false 0 start.rest start.mark [] with
          | none => none
          | some (octets, after) =>
            if octets.isEmpty then none else some (handle, finish octets, after)
        else
          let lead := (octetsOf (String.ofList letters)).reverse
          match scanOctets false 0 start.rest start.mark lead with
          | none => none
          | some (octets, after) =>
            let suffix := finish octets
            if suffix.isEmpty then some ("", octetsOf "!", after) else some ("!", suffix, after)

/-- Reads what a tag directive defines: a handle and the octets that it stands for. -/
def scanDirective? (cursor : Cursor) : Option (String × List UInt8 × Cursor) :=
  match scanHandle? cursor.skipBlanks with
  | none => none
  | some (handle, after) =>
    if handle != "!" && (handle.toList.drop 1).getLast? != some '!' then none
    else if !startsWithAny [' ', '\t'] after.rest then none
    else
      let start := after.skipBlanks
      match scanOctets true 0 start.rest start.mark [] with
      | none => none
      | some (octets, after) =>
        if octets.isEmpty || !atGap after.rest then none else some (handle, finish octets, after)

end Tag
end CallSchema.Yaml
