import CallSchema.Text
import CallSchema.Yaml.Node
import CallSchema.Yaml.Plain

/-!
Document values without a shape of their own, and how a tree is read as one. Reading is in
document order and the first fault counts; a key that repeats an earlier one is a fault that is
told in full.
-/
namespace CallSchema.Yaml

/-- A value. A tagged value keeps the tag's name, without its exclamation mark. -/
inductive Value where
  | null
  | bool (value : Bool)
  | int (number : Int)
  | float (number : Binary64)
  | string (text : String)
  | sequence (items : List Value)
  | mapping (entries : List (Value × Value))
  | tagged (label : String) (value : Value)

instance : Inhabited Value := ⟨.null⟩

/-- A tag's name without the exclamation mark that it may begin with. -/
def bareLabel (label : String) : String :=
  match label.toList with
  | '!' :: c :: rest => String.ofList (c :: rest)
  | _ => label

namespace Value

mutual

/-- Equality of values: entries of a mapping count in any order, and tags without their leading
exclamation mark. -/
def same : Value → Value → Bool
  | .null, .null => true
  | .bool a, .bool b => a == b
  | .int a, .int b => a == b
  | .float a, .float b => a.same b
  | .string a, .string b => a == b
  | .sequence as, .sequence bs => sameItems as bs
  | .mapping as, .mapping bs => as.length == bs.length && sameEntries as bs
  | .tagged l a, .tagged m b => bareLabel l == bareLabel m && a.same b
  | _, _ => false

/-- Equality of lists of values, item by item. -/
def sameItems : List Value → List Value → Bool
  | [], [] => true
  | a :: as, b :: bs => a.same b && sameItems as bs
  | _, _ => false

/-- Whether each entry of the first list equals one of the second. -/
def sameEntries : List (Value × Value) → List (Value × Value) → Bool
  | [], _ => true
  | (key, value) :: rest, others =>
    others.any (fun other => key.same other.1 && value.same other.2) && sameEntries rest others

end

/-- The value within its tags. -/
def untagged : Value → Value
  | .tagged _ value => value.untagged
  | value => value

/-- The entries of a mapping, tags aside. -/
def entries? (value : Value) : Option (List (Value × Value)) :=
  match value.untagged with
  | .mapping entries => some entries
  | _ => none

/-- A whole number from zero to what 64 bits hold, tags aside. -/
def natural? (value : Value) : Option UInt64 :=
  match value.untagged with
  | .int (.ofNat number) =>
    if number < UInt64.size then some (UInt64.ofNat number) else none
  | _ => none

/-- The word for the kind of a value. -/
def kind : Value → String
  | .null => "null"
  | .bool _ => "boolean"
  | .int _ | .float _ => "number"
  | .string _ => "string"
  | .sequence _ => "sequence"
  | .mapping _ => "mapping"
  | .tagged .. => "tagged value"

end Value

/-! ### Paths -/

/-- A step from a collection to a node in it, or from a reference to what it refers to. A key that
is no scalar leaves no name. -/
inductive Step where
  | key (text : String)
  | index (number : Nat)
  | unnamed
  | reference
  deriving DecidableEq

/-- The steps from the root to a node, latest first. -/
abbrev Path := List Step

/-- The text of a path: keys joined by points, indices in brackets, a point alone for the root and
for a reference there. -/
def Path.text : Path → String
  | [] => "."
  | .reference :: outer => Path.text outer
  | .index number :: outer => Path.text outer ++ "[" ++ Decimal.natural number ++ "]"
  | .key text :: [] => text
  | .key text :: outer => Path.text outer ++ "." ++ text
  | .unnamed :: [] => "?"
  | .unnamed :: outer => Path.text outer ++ ".?"

/-- A line and a column, counted from one. -/
def Mark.text (mark : Mark) : String :=
  "line " ++ Decimal.natural (mark.line + 1) ++ " column " ++ Decimal.natural (mark.column + 1)

/-- A problem with the path and the place where it is; neither is told of the very start. -/
def located (path : Path) (mark : Mark) (problem : String) : String :=
  let lead := if path.text == "." then "" else path.text ++ ": "
  let place := if mark.line = 0 ∧ mark.column = 0 then "" else " at " ++ mark.text
  lead ++ problem ++ place

/-! ### Reading -/

/-- Why a text is not read as a value. Only a repeated key is told apart. -/
inductive Fault where
  | malformed
  | repeated (path : Path) (key : Value) (mark : Mark)

/-- The words for a repeated key. -/
def repeatedKey : Value → String
  | .null => "duplicate entry with null key"
  | .bool value => "duplicate entry with key \x60" ++ (if value then "true" else "false") ++ "\x60"
  | .int number => "duplicate entry with key " ++ Decimal.integer number
  | .float number => "duplicate entry with key " ++ number.text Binary64.documentSpelling
  | .string text => "duplicate entry with key " ++ Text.quoted text
  | .sequence _ | .mapping _ | .tagged .. => "duplicate entry in YAML map"

/-- What a fault reads like. -/
def Fault.message : Fault → String
  | .malformed => "<yaml>"
  | .repeated path key mark => located path mark (repeatedKey key)

/-- What a scalar says, the name of its own tag aside. A common tag demands its kind of value; any
other tag that is not the document's own makes the scalar a text. -/
def scalarValue? (tag : Option Tag) (style : ScalarStyle) (text : String) : Option Value :=
  let plain : Option Value :=
    match Plain.meaning text with
    | .null => some .null
    | .bool value => some (.bool value)
    | .int number => some (.int number)
    | .tooGreat => none
    | .float number => some (.float number)
    | .text => some (.string text)
  match tag with
  | none => if style = .plain then plain else some (.string text)
  | some tag =>
    if tag = Tag.bool then (Plain.bool? text).map .bool
    else if tag = Tag.int then
      match Plain.whole text.toList with
      | .fits number => some (.int number)
      | _ => none
    else if tag = Tag.float then (Plain.float? text).map .float
    else if tag = Tag.null then if Plain.isNull text then some .null else none
    else if tag.isLocal && decide (style = .plain) then plain
    else some (.string text)

/-- Gives a value the name of its own tag, if it has one. -/
def withTag (tag : Option Tag) (read : Except Fault Value) : Except Fault Value :=
  match tag.bind Tag.label? with
  | none => read
  | some label => read.map (.tagged label)

/-- The step to the value of a key. -/
def Node.step : Node → Step
  | .scalar _ _ _ text => .key text
  | _ => .unnamed

mutual

/-- Reads a tree as a value. -/
def Node.value (path : Path) : Node → Except Fault Value
  | .missing => .error .malformed
  | .reference target => target.value (.reference :: path)
  | .scalar _ tag style text =>
    withTag tag <|
      match scalarValue? tag style text with
      | some value => .ok value
      | none => .error .malformed
  | .sequence _ tag items => withTag tag ((readItems path 0 items).map .sequence)
  | .mapping mark tag entries => withTag tag ((readEntries path mark [] entries).map .mapping)

/-- Reads the items of a sequence from an index on. -/
def readItems (path : Path) (index : Nat) : List Node → Except Fault (List Value)
  | [] => .ok []
  | item :: rest =>
    match item.value (.index index :: path) with
    | .error fault => .error fault
    | .ok value => (readItems path (index + 1) rest).map (value :: ·)

/-- Reads the entries of a mapping after those already read; a key may not repeat one of these. -/
def readEntries (path : Path) (mark : Mark) (earlier : List Value) :
    List (Node × Node) → Except Fault (List (Value × Value))
  | [] => .ok []
  | (key, value) :: rest =>
    match key.value path with
    | .error fault => .error fault
    | .ok name =>
      if earlier.any name.same then .error (.repeated path name mark)
      else
        match value.value (key.step :: path) with
        | .error fault => .error fault
        | .ok value => (readEntries path mark (name :: earlier) rest).map ((name, value) :: ·)

end

/-- Reads a text's document as a value; a text without content is nothing. -/
def Source.value (source : Source) : Except Fault Value :=
  match source.root with
  | none => if source.complete then .ok .null else .error .malformed
  | some root =>
    match root.value [] with
    | .error fault => .error fault
    | .ok value => if source.complete then .ok value else .error .malformed

end CallSchema.Yaml
