import CallSchema.Document

/-!
Reading a tree as a definitions document. Names, parameter types, field types and alias targets are
the texts of scalars, whatever these would say as values. What is empty counts as an empty mapping
where a mapping is wanted, and nothing as an absent value where one may be absent. Entries that no
document needs are passed over. The first misfit in the order of the document counts.
-/
namespace CallSchema
open Yaml (Node Mark Path Tag ScalarStyle)

/-- What stands where something else is wanted. -/
inductive Found where
  | nothing
  | bool (value : Bool)
  | int (number : Int)
  | float (number : Binary64)
  | string (text : String)
  | sequence
  | mapping
  deriving DecidableEq

/-- The words for what stands there. -/
def Found.text : Found → String
  | .nothing => "unit value"
  | .bool value => "boolean \x60" ++ (if value then "true" else "false") ++ "\x60"
  | .int number => "integer \x60" ++ Decimal.integer number ++ "\x60"
  | .float number => "floating point \x60" ++ number.text Binary64.messageSpelling ++ "\x60"
  | .string text => "string " ++ Text.quoted text
  | .sequence => "sequence"
  | .mapping => "map"

/-- What is wanted. -/
inductive Wanted where
  | mapping
  | string
  | offset
  | signature
  | field
  | fieldName
  deriving DecidableEq

/-- The words for what is wanted. -/
def Wanted.text : Wanted → String
  | .mapping => "a map"
  | .string => "a string"
  | .offset => "u64"
  | .signature => "struct FunctionDescriptor"
  | .field => "struct FieldDescriptor"
  | .fieldName => "field identifier"

/-- What is wrong with a node. -/
inductive Problem where
  | unfit (found : Found) (wanted : Wanted)
  | missing (field : String)
  | repeated (field : String)
  deriving DecidableEq

/-- The words for what is wrong. -/
def Problem.text : Problem → String
  | .unfit found wanted => "invalid type: " ++ found.text ++ ", expected " ++ wanted.text
  | .missing field => "missing field \x60" ++ field ++ "\x60"
  | .repeated field => "duplicate field \x60" ++ field ++ "\x60"

/-- A problem, the path to its node and the place where that is written. -/
structure Misfit where
  path : Path
  mark : Mark
  problem : Problem
  deriving DecidableEq

/-- The words for a misfit. -/
def Misfit.message (misfit : Misfit) : String :=
  Yaml.located misfit.path misfit.mark misfit.problem.text

/-- The node that a reference stands for. -/
def Yaml.Node.followed : Node → Node
  | .reference target => target.followed
  | node => node

/-- Whether a node is a scalar with a text, whatever else it says. -/
def Yaml.Node.spells (text : String) (node : Node) : Bool :=
  match node.followed with
  | .scalar _ _ _ other => other == text
  | _ => false

/-- The place where a node is written. -/
def Yaml.Node.mark : Node → Mark
  | .scalar mark .. => mark
  | .sequence mark .. => mark
  | .mapping mark .. => mark
  | .reference target => target.mark
  | .missing => default

/-- What a scalar is found to be. -/
def Found.ofScalar (tag : Option Tag) (style : ScalarStyle) (text : String) : Found :=
  match Yaml.scalarValue? tag style text with
  | some .null => .nothing
  | some (.bool value) => .bool value
  | some (.int number) => .int number
  | some (.float number) => .float number
  | _ => .string text

/-- What a node is found to be. -/
def Found.ofNode (node : Node) : Found :=
  match node.followed with
  | .scalar _ tag style text => .ofScalar tag style text
  | .sequence .. => .sequence
  | .mapping .. => .mapping
  | .reference _ | .missing => .nothing

namespace Reading

/-- A node that is not what is wanted. -/
def unfit {α : Type} (path : Path) (node : Node) (wanted : Wanted) : Except Misfit α :=
  .error ⟨path, node.mark, .unfit (.ofNode node) wanted⟩

/-- The text of a scalar. -/
def text (path : Path) (wanted : Wanted) (node : Node) : Except Misfit String :=
  match node.followed with
  | .scalar _ _ _ text => .ok text
  | _ => unfit path node wanted

/-- Whether a node says that there is nothing: an empty plain scalar without a tag, or a spelling
of nothing without a tag or with the common one. -/
def isAbsent (node : Node) : Bool :=
  match node.followed with
  | .scalar _ tag .plain text =>
    match tag with
    | none => text.isEmpty || Yaml.Plain.isNull text
    | some tag => tag == Tag.null && Yaml.Plain.isNull text
  | _ => false

/-- Reads a node that may say that there is nothing. -/
def optional {α : Type} (read : Node → Except Misfit α) (node : Node) : Except Misfit (Option α) :=
  if isAbsent node then .ok none else (read node).map some

/-- The entries of a mapping; an empty plain scalar has none. -/
def entries (path : Path) (wanted : Wanted) (node : Node) : Except Misfit (List (Node × Node)) :=
  match node.followed with
  | .mapping _ _ entries => .ok entries
  | .scalar _ _ .plain "" => .ok []
  | _ => unfit path node wanted

/-- Reads entries in order: names as texts and what they name. -/
def named {β : Type} (path : Path) (read : Path → Node → Except Misfit β) :
    List (Node × Node) → Except Misfit (List (String × β))
  | [] => .ok []
  | (key, value) :: rest => do
    let name ← text path .string key
    let content ← read (key.step :: path) value
    let others ← named path read rest
    return (name, content) :: others

/-- Reads a mapping in the order of its names. -/
def table {κ β : Type} [Named κ] (name : String → κ) (read : Path → Node → Except Misfit β)
    (path : Path) (node : Node) : Except Misfit (Table κ β) := do
  let bindings ← named path read (← entries path .mapping node)
  return .ofList (bindings.map fun binding => (name binding.1, binding.2))

/-- Reads a mapping in the order of the document. -/
def listing {β : Type} (read : Path → Node → Except Misfit β) (path : Path) (node : Node) :
    Except Misfit (Listing β) := do
  return .ofList (← named path read (← entries path .mapping node))

/-- A symbol is any text. -/
def symbol (path : Path) (node : Node) : Except Misfit Symbol :=
  (text path .string node).map Symbol.mk

/-- An offset is written as a whole number, without quotes. -/
def offset (path : Path) (node : Node) : Except Misfit UInt64 :=
  match node.followed with
  | .scalar _ tag style text =>
    if style = .plain ∨ (style = .literal ∧ tag = some Tag.int) then
      match Yaml.Plain.natural? text.toList with
      | some number =>
        if number < UInt64.size then .ok (UInt64.ofNat number) else unfit path node .offset
      | none => unfit path node .offset
    else unfit path node .offset
  | _ => unfit path node .offset

/-- Reads the entries of a record one after another. A field may stand there once; `take` reads
the value of a field, and entries that are no fields are passed over. -/
def fields {α : Type} (path : Path) (mark : Mark) (field? : String → Option String)
    (take : String → Path → Node → α → Except Misfit α) :
    List String → α → List (Node × Node) → Except Misfit α
  | _, record, [] => .ok record
  | taken, record, (key, value) :: rest => do
    match field? (← text path .fieldName key) with
    | none => fields path mark field? take taken record rest
    | some field =>
      if taken.contains field then .error ⟨path, mark, .repeated field⟩
      else
        let record ← take field (key.step :: path) value record
        fields path mark field? take (field :: taken) record rest

/-- A function's descriptor: the parameters may be absent. -/
def signature (path : Path) (node : Node) : Except Misfit Signature := do
  let entries ← entries path .signature node
  fields path node.mark (fun name => if name == "Parameters" then some name else none)
    (fun _ path value _ => do
      return ⟨← optional (listing symbol path) value⟩)
    [] ⟨none⟩ entries

/-- The field that a name stands for in a field's descriptor. -/
def fieldPart? (name : String) : Option String :=
  if name == "type" || name == "Type" then some "type"
  else if name == "offset" || name == "Offset" then some "offset"
  else none

/-- A field's descriptor: the type must be there, the offset may be absent. -/
def field (path : Path) (node : Node) : Except Misfit Field := do
  let entries ← entries path .field node
  let parts ← fields path node.mark fieldPart?
    (fun part path value (parts : Option Symbol × Option UInt64) => do
      if part == "type" then return (some (← symbol path value), parts.2)
      else return (parts.1, ← optional (offset path) value))
    [] (none, none) entries
  match parts.1 with
  | some type => return ⟨type, parts.2⟩
  | none => .error ⟨path, node.mark, .missing "type"⟩

/-- Any value, read as one without a shape. Trees with something missing are refused before they
are read as documents. -/
def size (path : Path) (node : Node) : Except Misfit Yaml.Value :=
  match node.value path with
  | .ok value => .ok value
  | .error _ => unfit path node .mapping

/-- A part of the document; nothing stands for an empty part. -/
def part {κ β : Type} [Named κ] (read : Path → Node → Except Misfit (Table κ β)) (path : Path)
    (node : Node) : Except Misfit (Table κ β) := do
  return (← optional (read path) node).getD .empty

end Reading

namespace Document

/-- The key of the functions. -/
def modulesKey : String := "Modules"

/-- The key of the structures. -/
def structuresKey : String := "Structures"

/-- The key of the aliases. -/
def highLevelKey : String := "HighLevelParameterTypes"

/-- The key of the backing types. -/
def backingKey : String := "BackingParameterTypes"

/-- The parts that every document has, in the order in which they are looked for. -/
def partKeys : List String := [modulesKey, structuresKey, highLevelKey, backingKey]

/-- Reads one part of a document into it. -/
def readPart (key : String) (path : Path) (node : Node) (document : Document) :
    Except Misfit Document := do
  if key == modulesKey then
    let modules ← Reading.part (Reading.table id (Reading.table id Reading.signature)) path node
    return { document with modules }
  else if key == structuresKey then
    let structures ←
      Reading.part (Reading.table Symbol.mk (Reading.listing Reading.field)) path node
    return { document with structures }
  else if key == highLevelKey then
    let aliases := Reading.table Symbol.mk Reading.symbol
    let highLevel ← Reading.part (Reading.table AddressWidth.mk aliases) path node
    return { document with highLevel }
  else
    let backing ← Reading.part (Reading.table Symbol.mk Reading.size) path node
    return { document with backing }

/-- Reads the parts of a document that are there. -/
def readParts (mark : Mark) (entries : List (Node × Node)) : Except Misfit Document :=
  Reading.fields [] mark (fun name => if partKeys.contains name then some name else none)
    readPart [] empty entries

/-- Reads a tree as a document. All parts must be there; the first one that is not counts, once the
others are read. -/
def ofNode (node : Node) : Except Misfit Document := do
  let entries ← Reading.entries [] .mapping node
  let document ← readParts node.mark entries
  match partKeys.find? fun key => !entries.any fun entry => entry.1.spells key with
  | some key => .error ⟨[], node.mark, .missing key⟩
  | none => return document

end Document
end CallSchema
