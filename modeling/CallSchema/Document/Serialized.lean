import CallSchema.Document
import CallSchema.Json

/-!
Documents as JSON. What is absent is left out, and every other part of the document has its place
under the key by which it is read. A size has a JSON form unless it holds a mapping whose keys are
no names.
-/
namespace CallSchema

/-- The name that a key of a mapping becomes, unless it is nothing, a collection, tagged or not
finite. -/
def Yaml.Value.jsonKey? : Yaml.Value → Option String
  | .string text => some text
  | .bool value => some (if value then "true" else "false")
  | .int number => some (Decimal.integer number)
  | .float (.finite negative mantissa exponent) =>
    some (Json.floatText (.finite negative mantissa exponent))
  | _ => none

mutual

/-- A size as JSON; a tag becomes the name of an object's only field. -/
def Yaml.Value.toJson? : Yaml.Value → Option Json
  | .null => some .null
  | .bool value => some (.bool value)
  | .int number => some (.int number)
  | .float number => some (.float number)
  | .string text => some (.string text)
  | .sequence items => (jsonItems? items).map .array
  | .mapping entries => (jsonFields? entries).map .object
  | .tagged label value =>
    value.toJson?.map fun json => .object [("!" ++ Yaml.bareLabel label, json)]

/-- Each item as JSON. -/
def jsonItems? : List Yaml.Value → Option (List Json)
  | [] => some []
  | item :: rest =>
    match item.toJson?, jsonItems? rest with
    | some item, some rest => some (item :: rest)
    | _, _ => none

/-- Each entry as a field. -/
def jsonFields? : List (Yaml.Value × Yaml.Value) → Option (List (String × Json))
  | [] => some []
  | (key, value) :: rest =>
    match key.jsonKey?, value.toJson?, jsonFields? rest with
    | some name, some value, some rest => some ((name, value) :: rest)
    | _, _, _ => none

end

/-- A table as an object. -/
def Table.toJson {κ β : Type} [Named κ] (value : β → Json) (table : Table κ β) : Json :=
  .object (table.entries.map fun entry => (Named.text entry.1, value entry.2))

/-- A listing as an object. -/
def Listing.toJson {β : Type} (value : β → Json) (listing : Listing β) : Json :=
  .object (listing.entries.map fun entry => (entry.1, value entry.2))

/-- A symbol is a string. -/
def Symbol.toJson (symbol : Symbol) : Json := .string symbol.name

/-- A signature leaves out parameters that it does not give. -/
def Signature.toJson (signature : Signature) : Json :=
  .object <|
    match signature.parameters with
    | none => []
    | some parameters => [("Parameters", parameters.toJson Symbol.toJson)]

/-- A field leaves out an offset that it does not give. -/
def Field.toJson (field : Field) : Json :=
  .object <| ("type", field.type.toJson) ::
    match field.offset with
    | none => []
    | some offset => [("offset", .word offset)]

/-- The backing types as an object, if all sizes have a JSON form. -/
def backingJson? (backing : Table Symbol Yaml.Value) : Option Json :=
  let sized (entry : Symbol × Yaml.Value) : Option (String × Json) :=
    entry.2.toJson?.map fun size => (entry.1.name, size)
  (backing.entries.mapM sized).map .object

/-- A document as JSON, with its parts in the order in which they are looked for. -/
def Document.toJson? (document : Document) : Option Json :=
  (backingJson? document.backing).map fun backing =>
    .object [
      ("Modules", document.modules.toJson (Table.toJson Signature.toJson)),
      ("Structures", document.structures.toJson (Listing.toJson Field.toJson)),
      ("HighLevelParameterTypes", document.highLevel.toJson (Table.toJson Symbol.toJson)),
      ("BackingParameterTypes", backing)]

end CallSchema
