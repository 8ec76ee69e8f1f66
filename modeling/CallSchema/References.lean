import CallSchema.Document

/-!
The symbols that a document uses as types, and those that it defines. A structure stands for the
types of its fields: its own name is no parameter type, and the types of its fields are, whether
or not a function uses it.
-/
namespace CallSchema

/-- The symbols used as types, structure names aside. -/
structure References where
  parameterTypes : SymbolSet
  structParameterTypes : SymbolSet
  deriving DecidableEq

/-- The symbols that the three kinds of definitions give a meaning to. -/
structure Definitions where
  structNames : SymbolSet
  highLevelNames : SymbolSet
  highLevelTargets : SymbolSet
  backingNames : SymbolSet
  deriving DecidableEq

namespace Document

/-- The types of all parameters of all functions. -/
def declaredParameterTypes (document : Document) : List Symbol :=
  document.modules.values.flatMap fun functions =>
    functions.values.flatMap fun signature =>
      match signature.parameters with
      | none => []
      | some parameters => parameters.values

/-- The types of all fields of all structures. -/
def fieldTypes (document : Document) : List Symbol :=
  document.structures.values.flatMap fun fields => fields.values.map Field.type

/-- The bindings of all alias tables. -/
def aliasBindings (document : Document) : List (Symbol × Symbol) :=
  document.highLevel.values.flatMap Table.entries

/-- The symbols that the document uses as types. -/
def references (document : Document) : References :=
  let isType (symbol : Symbol) : Bool := !document.structures.contains symbol
  let fromFields := document.fieldTypes.filter isType
  { parameterTypes := .ofList (document.declaredParameterTypes.filter isType ++ fromFields)
    structParameterTypes := .ofList fromFields }

/-- The symbols that the document defines; the alias tables of all widths count together. -/
def definitions (document : Document) : Definitions :=
  { structNames := document.structures.symbols
    highLevelNames := .ofList (document.aliasBindings.map Prod.fst)
    highLevelTargets := .ofList (document.aliasBindings.map Prod.snd)
    backingNames := document.backing.symbols }

end Document

/-- Whether a symbol has a meaning of any kind. -/
def Definitions.defines (definitions : Definitions) (symbol : Symbol) : Bool :=
  definitions.structNames.contains symbol || definitions.highLevelNames.contains symbol ||
    definitions.backingNames.contains symbol

end CallSchema
