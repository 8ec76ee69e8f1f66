import CallSchema.Document.Load
import CallSchema.Resolution

/-!
The parameters of a function down to their backing types and sizes, with the layout of each
structure that is passed, field by field. A structure that contains itself has no layout. Fields
are resolved before the structure that holds them, and parameters in calling order. Everything that
can go wrong between a text and a resolved function falls into three classes.
-/
namespace CallSchema

/-! ### Layouts -/

/-- A parameter or field with its backing type and size; the fields of a structure follow. -/
inductive Parameter where
  | mk (name : String) (basicType : Symbol) (size offset : UInt64) (fields : List Parameter)

instance : Inhabited Parameter := ⟨.mk "" default 0 0 []⟩

namespace Parameter

/-- The name of the parameter or field. -/
def name : Parameter → String
  | mk name .. => name

/-- The backing type that the declared type stands for. -/
def basicType : Parameter → Symbol
  | mk _ basicType .. => basicType

/-- The size of the backing type. -/
def size : Parameter → UInt64
  | mk _ _ size .. => size

/-- The place in the structure around it; zero for a parameter. -/
def offset : Parameter → UInt64
  | mk _ _ _ offset _ => offset

/-- The fields of a structure, in order. -/
def fields : Parameter → List Parameter
  | mk _ _ _ _ fields => fields

end Parameter

/-- A computation inside the structures that are being laid out, innermost first. -/
abbrev Expanding := ExceptT ResolveError (StateM (List Symbol))

/-- Runs a computation inside one structure more, which may not be entered twice. However the
computation ends, the structure is left again. -/
def Expanding.within {α : Type} (name : Symbol) (inner : Expanding α) : Expanding α :=
  ExceptT.mk fun entered =>
    if name ∈ entered then (.error (.recursiveStructure name), entered)
    else
      let (result, inside) := inner.run.run (name :: entered)
      (result, inside.tail)

namespace Resolver

/-- The layout of a parameter or field. Structures are nested no deeper than there are levels. -/
def layout (resolver : Resolver) : Nat → String → Symbol → UInt64 → Expanding Parameter
  | 0, _, type, _ => throw (.recursiveStructure type)
  | levels + 1, name, type, offset => do
    let fields ←
      match resolver.document.structures.find? type with
      | none => pure []
      | some fields =>
        Expanding.within type <| fields.entries.mapM fun (name, field) =>
          resolver.layout levels name field.type (field.offset.getD 0)
    let basicType ← liftExcept (resolver.basicType type)
    let size ← liftExcept (resolver.size type)
    return ⟨name, basicType, size, offset, fields⟩
where
  /-- A result that involves no structure. -/
  liftExcept {α : Type} (result : Except ResolveError α) : Expanding α := ExceptT.mk (pure result)

/-- The parameters of a function, in calling order. -/
def functionParameters (resolver : Resolver) (module function : String) :
    Except ResolveError (List Parameter) :=
  match resolver.document.modules.find? module with
  | none => .error (.unknownModule module)
  | some functions =>
    match functions.find? function with
    | none => .error (.unknownFunction module function)
    | some signature =>
      match signature.parameters with
      | none => .ok []
      | some parameters =>
        let levels := resolver.document.structures.size + 1
        let laidOut := parameters.entries.mapM fun (name, type) =>
          resolver.layout levels name type 0
        (laidOut.run.run []).1

end Resolver

/-- The parameters of a function in an address width. -/
def Document.parametersOf (document : Document) (module function width : String) :
    Except ResolveError (List Parameter) :=
  match document.resolver width with
  | .error error => .error error
  | .ok resolver => resolver.functionParameters module function

/-! ### Descriptions

A class of failures keeps the words of what went wrong and says in front of them which class it
is. -/

/-- What went wrong, by class. -/
inductive Failure where
  | structural (error : StructuralError)
  | load (detail : String)
  | resolution (detail : String)
  deriving DecidableEq

namespace Failure

/-- The words for what went wrong, after those for the class. -/
def message : Failure → String
  | structural error => "structural error: " ++ error.message
  | load detail => "document load error: " ++ detail
  | resolution detail => "resolution error: " ++ detail

/-- A wrong shape is a class of its own; any other reason for having no document is told in
words. -/
def ofLoadError : LoadError → Failure
  | .structural error => structural error
  | error => load error.message

/-- What cannot be resolved is told in words. -/
def ofResolveError (error : ResolveError) : Failure := resolution error.message

end Failure

/-- The parameters of a function in an address width, or what went wrong. -/
def Document.describe (document : Document) (module function width : String) :
    Except Failure (List Parameter) :=
  (document.parametersOf module function width).mapError Failure.ofResolveError

end CallSchema
