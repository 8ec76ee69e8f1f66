import CallSchema.Document
import CallSchema.Yaml.Block

/-!
What a symbol stands for at run time. A backing type stands for itself. A structure is passed by
its address, so it stands for what a handle stands for. An alias stands for what its target in the
address width stands for. Backing types come before structures, and structures before aliases.
-/
namespace CallSchema

/-- Why a symbol or a function cannot be resolved. -/
inductive ResolveError where
  | unknownModule (module : String)
  | unknownFunction (module function : String)
  | unknownAddressWidth (width : String)
  | unresolvedSymbol (symbol : Symbol) (width : AddressWidth)
  | aliasCycle (symbol : Symbol) (width : AddressWidth)
  | recursiveStructure (name : Symbol)
  | invalidSize (symbol : Symbol) (size : String)
  deriving DecidableEq

/-- The words for what cannot be resolved. -/
def ResolveError.message : ResolveError → String
  | .unknownModule module => "requested module " ++ module ++ " could not be found"
  | .unknownFunction module function =>
    "requested function " ++ function ++ " could not be found in module " ++ module
  | .unknownAddressWidth width => "unsupported address width " ++ width
  | .unresolvedSymbol symbol width =>
    "could not find high level parameter type " ++ symbol.name ++ " for address width " ++
      width.name
  | .aliasCycle symbol width =>
    "resolution of " ++ symbol.name ++ " in address width " ++ width.name ++
      " does not terminate"
  | .recursiveStructure name => "structure " ++ name.name ++ " contains itself"
  | .invalidSize symbol size => "backing type " ++ symbol.name ++ " has invalid size " ++ size

/-- The type by which structures are passed. -/
def handleType : Symbol := ⟨"HANDLE"⟩

/-- A document seen in one of its address widths, with the aliases of that width. -/
structure Resolver where
  document : Document
  width : AddressWidth
  aliases : AliasTable
  bound : document.aliases? width = some aliases

/-- The view of a document in an address width that it has aliases for. -/
def Document.resolver (document : Document) (width : String) : Except ResolveError Resolver :=
  match bound : document.aliases? ⟨width⟩ with
  | some aliases => .ok ⟨document, ⟨width⟩, aliases, bound⟩
  | none => .error (.unknownAddressWidth width)

namespace Resolver

/-- The symbol that stands next in a symbol's place. -/
def next (resolver : Resolver) (symbol : Symbol) : Option Symbol :=
  if resolver.document.backing.contains symbol then none
  else if resolver.document.structures.contains symbol then some handleType
  else resolver.aliases.find? symbol

/-- Follows what stands in the place of the asked symbol until that is a backing type. The trail
holds the symbols passed on the way, latest first, and one that comes back ends the search. Only
structures and aliases are passed, so a search needs no more steps than there are of both, and one
more to end. -/
def follow (resolver : Resolver) (asked : Symbol) :
    Nat → List Symbol → Symbol → Except ResolveError Symbol
  | 0, _, _ => .error (.aliasCycle asked resolver.width)
  | steps + 1, trail, current =>
    if resolver.document.backing.contains current then .ok current
    else if current ∈ trail then .error (.aliasCycle asked resolver.width)
    else
      match resolver.next current with
      | some target => follow resolver asked steps (current :: trail) target
      | none => .error (.unresolvedSymbol current resolver.width)

/-- The backing type that a symbol stands for. -/
def basicType (resolver : Resolver) (symbol : Symbol) : Except ResolveError Symbol :=
  let passable := resolver.document.structures.size + resolver.aliases.size
  resolver.follow symbol (passable + 1) [] symbol

/-- The size of the backing type that a symbol stands for. -/
def size (resolver : Resolver) (symbol : Symbol) : Except ResolveError UInt64 :=
  match resolver.basicType symbol with
  | .error error => .error error
  | .ok basic =>
    match resolver.document.backing.find? basic with
    | none => .error (.unresolvedSymbol basic resolver.width)
    | some value =>
      match value.natural? with
      | some size => .ok size
      | none => .error (.invalidSize basic value.sizeText)

end Resolver
end CallSchema
