import CallSchema.Listing
import CallSchema.Symbol
import CallSchema.Yaml.Value

/-!
Definitions documents: the functions of each module with the types of their parameters, the
layouts of structures, the aliases of each address width, and the backing types with their sizes.
Modules, functions, structures, aliases and backing types are kept in the order of their names;
parameters and fields keep the order of the document.
-/
namespace CallSchema

/-- A field of a structure. -/
structure Field where
  type : Symbol
  offset : Option UInt64
  deriving DecidableEq

/-- What a function takes: the types of its named parameters in calling order. A function may give
no parameters, which is not the same as giving an empty list. -/
structure Signature where
  parameters : Option (Listing Symbol)
  deriving DecidableEq

/-- The aliases of one address width, each with its target. -/
abbrev AliasTable := Table Symbol Symbol

/-- A definitions document. The size of a backing type is any value; only asking for it demands a
number. -/
structure Document where
  modules : Table String (Table String Signature)
  structures : Table Symbol (Listing Field)
  highLevel : Table AddressWidth AliasTable
  backing : Table Symbol Yaml.Value

namespace Document

/-- The document that defines nothing. -/
def empty : Document := ⟨.empty, .empty, .empty, .empty⟩

instance : Inhabited Document := ⟨empty⟩

/-- The aliases of an address width. -/
def aliases? (document : Document) (width : AddressWidth) : Option AliasTable :=
  document.highLevel.find? width

/-- The number of functions in all modules. -/
def functionCount (document : Document) : Nat :=
  document.modules.values.foldl (fun count functions => count + functions.size) 0

end Document

/-- Whether two functions give the same parameters the same types, in any order. -/
def Signature.same (a b : Signature) : Bool :=
  match a.parameters, b.parameters with
  | none, none => true
  | some as, some bs => as.sameEntries bs
  | _, _ => false

/-- Whether two tables bind the same names, to values that are alike. -/
def Table.sameBy {κ β : Type} [Named κ] (alike : β → β → Bool) (a b : Table κ β) : Bool :=
  a.entries.length == b.entries.length &&
    (a.entries.zip b.entries).all fun entries =>
      Named.text entries.1.1 == Named.text entries.2.1 && alike entries.1.2 entries.2.2

/-- Whether two documents define the same, the order of parameters and fields aside. -/
def Document.same (a b : Document) : Bool :=
  a.modules.sameBy (Table.sameBy Signature.same) b.modules &&
    a.structures.sameBy Listing.sameEntries b.structures &&
    a.highLevel.sameBy (Table.sameBy (· == ·)) b.highLevel &&
    a.backing.sameBy Yaml.Value.same b.backing

end CallSchema
