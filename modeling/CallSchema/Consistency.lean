import CallSchema.Finding
import CallSchema.References

/-!
Consistency of a document: every type that is used has a meaning, no name has meanings of two
kinds, and no alias leads into a ring. A function's parameter and a structure's field may name a
definition of any kind; an alias may only lead to another alias or to a backing type. Rings are
found by walks along edges of which at most one leaves each node. A walk ends at a node without an
edge, or with the first node that it meets a second time.
-/
namespace CallSchema

/-! ### Walks -/

/-- How a walk ends. -/
inductive Walk (α : Type) where
  /-- At a node that no edge leaves. -/
  | stops (last : α)
  /-- With an edge back to a node of the trail, which holds the nodes walked, latest first. -/
  | closes (trail : List α) (target : α)
  deriving DecidableEq

namespace Walk
variable {α : Type} [DecidableEq α]

/-- Walks on from a node, after the nodes of a trail. As many edges are followed as there are
steps; a walk over different nodes needs no more steps than there are nodes with an edge, and one
more to stop. -/
def onward (next : α → Option α) : Nat → List α → α → Walk α
  | 0, trail, current => .closes trail current
  | steps + 1, trail, current =>
    match next current with
    | none => .stops current
    | some target =>
      if target ∈ current :: trail then .closes (current :: trail) target
      else onward next steps (current :: trail) target

/-- Walks from a node along edges that leave no more nodes than the count says. -/
def start (next : α → Option α) (count : Nat) (node : α) : Walk α :=
  onward next (count + 1) [] node

end Walk

/-! ### Rings of aliases

An alias leads to its target while the target is an alias of the same address width. Every name is
walked from on its own, so a ring is found once for each name that leads into it. -/

/-- The walk from a symbol along the aliases of a width. -/
def AliasTable.walk (aliases : AliasTable) (start : Symbol) : Walk Symbol :=
  Walk.start aliases.find? aliases.size start

/-- The ring that the aliases of a width lead into from a name, if they do. -/
def AliasTable.ring? (aliases : AliasTable) (width : AddressWidth) (start : Symbol) :
    Option AliasCycle :=
  match AliasTable.walk aliases start with
  | .stops _ => none
  | .closes trail target =>
    some
      { width, start, target
        source := trail.headD start
        chain := (target :: trail).reverse }

/-- The rings of all widths, in the order of widths and, in one width, of the names that lead into
them. -/
def aliasRings (highLevel : Table AddressWidth AliasTable) : List Finding :=
  highLevel.entries.flatMap fun (width, aliases) =>
    (aliases.names.filterMap (aliases.ring? width)).map .cycle

/-! ### Checks of names -/

/-- The symbols of a set without any meaning. -/
def Definitions.undefinedIn (definitions : Definitions) (used : SymbolSet) : SymbolSet :=
  used.filter fun symbol => !definitions.defines symbol

/-- Types of parameters without a meaning. -/
def missingFunctionParameters (references : References) (definitions : Definitions) :
    Option Finding :=
  Finding.ofSet? .missingFunctionParameter (definitions.undefinedIn references.parameterTypes)

/-- Types of fields without a meaning. -/
def missingStructParameters (references : References) (definitions : Definitions) :
    Option Finding :=
  Finding.ofSet? .missingStructParameter (definitions.undefinedIn references.structParameterTypes)

/-- Targets of aliases that are neither aliases nor backing types. -/
def missingHighLevelTargets (definitions : Definitions) : Option Finding :=
  Finding.ofSet? .missingHighLevelTarget <| definitions.highLevelTargets.filter fun target =>
    !definitions.highLevelNames.contains target && !definitions.backingNames.contains target

/-- Names of aliases that are backing types too. -/
def ambiguousHighLevelAndBacking (definitions : Definitions) : Option Finding :=
  Finding.ofSet? .ambiguousHighLevelAndBacking
    (definitions.highLevelNames.inter definitions.backingNames)

/-- Names of aliases that are structures too. -/
def ambiguousHighLevelAndStruct (definitions : Definitions) : Option Finding :=
  Finding.ofSet? .ambiguousHighLevelAndStruct
    (definitions.highLevelNames.inter definitions.structNames)

/-- Names of structures that are backing types too. -/
def ambiguousStructAndBacking (definitions : Definitions) : Option Finding :=
  Finding.ofSet? .ambiguousStructAndBacking
    (definitions.structNames.inter definitions.backingNames)

/-- The six checks of names, in order. -/
def nameChecks (references : References) (definitions : Definitions) : List (Option Finding) :=
  [missingFunctionParameters references definitions,
   missingStructParameters references definitions,
   missingHighLevelTargets definitions,
   ambiguousHighLevelAndBacking definitions,
   ambiguousHighLevelAndStruct definitions,
   ambiguousStructAndBacking definitions]

/-- What the checks of names find, in order. -/
def nameFindings (references : References) (definitions : Definitions) : List Finding :=
  (nameChecks references definitions).filterMap id

/-! ### Reports -/

/-- Everything that is inconsistent in a document: names first, then rings of aliases. -/
def Document.validate (document : Document) : Report :=
  ⟨nameFindings document.references document.definitions ++ aliasRings document.highLevel⟩

end CallSchema
