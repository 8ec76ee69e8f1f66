import CallSchema.Proofs.Renaming
import Mathlib.Data.List.Perm.Basic

/-!
Names are opaque. What checks and resolution say about a document they say about the document under
new names, in the new names: the sets that the checks find, the walks along aliases, the searches
for a type, the sizes, the layouts and the errors. Only the order in which rings are found depends
on what the names are, since tables keep the order of names.
-/
namespace CallSchema

/-! ### Findings -/

/-- A ring under new names. -/
def AliasCycle.rename (r : Renaming) (ring : AliasCycle) : AliasCycle :=
  { ring with
    start := r ring.start, source := r ring.source, target := r ring.target
    chain := ring.chain.map r }

/-- A finding under new names. -/
def Finding.rename (r : Renaming) : Finding → Finding
  | .symbols kind set => .symbols kind (set.rename r)
  | .cycle ring => .cycle (ring.rename r)

theorem SymbolSet.isEmpty_rename (r : Renaming) (set : SymbolSet) :
    (set.rename r).isEmpty = set.isEmpty := by
  rw [Bool.eq_iff_iff, isEmpty_iff, isEmpty_iff]
  constructor
  · exact fun empty symbol member => empty (r symbol) ((set.mem_rename r).apply_iff.mpr member)
  · intro empty name member
    obtain ⟨old, member, _⟩ := (set.mem_rename r name).mp member
    exact empty old member

namespace AliasTable
variable {r : Renaming} {aliases : AliasTable} {width : AddressWidth} {start : Symbol}

/-- From a new name the same ring is found. -/
theorem ring?_rename : (aliases.rename r).ring? width (r start) =
    (aliases.ring? width start).map (AliasCycle.rename r) := by
  have walks : (aliases.rename r).walk (r start) = (aliases.walk start).map r := by
    rw [walk, walk, rename, Table.size_rename]
    exact Walk.onward_map r.injective (fun node => Table.find?_rename) (aliases.size + 1) [] start
  rw [ring?, ring?, walks]
  cases aliases.walk start with
  | stops => rfl
  | closes trail target => cases trail <;> simp [Walk.map, AliasCycle.rename]

theorem rings_rename (r : Renaming) (aliases : AliasTable) (width : AddressWidth) :
    ((aliases.rename r).names.filterMap ((aliases.rename r).ring? width)).Perm
      ((aliases.names.filterMap (aliases.ring? width)).map (AliasCycle.rename r)) := by
  refine ((Table.names_rename r r aliases).filterMap _).trans ?_
  rw [List.filterMap_map, List.map_filterMap]
  exact .of_eq (List.filterMap_congr fun name _ => ring?_rename)

end AliasTable

/-- The rings of all widths are the same; in a width they may be found in another order. -/
theorem rings_rename (r : Renaming) (highLevel : Table AddressWidth AliasTable) :
    (rings (highLevel.mapValues (AliasTable.rename r))).Perm
      ((rings highLevel).map (AliasCycle.rename r)) := by
  rw [rings, rings, Table.mapValues, List.flatMap_map, List.map_flatMap]
  exact .flatMap_left _ fun entry _ => entry.2.rings_rename r entry.1

namespace Document
variable {r : Renaming} {document : Document}

/-- Each check finds the same symbols. -/
theorem foundBy_rename (r : Renaming) (document : Document) (kind : FindingKind) :
    (document.rename r).foundBy kind = (document.foundBy kind).rename r := by
  refine SymbolSet.ext fun name => ?_
  have renamed := (document.foundBy kind).mem_rename r name
  simp only [mem_foundBy] at renamed ⊢
  exact (document.faulty_rename r kind name).trans renamed.symm

end Document

/-! ### Resolution -/

/-- An error under new names. The words for a size stay as they are. -/
def ResolveError.rename (r : Renaming) : ResolveError → ResolveError
  | .unknownModule module => .unknownModule module
  | .unknownFunction module function => .unknownFunction module function
  | .unknownAddressWidth width => .unknownAddressWidth width
  | .unresolvedSymbol symbol width => .unresolvedSymbol (r symbol) width
  | .aliasCycle symbol width => .aliasCycle (r symbol) width
  | .recursiveStructure name => .recursiveStructure (r name)
  | .invalidSize symbol size => .invalidSize (r symbol) size

namespace Renaming
variable {α β γ δ : Type} {r : Renaming} {change : α → β} {other : γ → δ}

/-- A result under new names, whether it is a value or an error. -/
def image (r : Renaming) (change : α → β) : Except ResolveError α → Except ResolveError β
  | .ok value => .ok (change value)
  | .error error => .error (error.rename r)

theorem image_bind {first : Except ResolveError α} {second : α → Except ResolveError γ}
    {renamed : β → Except ResolveError δ}
    (same : ∀ value, renamed (change value) = r.image other (second value)) :
    (r.image change first >>= renamed) = r.image other (first >>= second) := by
  cases first with
  | error error => rfl
  | ok value => exact same value

theorem image_mapM {items : List α} {each : α → Except ResolveError γ}
    {renamed : β → Except ResolveError δ}
    (same : ∀ item ∈ items, renamed (change item) = r.image other (each item)) :
    (items.map change).mapM renamed = r.image (List.map other) (items.mapM each) := by
  induction items with
  | nil => rfl
  | cons item rest ih =>
    rw [List.map_cons, List.mapM_cons, List.mapM_cons, same item List.mem_cons_self,
      ih fun item member => same item (List.mem_cons_of_mem _ member)]
    exact image_bind fun value => image_bind fun values => rfl

end Renaming

mutual

/-- A parameter under new names; what it is called stays as it is. -/
def Parameter.rename (r : Renaming) : Parameter → Parameter
  | .mk name basicType size offset fields => .mk name (r basicType) size offset (renameAll r fields)

/-- Each of some parameters under new names. -/
def renameAll (r : Renaming) : List Parameter → List Parameter
  | [] => []
  | parameter :: rest => parameter.rename r :: renameAll r rest

end

theorem renameAll_eq (r : Renaming) (parameters : List Parameter) :
    renameAll r parameters = parameters.map (Parameter.rename r) := by
  induction parameters with
  | nil => rfl
  | cons parameter rest ih => rw [renameAll, ih, List.map_cons]

namespace Resolver
variable {r : Renaming} {resolver : Resolver} {symbol : Symbol}

/-- The same width of the renamed document. -/
def rename (r : Renaming) (resolver : Resolver) : Resolver where
  document := resolver.document.rename r
  width := resolver.width
  aliases := resolver.aliases.rename r
  bound := by rw [Document.aliases?_rename, resolver.bound, Option.map_some]

theorem structured_rename : (resolver.rename r).document.structures.contains (r symbol) =
    resolver.document.structures.contains symbol :=
  Bool.eq_iff_iff.mpr (resolver.document.structures_rename r).apply_iff

theorem backed_rename : (resolver.rename r).document.backing.contains (r symbol) =
    resolver.document.backing.contains symbol :=
  Bool.eq_iff_iff.mpr (resolver.document.backing_rename r).apply_iff

theorem structures_size_rename : (resolver.rename r).document.structures.size =
    resolver.document.structures.size := Table.size_rename

theorem next_rename : (resolver.rename r).next (r symbol) = (resolver.next symbol).map r := by
  rw [next, next, structured_rename, backed_rename]
  split
  · rfl
  · split
    · exact congrArg some r.handle.symm
    · exact Table.find?_rename

/-- A search takes the same course under new names. -/
theorem follow_rename (asked : Symbol) (steps : Nat) (trail : List Symbol) (current : Symbol) :
    (resolver.rename r).follow (r asked) steps (trail.map r) (r current) =
      r.image r (resolver.follow asked steps trail current) := by
  induction steps generalizing trail current with
  | zero => rfl
  | succ steps ih =>
    have passed : r current ∈ trail.map r ↔ current ∈ trail :=
      List.mem_map_of_injective r.injective
    rw [follow, follow, backed_rename, next_rename]
    simp only [passed]
    split
    · rfl
    · split
      · rfl
      · cases resolver.next current with
        | none => rfl
        | some target => exact ih (current :: trail) target

theorem basicType_rename (symbol : Symbol) :
    (resolver.rename r).basicType (r symbol) = r.image r (resolver.basicType symbol) := by
  have aliases : (resolver.rename r).aliases.size = resolver.aliases.size := Table.size_rename
  rw [basicType, basicType, structures_size_rename, aliases]
  exact follow_rename symbol _ [] symbol

theorem size_rename (symbol : Symbol) :
    (resolver.rename r).size (r symbol) = r.image id (resolver.size symbol) := by
  rw [size, size, basicType_rename]
  cases resolver.basicType symbol with
  | error error => rfl
  | ok basic =>
    have found : (resolver.rename r).document.backing.find? (r basic) =
        (resolver.document.backing.find? basic).map id := Table.find?_rename
    simp only [Renaming.image, found]
    cases resolver.document.backing.find? basic with
    | none => rfl
    | some value =>
      simp only [Option.map_some, id_eq]
      cases value.natural? <;> rfl

theorem layoutWith_rename (name : String) (type : Symbol) (offset : UInt64)
    (fields : List Parameter) :
    (resolver.rename r).layoutWith name (r type) offset (fields.map (Parameter.rename r)) =
      r.image (Parameter.rename r) (resolver.layoutWith name type offset fields) := by
  rw [layoutWith, layoutWith, basicType_rename, size_rename]
  refine Renaming.image_bind fun basic => Renaming.image_bind fun size => ?_
  rw [← renameAll_eq]
  rfl

/-- A type has the same layout under its new name, inside the structures entered under theirs. -/
theorem layoutWithin_rename (levels : Nat) (entered : List Symbol) (name : String) (type : Symbol)
    (offset : UInt64) :
    (resolver.rename r).layoutWithin levels (entered.map r) name (r type) offset =
      r.image (Parameter.rename r) (resolver.layoutWithin levels entered name type offset) := by
  induction levels generalizing entered name type offset with
  | zero => rfl
  | succ levels ih =>
    have found : (resolver.rename r).document.structures.find? (r type) =
        (resolver.document.structures.find? type).map (Listing.mapValues (Field.rename r)) :=
      Table.find?_rename
    have inside : r type ∈ entered.map r ↔ type ∈ entered := List.mem_map_of_injective r.injective
    rw [layoutWithin, layoutWithin, found]
    cases resolver.document.structures.find? type with
    | none => exact layoutWith_rename name type offset []
    | some fields =>
      simp only [Option.map_some, inside]
      split
      · rfl
      · have each : (fields.entries.map fun entry => (entry.1, entry.2.rename r)).mapM (fun entry =>
              (resolver.rename r).layoutWithin levels (r type :: entered.map r) entry.1 entry.2.type
                (entry.2.offset.getD 0)) =
            r.image (List.map (Parameter.rename r)) (fields.entries.mapM fun entry =>
              resolver.layoutWithin levels (type :: entered) entry.1 entry.2.type
                (entry.2.offset.getD 0)) :=
          Renaming.image_mapM fun entry _ => ih (type :: entered) entry.1 entry.2.type _
        rw [Listing.mapValues, each]
        exact Renaming.image_bind fun laidOut => layoutWith_rename name type offset laidOut

/-- The parameters of a function are the same, each under new names. -/
theorem functionParameters_rename (module function : String) :
    (resolver.rename r).functionParameters module function =
      r.image (List.map (Parameter.rename r)) (resolver.functionParameters module function) := by
  have modules : (resolver.rename r).document.modules.find? module =
      (resolver.document.modules.find? module).map (Table.mapValues (Signature.rename r)) :=
    Table.find?_mapValues
  rw [functionParameters, functionParameters, modules]
  cases resolver.document.modules.find? module with
  | none => rfl
  | some functions =>
    simp only [Option.map_some, Table.find?_mapValues]
    cases functions.find? function with
    | none => rfl
    | some signature =>
      simp only [Option.map_some, Signature.rename]
      cases signature.parameters with
      | none => rfl
      | some parameters =>
        simp only [Option.map_some, run_layouts, structures_size_rename]
        exact Renaming.image_mapM fun entry _ => layoutWithin_rename _ [] entry.1 entry.2 0

end Resolver

namespace Document
variable {r : Renaming} {document : Document}

/-- The renamed document has the same widths. -/
theorem resolver_rename (width : String) :
    (document.rename r).resolver width = (document.resolver width).map (Resolver.rename r) := by
  have renamed : (document.rename r).aliases? ⟨width⟩ =
      (document.aliases? ⟨width⟩).map (AliasTable.rename r) := aliases?_rename
  cases bound : document.aliases? ⟨width⟩ with
  | some aliases =>
    rw [bound] at renamed
    have before := resolver_eq_ok bound
    have after := resolver_eq_ok renamed
    dsimp only at before after
    rw [before, after]
    rfl
  | none =>
    rw [bound] at renamed
    rw [resolver_eq_error bound, resolver_eq_error renamed]
    rfl

/-- **Names are opaque.** Under a renaming of symbols each check of names finds the same symbols,
the rings are the same up to their order, and in each width every symbol stands for the same
backing type and has the same size, and every function has the same parameters. All of it comes
under the new names, as do the errors. -/
theorem rename_exact (r : Renaming) (document : Document) :
    (∀ kind ∈ FindingKind.ofNames, (document.rename r).validate.ofKind kind =
      (document.validate.ofKind kind).map (Finding.rename r)) ∧
    ((document.rename r).validate.ofKind .aliasCycle).Perm
      ((document.validate.ofKind .aliasCycle).map (Finding.rename r)) ∧
    (∀ width, (document.rename r).resolver width =
      (document.resolver width).map (Resolver.rename r)) ∧
    ∀ width aliases (bound : document.aliases? width = some aliases),
      let resolver : Resolver := ⟨document, width, aliases, bound⟩
      (∀ symbol, (resolver.rename r).basicType (r symbol) = r.image r (resolver.basicType symbol)) ∧
      (∀ symbol, (resolver.rename r).size (r symbol) = r.image id (resolver.size symbol)) ∧
      ∀ module function, (resolver.rename r).functionParameters module function =
        r.image (List.map (Parameter.rename r)) (resolver.functionParameters module function) := by
  refine ⟨?_, ?_, resolver_rename, fun width aliases bound => ⟨Resolver.basicType_rename,
    Resolver.size_rename, Resolver.functionParameters_rename⟩⟩
  · intro kind named
    rw [ofKind_eq _ named, ofKind_eq _ named, foundBy_rename, Finding.ofSet?, Finding.ofSet?,
      SymbolSet.isEmpty_rename]
    split <;> rfl
  · rw [ofKind_aliasCycle, ofKind_aliasCycle, List.map_map]
    have renamed := (CallSchema.rings_rename r document.highLevel).map Finding.cycle
    rwa [List.map_map] at renamed

/-- A new name for the first name of a ring, which puts it last. -/
def swapped : Renaming where
  apply := Equiv.swap ⟨"A"⟩ ⟨"C"⟩
  injective := (Equiv.swap _ _).injective
  handle := by decide

/-- The rings of the two names change places. -/
example :
    let aliases : AliasTable := .ofList [(⟨"A"⟩, ⟨"B"⟩), (⟨"B"⟩, ⟨"A"⟩)]
    ((aliases.names.filterMap (aliases.ring? ⟨"AddressWidth32Bit"⟩)).map AliasCycle.start,
      ((aliases.rename swapped).names.filterMap
        ((aliases.rename swapped).ring? ⟨"AddressWidth32Bit"⟩)).map AliasCycle.start) =
      ([⟨"A"⟩, ⟨"B"⟩], [⟨"B"⟩, ⟨"C"⟩]) := by decide

end Document
end CallSchema
