import CallSchema.Proofs.References
import CallSchema.Proofs.Resolution
import CallSchema.Proofs.Result
import CallSchema.Resolution.Layout

/-!
Layouts without the stack that they are computed on. A computation is `Steady` if it leaves the
structures entered as it found them, however it comes out; `layout_steady` says so of every layout
and gives its result as a function of the structures entered, `layoutWithin`. From there a layout is
a recursion over the types of fields, which `Enclosed` follows down to the last structure.
-/
namespace CallSchema
open Relation

/-! ### Computations that leave the stack as it is -/

namespace Expanding
variable {α β : Type} {entered : List Symbol}

/-- Run inside the structures entered, the computation has the result and enters or leaves none. -/
def Steady (entered : List Symbol) (computation : Expanding α) (result : Except ResolveError α) :
    Prop := computation.run.run entered = (result, entered)

theorem Steady.ok (value : α) : Steady entered (pure value) (.ok value) := rfl

theorem Steady.error (error : ResolveError) :
    Steady entered (throw error : Expanding α) (.error error) := rfl

theorem Steady.bind {first : Expanding α} {second : α → Expanding β}
    {result : Except ResolveError α} {following : α → Except ResolveError β}
    (head : Steady entered first result)
    (tail : ∀ value, Steady entered (second value) (following value)) :
    Steady entered (first >>= second) (result >>= following) := by
  unfold Steady at *
  rw [ExceptT.run_bind, StateT.run_bind, head]
  cases result with
  | error => rfl
  | ok value => exact tail value

theorem Steady.mapM {each : α → Expanding β} {result : α → Except ResolveError β}
    (items : List α) (steady : ∀ item, Steady entered (each item) (result item)) :
    Steady entered (items.mapM each) (items.mapM result) := by
  induction items with
  | nil => exact .ok []
  | cons item rest ih =>
    rw [List.mapM_cons, List.mapM_cons]
    exact (steady item).bind fun value => ih.bind fun values => .ok (value :: values)

theorem Steady.lift (result : Except ResolveError α) :
    Steady entered (Resolver.layout.liftExcept result) result := rfl

/-- A structure is not entered inside itself. -/
theorem Steady.within_entered {name : Symbol} (inner : Expanding α) (member : name ∈ entered) :
    Steady entered (Expanding.within name inner) (.error (.recursiveStructure name)) := by
  change (if name ∈ entered then _ else _) = _
  rw [if_pos member]

/-- A structure that is entered is left again. -/
theorem Steady.within {name : Symbol} {inner : Expanding α} {result : Except ResolveError α}
    (steady : Steady (name :: entered) inner result) (fresh : name ∉ entered) :
    Steady entered (Expanding.within name inner) result := by
  have ran : inner.run.run (name :: entered) = (result, name :: entered) := steady
  change (if name ∈ entered then _ else
    ((inner.run.run (name :: entered)).1, (inner.run.run (name :: entered)).2.tail)) = _
  rw [if_neg fresh, ran]
  rfl

end Expanding

/-! ### Structures around a type -/

/-- What a layout keeps on its way into the fields of structures: the structures entered are
different ones, each leads to the type through fields, and the levels left and those entered
outnumber the structures. -/
structure Document.Enclosed (document : Document) (levels : Nat) (entered : List Symbol)
    (type : Symbol) : Prop where
  distinct : entered.Nodup
  around : ∀ holder ∈ entered, TransGen document.HasField holder type
  enough : document.structures.size < levels + entered.length

namespace Document.Enclosed
variable {document : Document} {levels : Nat} {entered : List Symbol} {type part : Symbol}

/-- No structure is around the type of a parameter. -/
theorem start (document : Document) (type : Symbol) :
    Enclosed document (document.structures.size + 1) [] type where
  distinct := .nil
  around := by simp
  enough := by simp

/-- A structure that does not contain itself is not around itself. -/
theorem fresh (enclosed : Enclosed document levels entered type)
    (finite : ¬ TransGen document.HasField type type) : type ∉ entered :=
  fun member => finite (enclosed.around type member)

/-- The type of a field is enclosed in one structure more. -/
theorem field (enclosed : Enclosed document (levels + 1) entered type) (fresh : type ∉ entered)
    (held : document.HasField type part) : Enclosed document levels (type :: entered) part where
  distinct := List.nodup_cons.mpr ⟨fresh, enclosed.distinct⟩
  around := by
    intro holder member
    rcases List.mem_cons.mp member with rfl | member
    · exact .single held
    · exact (enclosed.around holder member).tail held
  enough := by
    have := enclosed.enough
    simp only [List.length_cons]
    omega

/-- Levels are left as long as the structures entered are different ones. -/
theorem levels_pos (enclosed : Enclosed document levels entered type) : 0 < levels := by
  have structured : ∀ holder ∈ entered, holder ∈ document.structures.names := by
    intro holder member
    obtain ⟨_, ⟨fields, _, _, bound, _⟩, _⟩ := TransGen.head'_iff.mp (enclosed.around holder member)
    exact Table.mem_names.mpr (Table.contains_iff.mpr ⟨fields, bound⟩)
  have bound := enclosed.distinct.length_le_of_subset structured
  have := enclosed.enough
  rw [Table.length_names] at bound
  omega

end Document.Enclosed

/-! ### Layouts -/

namespace Resolver
variable {resolver : Resolver} {levels : Nat} {entered : List Symbol} {name : String}
  {type : Symbol} {offset : UInt64}

/-- The layout of a parameter or field whose own fields are laid out. -/
def layoutWith (resolver : Resolver) (name : String) (type : Symbol) (offset : UInt64)
    (fields : List Parameter) : Except ResolveError Parameter := do
  let basicType ← resolver.basicType type
  let size ← resolver.size type
  return ⟨name, basicType, size, offset, fields⟩

/-- What is told of a parameter or field after its own fields involves no structure. -/
theorem liftExcept_layoutWith (resolver : Resolver) (name : String) (type : Symbol)
    (offset : UInt64) (fields : List Parameter) :
    (do
      let basicType ← layout.liftExcept (resolver.basicType type)
      let size ← layout.liftExcept (resolver.size type)
      return ⟨name, basicType, size, offset, fields⟩) =
      layout.liftExcept (resolver.layoutWith name type offset fields) := by
  rw [layoutWith]
  cases resolver.basicType type with
  | error => rfl
  | ok basic => cases resolver.size type <;> rfl

/-- The layout of a parameter or field inside the structures entered. -/
def layoutWithin (resolver : Resolver) :
    Nat → List Symbol → String → Symbol → UInt64 → Except ResolveError Parameter
  | 0, _, _, type, _ => .error (.recursiveStructure type)
  | levels + 1, entered, name, type, offset =>
    match resolver.document.structures.find? type with
    | none => resolver.layoutWith name type offset []
    | some fields =>
      if type ∈ entered then .error (.recursiveStructure type)
      else do
        let laidOut ← fields.entries.mapM fun (name, field) =>
          resolver.layoutWithin levels (type :: entered) name field.type (field.offset.getD 0)
        resolver.layoutWith name type offset laidOut

/-- A layout leaves the stack as it is, and its result is told by the structures entered. -/
theorem layout_steady (resolver : Resolver) (levels : Nat) (entered : List Symbol) (name : String)
    (type : Symbol) (offset : UInt64) :
    Expanding.Steady entered (resolver.layout levels name type offset)
      (resolver.layoutWithin levels entered name type offset) := by
  induction levels generalizing entered name type offset with
  | zero => exact .error _
  | succ levels ih =>
    simp only [layout, layoutWithin, liftExcept_layoutWith]
    cases resolver.document.structures.find? type with
    | none => exact .bind (.ok []) fun fields => .lift _
    | some fields =>
      by_cases member : type ∈ entered
      · simp only [if_pos member]
        exact .bind (.within_entered _ member) fun fields => .lift _
      · simp only [if_neg member]
        exact .bind (.within (.mapM fields.entries fun entry => ih ..) member) fun fields => .lift _

theorem layoutWith_eq_ok_iff {fields : List Parameter} {parameter : Parameter} :
    resolver.layoutWith name type offset fields = .ok parameter ↔
      ∃ basic size, resolver.basicType type = .ok basic ∧ resolver.size type = .ok size ∧
        parameter = ⟨name, basic, size, offset, fields⟩ := by
  rw [layoutWith]
  cases resolver.basicType type with
  | error => simp [Bind.bind, Except.bind]
  | ok basic =>
    cases resolver.size type <;>
      simp [Bind.bind, Except.bind, Pure.pure, Except.pure, eq_comm (a := parameter)]

/-- A layout is one over the layouts of the fields. -/
theorem layoutWithin_eq_ok {parameter : Parameter}
    (laidOut : resolver.layoutWithin levels entered name type offset = .ok parameter) :
    ∃ fields, resolver.layoutWith name type offset fields = .ok parameter := by
  cases levels with
  | zero => cases laidOut
  | succ levels =>
    rw [layoutWithin] at laidOut
    split at laidOut
    · exact ⟨[], laidOut⟩
    · split at laidOut
      · cases laidOut
      · obtain ⟨fields, _, last⟩ := bind_eq_ok_iff.mp laidOut
        exact ⟨fields, last⟩

/-- A layout has the name that is asked for. -/
theorem layoutWithin_name {parameter : Parameter}
    (laidOut : resolver.layoutWithin levels entered name type offset = .ok parameter) :
    parameter.name = name := by
  obtain ⟨fields, last⟩ := layoutWithin_eq_ok laidOut
  obtain ⟨basic, size, _, _, rfl⟩ := layoutWith_eq_ok_iff.mp last
  rfl

/-- The type has a layout inside some structures. -/
def HasLayout (resolver : Resolver) (type : Symbol) : Prop :=
  ∃ levels entered name offset parameter,
    resolver.layoutWithin levels entered name type offset = .ok parameter

/-- What has a layout has a size. -/
theorem HasLayout.sized (laidOut : resolver.HasLayout type) :
    ∃ size, resolver.size type = .ok size := by
  obtain ⟨_, _, _, _, _, laidOut⟩ := laidOut
  obtain ⟨fields, last⟩ := layoutWithin_eq_ok laidOut
  obtain ⟨_, size, _, ok, _⟩ := layoutWith_eq_ok_iff.mp last
  exact ⟨size, ok⟩

/-- Where a structure has a layout, the types of its fields have one. -/
theorem HasLayout.field {part : Symbol} (laidOut : resolver.HasLayout type)
    (held : resolver.document.HasField type part) : resolver.HasLayout part := by
  obtain ⟨levels, entered, _, _, _, laidOut⟩ := laidOut
  obtain ⟨fields, name, field, bound, named, rfl⟩ := held
  cases levels with
  | zero => cases laidOut
  | succ levels =>
    rw [layoutWithin, bound] at laidOut
    dsimp only at laidOut
    split at laidOut
    · cases laidOut
    · obtain ⟨_, all, _⟩ := bind_eq_ok_iff.mp laidOut
      obtain ⟨parameter, ok⟩ := isOk_of_mapM all (Listing.find?_eq_some_iff.mp named)
      exact ⟨levels, type :: entered, name, field.offset.getD 0, parameter, ok⟩

/-- So have all types that it leads to through fields. -/
theorem HasLayout.part {part : Symbol} (laidOut : resolver.HasLayout type)
    (leads : ReflTransGen resolver.document.HasField type part) : resolver.HasLayout part := by
  induction leads with
  | refl => exact laidOut
  | tail _ held ih => exact ih.field held

/-- A type has a layout if every type that it leads to through fields has a size and none of them
contains itself. The induction is on the levels; `Enclosed` makes sure that they suffice. -/
theorem layoutWithin_isOk (enclosed : resolver.document.Enclosed levels entered type)
    (sized : ∀ part, ReflTransGen resolver.document.HasField type part →
      ∃ size, resolver.size part = .ok size)
    (finite : ∀ part, ReflTransGen resolver.document.HasField type part →
      ¬ TransGen resolver.document.HasField part part) :
    ∃ parameter, resolver.layoutWithin levels entered name type offset = .ok parameter := by
  induction levels generalizing entered name type offset with
  | zero => exact absurd enclosed.levels_pos (Nat.lt_irrefl 0)
  | succ levels ih =>
    obtain ⟨size, ok⟩ := sized type .refl
    obtain ⟨basic, value, stands, _, _⟩ := size_eq_ok_iff.mp ok
    have last (fields : List Parameter) :
        ∃ parameter, resolver.layoutWith name type offset fields = .ok parameter :=
      ⟨_, layoutWith_eq_ok_iff.mpr ⟨basic, size, stands, ok, rfl⟩⟩
    have fresh := enclosed.fresh (finite type .refl)
    rw [layoutWithin]
    cases bound : resolver.document.structures.find? type with
    | none => exact last []
    | some fields =>
      obtain ⟨laidOut, all⟩ : ∃ laidOut, (fields.entries.mapM fun (name, field) =>
          resolver.layoutWithin levels (type :: entered) name field.type
            (field.offset.getD 0)) = .ok laidOut := by
        refine mapM_isOk fun (name, field) listed => ?_
        have held : resolver.document.HasField type field.type :=
          ⟨fields, name, field, bound, Listing.find?_eq_some_iff.mpr listed, rfl⟩
        exact ih (enclosed.field fresh held) (fun part leads => sized part (.head held leads))
          fun part leads => finite part (.head held leads)
      simp only [if_neg fresh, all]
      exact last laidOut

end Resolver

/-! ### Functions -/

/-- The names of the declared parameters, in calling order; none if none are given. -/
def Signature.parameterNames (signature : Signature) : List String :=
  match signature.parameters with
  | none => []
  | some parameters => parameters.entries.map Prod.fst

namespace Resolver
variable {resolver : Resolver} {module function name : String}
  {functions : Table String Signature} {signature : Signature} {type : Symbol}

/-- Parameters are laid out one by one, each outside of all structures. -/
theorem run_layouts (resolver : Resolver) (levels : Nat) (parameters : List (String × Symbol)) :
    ((parameters.mapM fun (name, type) => resolver.layout levels name type 0).run.run []).1 =
      parameters.mapM fun (name, type) => resolver.layoutWithin levels [] name type 0 :=
  congrArg Prod.fst <| Expanding.Steady.mapM parameters fun entry =>
    resolver.layout_steady levels [] entry.1 entry.2 0

/-- The parameters of a function are the layouts of those that it declares. -/
theorem functionParameters_eq {parameters : Listing Symbol}
    (bound : resolver.document.modules.find? module = some functions)
    (named : functions.find? function = some signature)
    (given : signature.parameters = some parameters) :
    resolver.functionParameters module function =
      parameters.entries.mapM fun (name, type) =>
        resolver.layoutWithin (resolver.document.structures.size + 1) [] name type 0 := by
  rw [functionParameters, bound]
  simp only [named, given, run_layouts]

/-- Where a function has its parameters, their types have layouts. -/
theorem hasLayout_of_functionParameters {parameters : Listing Symbol} {laidOut : List Parameter}
    (bound : resolver.document.modules.find? module = some functions)
    (named : functions.find? function = some signature)
    (given : signature.parameters = some parameters)
    (typed : parameters.find? name = some type)
    (ok : resolver.functionParameters module function = .ok laidOut) : resolver.HasLayout type := by
  rw [functionParameters_eq bound named given] at ok
  obtain ⟨parameter, ok⟩ := isOk_of_mapM ok (Listing.find?_eq_some_iff.mp typed)
  exact ⟨_, _, _, _, parameter, ok⟩

/-- A function has all its parameters, in calling order, if every type that they lead to through
fields has a size and no structure contains itself. -/
theorem functionParameters_isOk
    (bound : resolver.document.modules.find? module = some functions)
    (named : functions.find? function = some signature)
    (sized : ∀ parameters name type, signature.parameters = some parameters →
      parameters.find? name = some type →
      ∀ part, ReflTransGen resolver.document.HasField type part →
        ∃ size, resolver.size part = .ok size)
    (finite : ∀ type, ¬ TransGen resolver.document.HasField type type) :
    ∃ laidOut, resolver.functionParameters module function = .ok laidOut ∧
      laidOut.map Parameter.name = signature.parameterNames := by
  cases given : signature.parameters with
  | none =>
    refine ⟨[], ?_, by simp [Signature.parameterNames, given]⟩
    rw [functionParameters, bound]
    simp only [named, given]
  | some parameters =>
    rw [functionParameters_eq bound named given]
    obtain ⟨laidOut, all⟩ : ∃ laidOut, (parameters.entries.mapM fun (name, type) =>
        resolver.layoutWithin (resolver.document.structures.size + 1) [] name type 0) =
          .ok laidOut := by
      refine mapM_isOk fun (name, type) listed => ?_
      have typed : parameters.find? name = some type := Listing.find?_eq_some_iff.mpr listed
      exact layoutWithin_isOk (.start resolver.document type)
        (sized parameters name type given typed) fun part _ => finite part
    have names : List.Forall₂ (· = ·) (laidOut.map Parameter.name)
        (parameters.entries.map Prod.fst) := by
      rw [List.forall₂_map_left_iff, List.forall₂_map_right_iff]
      exact ((mapM_eq_ok_iff.mp all).imp fun _ _ => layoutWithin_name).flip
    rw [List.forall₂_eq_eq_eq] at names
    exact ⟨laidOut, all, by rw [Signature.parameterNames, given, names]⟩

end Resolver

namespace Document
variable {document : Document} {width : AddressWidth} {aliases : AliasTable}

/-- The signature of a function of a module. -/
def signature? (document : Document) (module function : String) : Option Signature :=
  (document.modules.find? module).bind fun functions => functions.find? function

/-- A width that the document has aliases for has a view of the document. -/
theorem resolver_eq_ok (bound : document.aliases? width = some aliases) :
    document.resolver width.name = .ok ⟨document, width, aliases, bound⟩ := by
  unfold resolver
  split
  · rename_i found same
    obtain rfl : found = aliases := Option.some.inj (same.symm.trans bound)
    rfl
  · rename_i none
    exact absurd (none.symm.trans bound) (by simp)

theorem resolver_eq_error (absent : document.aliases? width = none) :
    document.resolver width.name = .error (.unknownAddressWidth width.name) := by
  unfold resolver
  split
  · rename_i found
    exact absurd (found.symm.trans absent) (by simp)
  · rfl

/-- In a width that the document has aliases for, a function is described by its parameters in the
view of that width. -/
theorem describe_eq (bound : document.aliases? width = some aliases) (module function : String) :
    document.describe module function width.name =
      (Resolver.functionParameters ⟨document, width, aliases, bound⟩ module function).mapError
        Failure.ofResolveError := by
  rw [describe, parametersOf, resolver_eq_ok bound]

end Document
end CallSchema
