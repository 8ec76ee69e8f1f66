import CallSchema.Proofs.Dependence

/-!
Declarations in full. A declaration unfolds to its name and offset, to the backing type and size
that its type stands for and, if that is a structure, to what each field of it unfolds to, in order
(`Unfolds`). A layout is what its declaration unfolds to, and the other way round; the stack of
structures entered makes no difference to that. So the parameters of a function are what its
declarations unfold to, and they are there exactly if every type that the function reaches has a
size and none of these contains itself (`functionParameters_exact`).
-/
namespace CallSchema
open Relation

/-! ### Declarations -/

/-- A parameter or field as it is declared. -/
structure Declaration where
  name : String
  type : Symbol
  offset : UInt64

/-- The declared parameters, in calling order; none if none are given. -/
def Signature.declarations (signature : Signature) : List Declaration :=
  match signature.parameters with
  | none => []
  | some parameters => parameters.entries.map fun (name, type) => ⟨name, type, 0⟩

theorem Signature.types_eq (signature : Signature) :
    signature.types = signature.declarations.map Declaration.type := by
  rw [types, declarations]
  cases signature.parameters with
  | none => rfl
  | some parameters => simp [Listing.values, Function.comp_def]

namespace Document
variable {document : Document} {signature : Signature} {holder type : Symbol}

/-- The declared fields of a structure, in order; none if the type is no structure. A field that
gives no offset has the offset zero. -/
def declarations (document : Document) (type : Symbol) : List Declaration :=
  match document.structures.find? type with
  | none => []
  | some fields => fields.entries.map fun (name, field) => ⟨name, field.type, field.offset.getD 0⟩

theorem hasField_iff : document.HasField holder type ↔
    ∃ declaration ∈ document.declarations holder, declaration.type = type := by
  rw [HasField, declarations]
  cases bound : document.structures.find? holder with
  | none => simp
  | some fields => simp [Listing.find?_eq_some_iff]

theorem HasField.of_declared {declaration : Declaration}
    (declared : declaration ∈ document.declarations holder) :
    document.HasField holder declaration.type :=
  hasField_iff.mpr ⟨declaration, declared, rfl⟩

/-- The types that a function reaches: those that it takes, and the types of the fields of a
structure that it reaches. -/
inductive Reachable (document : Document) (signature : Signature) : Symbol → Prop where
  | taken {type : Symbol} (taken : type ∈ signature.types) : Reachable document signature type
  | field {holder type : Symbol} (reachable : Reachable document signature holder)
      (held : document.HasField holder type) : Reachable document signature type

theorem Reachable.part {part : Symbol} (reachable : document.Reachable signature type)
    (leads : ReflTransGen document.HasField type part) : document.Reachable signature part := by
  induction leads with
  | refl => exact reachable
  | tail _ held ih => exact ih.field held

theorem reachable_iff : document.Reachable signature type ↔
    ∃ declaration ∈ signature.declarations,
      ReflTransGen document.HasField declaration.type type := by
  constructor
  · intro reachable
    induction reachable with
    | taken taken =>
      rw [Signature.types_eq] at taken
      obtain ⟨declaration, declared, rfl⟩ := List.mem_map.mp taken
      exact ⟨declaration, declared, .refl⟩
    | field _ held ih =>
      obtain ⟨declaration, declared, leads⟩ := ih
      exact ⟨declaration, declared, leads.tail held⟩
  · rintro ⟨declaration, declared, leads⟩
    have taken : declaration.type ∈ signature.types := by
      rw [Signature.types_eq]
      exact List.mem_map_of_mem declared
    exact (Reachable.taken taken).part leads

end Document

namespace Resolver
variable {resolver : Resolver} {declaration : Declaration} {parameter : Parameter}
  {signature : Signature} {module function : String} {levels : Nat} {entered : List Symbol}

/-- The parameter or field is what the declaration stands for in full: it has the declared name and
offset, the backing type and the size that the declared type stands for, and for its fields what the
fields of the declared type unfold to, one after the other. -/
inductive Unfolds (resolver : Resolver) : Declaration → Parameter → Prop where
  | mk {declaration : Declaration} {basic : Symbol} {size : UInt64} {fields : List Parameter}
      (stands : resolver.basicType declaration.type = .ok basic)
      (sized : resolver.size declaration.type = .ok size)
      (each : List.Forall₂ (Unfolds resolver)
        (resolver.document.declarations declaration.type) fields) :
      Unfolds resolver declaration
        ⟨declaration.name, basic, size, declaration.offset, fields⟩

/-! ### What unfolds -/

theorem Unfolds.sized (unfolds : resolver.Unfolds declaration parameter) :
    ∃ size, resolver.size declaration.type = .ok size := by
  cases unfolds with
  | mk _ sized _ => exact ⟨_, sized⟩

/-- Where the declared fields of a structure unfold, the type of each of its fields does. -/
theorem exists_unfolds_of_hasField {holder part : Symbol} {fields : List Parameter}
    (each : List.Forall₂ resolver.Unfolds (resolver.document.declarations holder) fields)
    (held : resolver.document.HasField holder part) :
    ∃ inner, ∃ field ∈ fields, resolver.Unfolds inner field ∧ inner.type = part := by
  obtain ⟨inner, declared, typed⟩ := Document.hasField_iff.mp held
  obtain ⟨field, member, unfolds⟩ := exists_of_mem_forall₂ each declared
  exact ⟨inner, field, member, unfolds, typed⟩

/-- Where a type unfolds, so does every type that it leads to through fields. -/
theorem Unfolds.part {part : Symbol} (unfolds : resolver.Unfolds declaration parameter)
    (leads : ReflTransGen resolver.document.HasField declaration.type part) :
    ∃ inner field, resolver.Unfolds inner field ∧ inner.type = part := by
  induction leads with
  | refl => exact ⟨declaration, parameter, unfolds, rfl⟩
  | tail _ held ih =>
    obtain ⟨_, _, ⟨_, _, each⟩, rfl⟩ := ih
    obtain ⟨inner, field, -, unfolds, typed⟩ := exists_unfolds_of_hasField each held
    exact ⟨inner, field, unfolds, typed⟩

/-- A structure that contains itself does not unfold. The recursion is on what it would unfold to: a
field that leads back to the structure contains itself too. -/
theorem Unfolds.finite {declaration : Declaration} {parameter : Parameter}
    (unfolds : resolver.Unfolds declaration parameter) :
    ¬ TransGen resolver.document.HasField declaration.type declaration.type := by
  intro ring
  obtain ⟨_, _, each⟩ := unfolds
  obtain ⟨part, held, back⟩ := TransGen.head'_iff.mp ring
  obtain ⟨inner, field, member, unfolds, rfl⟩ := exists_unfolds_of_hasField each held
  have smaller := List.sizeOf_lt_of_mem member
  exact unfolds.finite (TransGen.tail' back held)
termination_by parameter

/-! ### Layouts unfold declarations -/

/-- The layout of a declaration inside the structures entered. -/
def layoutOf (resolver : Resolver) (levels : Nat) (entered : List Symbol)
    (declaration : Declaration) : Except ResolveError Parameter :=
  resolver.layoutWithin levels entered declaration.name declaration.type declaration.offset

/-- Fields are laid out before the declaration that they belong to, if that is not entered. -/
theorem layoutOf_succ : resolver.layoutOf (levels + 1) entered declaration =
    if resolver.document.structures.contains declaration.type ∧ declaration.type ∈ entered then
      .error (.recursiveStructure declaration.type)
    else
      (resolver.document.declarations declaration.type).mapM
          (resolver.layoutOf levels (declaration.type :: entered)) >>=
        resolver.layoutWith declaration.name declaration.type declaration.offset := by
  rw [layoutOf, layoutWithin, Document.declarations, Table.contains]
  cases resolver.document.structures.find? declaration.type with
  | none => rfl
  | some fields =>
    rw [List.mapM_map]
    by_cases member : declaration.type ∈ entered
    · simp [member]
    · simp [member, Function.comp_def, layoutOf]

/-- What a layout gives is what the declaration unfolds to. -/
theorem unfolds_of_layoutOf
    (laidOut : resolver.layoutOf levels entered declaration = .ok parameter) :
    resolver.Unfolds declaration parameter := by
  induction levels generalizing entered declaration parameter with
  | zero => cases laidOut
  | succ levels ih =>
    rw [layoutOf_succ] at laidOut
    split at laidOut
    · cases laidOut
    · obtain ⟨fields, all, last⟩ := bind_eq_ok_iff.mp laidOut
      obtain ⟨basic, size, stands, sized, rfl⟩ := layoutWith_eq_ok_iff.mp last
      exact .mk stands sized ((mapM_eq_ok_iff.mp all).imp fun _ _ => ih)

/-- What a declaration unfolds to is its layout. The induction is on the levels; `Enclosed` makes
sure that they suffice. -/
theorem layoutOf_of_unfolds (unfolds : resolver.Unfolds declaration parameter)
    (enclosed : resolver.document.Enclosed levels entered declaration.type) :
    resolver.layoutOf levels entered declaration = .ok parameter := by
  induction levels generalizing entered declaration parameter with
  | zero => exact absurd enclosed.levels_pos (Nat.lt_irrefl 0)
  | succ levels ih =>
    have fresh := enclosed.fresh unfolds.finite
    obtain ⟨stands, sized, each⟩ := unfolds
    have held : ∀ inner ∈ resolver.document.declarations declaration.type,
        resolver.document.HasField declaration.type inner.type :=
      fun _ declared => Document.HasField.of_declared declared
    rw [layoutOf_succ, if_neg fun entered => fresh entered.2]
    refine bind_eq_ok_iff.mpr ⟨_, mapM_eq_ok_iff.mpr ?_, layoutWith_eq_ok_iff.mpr
      ⟨_, _, stands, sized, rfl⟩⟩
    exact ((List.forall₂_and_left _ _).mpr ⟨held, each⟩).imp fun inner field both =>
      ih both.2 (enclosed.field fresh both.1)

/-! ### The parameters of a function -/

/-- The parameters of a function are the layouts of its declarations, in calling order. -/
theorem functionParameters_eq_mapM
    (described : resolver.document.signature? module function = some signature) :
    resolver.functionParameters module function =
      signature.declarations.mapM
        (resolver.layoutOf (resolver.document.structures.size + 1) []) := by
  obtain ⟨functions, bound, named⟩ := Option.bind_eq_some_iff.mp described
  cases given : signature.parameters with
  | none =>
    rw [functionParameters, bound, Signature.declarations]
    simp only [named, given]
    rfl
  | some parameters =>
    rw [functionParameters_eq bound named given, Signature.declarations, given, List.mapM_map]
    rfl

/-- A function that has its parameters is one of the document's. -/
theorem exists_signature_of_functionParameters {forest : List Parameter}
    (ok : resolver.functionParameters module function = .ok forest) :
    ∃ signature, resolver.document.signature? module function = some signature := by
  rw [functionParameters] at ok
  split at ok
  · cases ok
  · rename_i functions bound
    split at ok
    · cases ok
    · rename_i signature named
      exact ⟨signature, Option.bind_eq_some_iff.mpr ⟨functions, bound, named⟩⟩

/-- A function has the parameters that its declarations unfold to, one after the other, and no
others. -/
theorem functionParameters_eq_ok_iff {forest : List Parameter}
    (described : resolver.document.signature? module function = some signature) :
    resolver.functionParameters module function = .ok forest ↔
      List.Forall₂ resolver.Unfolds signature.declarations forest := by
  rw [functionParameters_eq_mapM described, mapM_eq_ok_iff]
  constructor
  · exact List.Forall₂.imp fun _ _ => unfolds_of_layoutOf
  · exact List.Forall₂.imp fun declaration _ unfolds =>
      layoutOf_of_unfolds unfolds (.start resolver.document declaration.type)

/-- Where a function has its parameters, each type that it reaches unfolds. -/
theorem exists_unfolds_of_reachable {forest : List Parameter} {type : Symbol}
    (all : List.Forall₂ resolver.Unfolds signature.declarations forest)
    (reachable : resolver.document.Reachable signature type) :
    ∃ inner field, resolver.Unfolds inner field ∧ inner.type = type := by
  obtain ⟨declaration, declared, leads⟩ := Document.reachable_iff.mp reachable
  obtain ⟨parameter, _, unfolds⟩ := exists_of_mem_forall₂ all declared
  exact unfolds.part leads

/-- **A function has its parameters in full.** They are there exactly if every type that the
function reaches has a size and none of these contains itself through fields. If they are, they are
what the declarations unfold to, in calling order, and a function that gives no parameters has an
empty list. -/
theorem functionParameters_exact (resolver : Resolver) (module function : String)
    (signature : Signature)
    (described : resolver.document.signature? module function = some signature) :
    ((∃ forest, resolver.functionParameters module function = .ok forest) ↔
      (∀ type, resolver.document.Reachable signature type →
        ∃ size, resolver.size type = .ok size) ∧
      ∀ type, resolver.document.Reachable signature type →
        ¬ TransGen resolver.document.HasField type type) ∧
    (∀ forest, resolver.functionParameters module function = .ok forest ↔
      List.Forall₂ resolver.Unfolds signature.declarations forest) ∧
    (signature.parameters = none → resolver.functionParameters module function = .ok []) := by
  refine ⟨⟨?_, ?_⟩, fun _ => functionParameters_eq_ok_iff described, fun none => ?_⟩
  · rintro ⟨forest, ok⟩
    have all := (functionParameters_eq_ok_iff described).mp ok
    constructor
    · intro type reachable
      obtain ⟨inner, field, unfolds, rfl⟩ := exists_unfolds_of_reachable all reachable
      exact unfolds.sized
    · intro type reachable
      obtain ⟨inner, field, unfolds, rfl⟩ := exists_unfolds_of_reachable all reachable
      exact unfolds.finite
  · rintro ⟨sized, finite⟩
    rw [functionParameters_eq_mapM described]
    refine mapM_isOk fun declaration declared => ?_
    have reachable (part : Symbol)
        (leads : ReflTransGen resolver.document.HasField declaration.type part) :
        resolver.document.Reachable signature part :=
      Document.reachable_iff.mpr ⟨declaration, declared, leads⟩
    exact layoutWithin_isOk (.start resolver.document declaration.type)
      (fun part leads => sized part (reachable part leads))
      fun part leads => finite part (reachable part leads)
  · rw [functionParameters_eq_mapM described, Signature.declarations, none]
    rfl

/-- A function that takes a handle and a rectangle, which holds one structure twice. The inner
structure is a backing type as well. -/
def moveWindowTo : Signature := ⟨some (.ofList [("hWnd", handleType), ("lpRect", ⟨"RECT"⟩)])⟩

/-- The width that the function is described in. -/
def corners : Resolver where
  document :=
    { modules := .ofList [("user32.dll", .ofList [("MoveWindow", moveWindowTo)])]
      structures := .ofList [
        (⟨"POINT"⟩, .ofList [("x", ⟨⟨"LONG"⟩, none⟩), ("y", ⟨⟨"LONG"⟩, some 4⟩)]),
        (⟨"RECT"⟩, .ofList [("from", ⟨⟨"POINT"⟩, some 0⟩), ("to", ⟨⟨"POINT"⟩, some 8⟩)])]
      highLevel := .ofList [(⟨"AddressWidth64Bit"⟩, .ofList [(handleType, ⟨"uint64_t"⟩)])]
      backing := .ofList [(⟨"LONG"⟩, .int 4), (⟨"POINT"⟩, .tagged "pair" (.int 8)),
        (⟨"uint64_t"⟩, .int 8)] }
  width := ⟨"AddressWidth64Bit"⟩
  aliases := .ofList [(handleType, ⟨"uint64_t"⟩)]
  bound := by decide

/-- The inner structure, wherever it stands. -/
def cornerAt (name : String) (offset : UInt64) : Parameter :=
  ⟨name, ⟨"POINT"⟩, 8, offset, [⟨"x", ⟨"LONG"⟩, 4, 0, []⟩, ⟨"y", ⟨"LONG"⟩, 4, 4, []⟩]⟩

theorem corners_unfolds (name : String) (offset : UInt64) :
    corners.Unfolds ⟨name, ⟨"POINT"⟩, offset⟩ (cornerAt name offset) :=
  .mk rfl rfl (.cons (.mk rfl rfl .nil) (.cons (.mk rfl rfl .nil) .nil))

/-- The structure that occurs twice is laid out twice, and no type that the function reaches
contains itself. -/
theorem corners_moveWindow :
    corners.document.signature? "user32.dll" "MoveWindow" = some moveWindowTo ∧
    corners.functionParameters "user32.dll" "MoveWindow" =
      .ok [⟨"hWnd", ⟨"uint64_t"⟩, 8, 0, []⟩,
        ⟨"lpRect", ⟨"uint64_t"⟩, 8, 0, [cornerAt "from" 0, cornerAt "to" 8]⟩] ∧
    ∀ type, corners.document.Reachable moveWindowTo type →
      ¬ TransGen corners.document.HasField type type := by
  have described : corners.document.signature? "user32.dll" "MoveWindow" = some moveWindowTo := rfl
  obtain ⟨isOk, exact, -⟩ :=
    functionParameters_exact corners "user32.dll" "MoveWindow" moveWindowTo described
  have inner : List.Forall₂ corners.Unfolds (corners.document.declarations ⟨"RECT"⟩)
      [cornerAt "from" 0, cornerAt "to" 8] :=
    .cons (corners_unfolds "from" 0) (.cons (corners_unfolds "to" 8) .nil)
  have forest := (exact _).mpr (.cons (.mk rfl rfl .nil) (.cons (.mk rfl rfl inner) .nil))
  exact ⟨described, forest, (isOk.mp ⟨_, forest⟩).2⟩

end Resolver
end CallSchema
