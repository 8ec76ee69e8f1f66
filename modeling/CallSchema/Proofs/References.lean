import CallSchema.Proofs.Members
import CallSchema.References
import CallSchema.Session

/-!
What a document uses and defines, said by its entries. The sets that the checks work on leave
structures out and put the widths together; each is told here by the symbols in it, so that no check
has to look at how they are collected. All of them together, and what has no part in them, is
`collected_exact`.
-/
namespace CallSchema

namespace Document

/-- Some function has a parameter of the type. -/
def IsParameterType (document : Document) (type : Symbol) : Prop :=
  ∃ module functions function signature parameters name,
    document.modules.find? module = some functions ∧ functions.find? function = some signature ∧
      signature.parameters = some parameters ∧ parameters.find? name = some type

/-- A structure has a field of the type. -/
def HasField (document : Document) (holder type : Symbol) : Prop :=
  ∃ fields name field, document.structures.find? holder = some fields ∧
    fields.find? name = some field ∧ field.type = type

/-- Some structure has a field of the type. -/
def IsFieldType (document : Document) (type : Symbol) : Prop :=
  ∃ holder, document.HasField holder type

/-- Some width has an alias of the name. -/
def IsAliasName (document : Document) (name : Symbol) : Prop :=
  ∃ width aliases, document.aliases? width = some aliases ∧ aliases.contains name

/-- Some width has an alias with the target. -/
def IsAliasTarget (document : Document) (target : Symbol) : Prop :=
  ∃ width aliases name, document.aliases? width = some aliases ∧ aliases.find? name = some target

/-- The symbol names a structure, an alias of some width or a backing type. -/
def IsDefined (document : Document) (symbol : Symbol) : Prop :=
  document.structures.contains symbol ∨ document.IsAliasName symbol ∨
    document.backing.contains symbol

variable {document : Document} {symbol type name target : Symbol}

/-! ### What is listed -/

theorem mem_declaredParameterTypes :
    type ∈ document.declaredParameterTypes ↔ document.IsParameterType type := by
  simp only [declaredParameterTypes, List.mem_flatMap, Table.mem_values]
  constructor
  · rintro ⟨functions, ⟨module, bound⟩, signature, ⟨function, named⟩, listed⟩
    split at listed
    · exact absurd listed List.not_mem_nil
    · rename_i parameters given
      obtain ⟨name, typed⟩ := Listing.mem_values.mp listed
      exact ⟨module, functions, function, signature, parameters, name, bound, named, given, typed⟩
  · rintro ⟨module, functions, function, signature, parameters, name, bound, named, given, typed⟩
    refine ⟨functions, ⟨module, bound⟩, signature, ⟨function, named⟩, ?_⟩
    rw [given]
    exact Listing.mem_values.mpr ⟨name, typed⟩

theorem mem_fieldTypes : type ∈ document.fieldTypes ↔ document.IsFieldType type := by
  simp only [fieldTypes, List.mem_flatMap, List.mem_map, Table.mem_values, Listing.mem_values]
  constructor
  · rintro ⟨fields, ⟨holder, bound⟩, field, ⟨name, named⟩, typed⟩
    exact ⟨holder, fields, name, field, bound, named, typed⟩
  · rintro ⟨holder, fields, name, field, bound, named, typed⟩
    exact ⟨fields, ⟨holder, bound⟩, field, ⟨name, named⟩, typed⟩

theorem mem_aliasBindings : (name, target) ∈ document.aliasBindings ↔
    ∃ width aliases, document.aliases? width = some aliases ∧ aliases.find? name = some target := by
  simp only [aliasBindings, List.mem_flatMap, Table.mem_values, aliases?, Table.find?_eq_some_iff]
  constructor
  · rintro ⟨aliases, ⟨width, bound⟩, listed⟩
    exact ⟨width, aliases, bound, listed⟩
  · rintro ⟨width, aliases, bound, listed⟩
    exact ⟨aliases, ⟨width, bound⟩, listed⟩

/-! ### What is collected -/

/-- Structures are left out of the types of parameters, and the types of all fields put in. -/
theorem mem_parameterTypes : symbol ∈ document.references.parameterTypes ↔
    (document.IsParameterType symbol ∨ document.IsFieldType symbol) ∧
      ¬ document.structures.contains symbol := by
  simp only [references, SymbolSet.mem_ofList, List.mem_append, List.mem_filter,
    mem_declaredParameterTypes, mem_fieldTypes, Bool.not_eq_true', Bool.not_eq_true]
  exact or_and_right.symm

theorem mem_structParameterTypes : symbol ∈ document.references.structParameterTypes ↔
    document.IsFieldType symbol ∧ ¬ document.structures.contains symbol := by
  simp only [references, SymbolSet.mem_ofList, List.mem_filter, mem_fieldTypes, Bool.not_eq_true',
    Bool.not_eq_true]

theorem mem_structNames :
    symbol ∈ document.definitions.structNames ↔ document.structures.contains symbol :=
  Table.mem_symbols

theorem mem_backingNames :
    symbol ∈ document.definitions.backingNames ↔ document.backing.contains symbol :=
  Table.mem_symbols

/-- The names of all widths count together. -/
theorem mem_highLevelNames :
    symbol ∈ document.definitions.highLevelNames ↔ document.IsAliasName symbol := by
  simp only [definitions, SymbolSet.mem_ofList, List.mem_map, Prod.exists, exists_and_right,
    exists_eq_right, mem_aliasBindings, IsAliasName, Table.contains_iff]
  constructor
  · rintro ⟨target, width, aliases, bound, named⟩
    exact ⟨width, aliases, bound, target, named⟩
  · rintro ⟨width, aliases, bound, target, named⟩
    exact ⟨target, width, aliases, bound, named⟩

/-- The targets of all widths count together, also those of one name. -/
theorem mem_highLevelTargets :
    symbol ∈ document.definitions.highLevelTargets ↔ document.IsAliasTarget symbol := by
  simp only [definitions, SymbolSet.mem_ofList, List.mem_map, Prod.exists, exists_eq_right,
    mem_aliasBindings, IsAliasTarget]
  constructor
  · rintro ⟨name, width, aliases, bound, named⟩
    exact ⟨width, aliases, name, bound, named⟩
  · rintro ⟨width, aliases, name, bound, named⟩
    exact ⟨name, width, aliases, bound, named⟩

theorem defines_iff : document.definitions.defines symbol = true ↔ document.IsDefined symbol := by
  simp only [Definitions.defines, Bool.or_eq_true, SymbolSet.contains_iff, mem_structNames,
    mem_highLevelNames, mem_backingNames, IsDefined, or_assoc]

/-! ### What has no part in it -/

section
variable {functions : Table String Signature} {module function : String}

/-- The document without a function of a module that has these functions. -/
def withoutFunction (document : Document) (functions : Table String Signature)
    (module function : String) : Document :=
  { document with modules := document.modules.insert module (functions.erase function) }

theorem edit?_removeFunction (bound : document.modules.find? module = some functions)
    (named : functions.contains function = true) :
    document.edit? (.removeFunction module function) =
      some (document.withoutFunction functions module function) := by
  simp [edit?, Table.change?, Table.erase?, bound, named, withoutFunction]

/-- A function that gives no parameters makes nothing the type of a parameter. -/
theorem isParameterType_withoutFunction (bound : document.modules.find? module = some functions)
    (bare : functions.find? function = some ⟨none⟩) :
    (document.withoutFunction functions module function).IsParameterType type ↔
      document.IsParameterType type := by
  constructor
  · rintro ⟨other, table, called, signature, parameters, name, held, named, given, typed⟩
    refine ⟨other, ?_⟩
    by_cases same : module = other
    · subst same
      rw [withoutFunction, Table.find?_insert_self] at held
      cases held
      have kept : function ≠ called := by
        rintro rfl
        rw [Table.find?_erase_self] at named
        cases named
      rw [Table.find?_erase_of_ne kept] at named
      exact ⟨functions, called, signature, parameters, name, bound, named, given, typed⟩
    · rw [withoutFunction, Table.find?_insert_of_ne same] at held
      exact ⟨table, called, signature, parameters, name, held, named, given, typed⟩
  · rintro ⟨other, table, called, signature, parameters, name, held, named, given, typed⟩
    refine ⟨other, ?_⟩
    by_cases same : module = other
    · subst same
      obtain rfl : functions = table := Option.some.inj (bound.symm.trans held)
      have kept : function ≠ called := by
        rintro rfl
        rw [bare] at named
        cases named
        cases given
      rw [← Table.find?_erase_of_ne kept] at named
      exact ⟨_, called, signature, parameters, name, Table.find?_insert_self, named, given, typed⟩
    · have elsewhere : (document.modules.insert module (functions.erase function)).find? other =
          document.modules.find? other := Table.find?_insert_of_ne same
      exact ⟨table, called, signature, parameters, name, elsewhere.trans held, named, given, typed⟩

/-- Without a function that gives no parameters, a document uses the same types. -/
theorem references_withoutFunction (bound : document.modules.find? module = some functions)
    (bare : functions.find? function = some ⟨none⟩) :
    (document.withoutFunction functions module function).references = document.references := by
  have types : (document.withoutFunction functions module function).references.parameterTypes =
      document.references.parameterTypes := by
    refine SymbolSet.ext fun symbol => ?_
    rw [mem_parameterTypes, mem_parameterTypes, isParameterType_withoutFunction bound bare]
    -- the structures are the same, and with them the types of all fields
    exact Iff.rfl
  exact congrArg (References.mk · document.references.structParameterTypes) types

end

/-- **What is collected is what the entries say.** The types of fields are those of all fields of
all structures, and the types of parameters are those together with the parameters of all functions;
names of structures are left out of both. A function that gives no parameters has no part in them,
and structures have theirs whatever the functions are. The names of structures and of backing types
are those of their entries, and the names and targets of aliases are those of every width, so that a
name with different targets in two widths adds them all. A symbol is defined exactly if it is the
name of a structure, of a backing type or of an alias in some width. -/
theorem collected_exact (document : Document) :
    (∀ type, type ∈ document.references.structParameterTypes ↔
      document.IsFieldType type ∧ ¬ document.structures.contains type) ∧
    (∀ type, type ∈ document.references.parameterTypes ↔
      (document.IsParameterType type ∨ document.IsFieldType type) ∧
        ¬ document.structures.contains type) ∧
    (∀ module functions function, document.modules.find? module = some functions →
      functions.find? function = some ⟨none⟩ →
      ∃ less, document.edit? (.removeFunction module function) = some less ∧
        less.references = document.references) ∧
    (∀ modules type, document.IsFieldType type → ¬ document.structures.contains type →
      type ∈ { document with modules }.references.structParameterTypes ∧
        type ∈ { document with modules }.references.parameterTypes) ∧
    (∀ name, name ∈ document.definitions.structNames ↔ document.structures.contains name) ∧
    (∀ name, name ∈ document.definitions.backingNames ↔ document.backing.contains name) ∧
    (∀ name, name ∈ document.definitions.highLevelNames ↔
      ∃ width aliases, document.aliases? width = some aliases ∧ aliases.contains name) ∧
    (∀ target, target ∈ document.definitions.highLevelTargets ↔
      ∃ width aliases name, document.aliases? width = some aliases ∧
        aliases.find? name = some target) ∧
    ∀ symbol, document.definitions.defines symbol = true ↔
      document.structures.contains symbol ∨ document.backing.contains symbol ∨
        ∃ width aliases, document.aliases? width = some aliases ∧ aliases.contains symbol := by
  refine ⟨fun _ => mem_structParameterTypes, fun _ => mem_parameterTypes, ?_, ?_,
    fun _ => mem_structNames, fun _ => mem_backingNames, fun _ => mem_highLevelNames,
    fun _ => mem_highLevelTargets, fun symbol => ?_⟩
  · intro module functions function bound bare
    have named : functions.contains function = true := Table.contains_iff.mpr ⟨_, bare⟩
    exact ⟨_, edit?_removeFunction bound named, references_withoutFunction bound bare⟩
  · intro modules type typed unstructured
    exact ⟨mem_structParameterTypes.mpr ⟨typed, unstructured⟩,
      mem_parameterTypes.mpr ⟨.inr typed, unstructured⟩⟩
  · rw [defines_iff, IsDefined, or_comm (b := document.backing.contains symbol = true)]
    exact Iff.rfl

end Document
end CallSchema
