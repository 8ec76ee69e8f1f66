import CallSchema.Consistency
import CallSchema.Proofs.AliasRing
import CallSchema.Proofs.References

/-!
What a check of a document finds, said by the document's entries alone. `Faulty` tells the symbols
that each check of names is after; a report lists exactly these sets, followed by one ring for each
name that leads into one. The checks of names work on sets, and what they come to is told for any
sets first (`Definitions.AtFault`). `Consistent` is what a report without findings is worth to those
who work with the document.
-/
namespace CallSchema
open Walk

namespace FindingKind

/-- The kinds that are found by checks of names, in the order of reports. -/
def ofNames : List FindingKind :=
  [missingFunctionParameter, missingStructParameter, missingHighLevelTarget,
   ambiguousHighLevelAndBacking, ambiguousHighLevelAndStruct, ambiguousStructAndBacking]

/-- Rings are the only kind that is not found by a check of names. -/
theorem mem_ofNames {kind : FindingKind} : kind ∈ ofNames ↔ kind ≠ aliasCycle := by
  cases kind <;> decide

end FindingKind

/-! ### Checks of names on any sets -/

namespace Definitions
variable {definitions : Definitions} {references : References} {kind : FindingKind}
  {symbol : Symbol}

/-- The symbol has a meaning of some kind. -/
def Means (definitions : Definitions) (symbol : Symbol) : Prop :=
  symbol ∈ definitions.structNames ∨ symbol ∈ definitions.highLevelNames ∨
    symbol ∈ definitions.backingNames

theorem defines_eq_true_iff : definitions.defines symbol = true ↔ definitions.Means symbol := by
  simp only [defines, Means, Bool.or_eq_true, SymbolSet.contains_iff, or_assoc]

/-- The symbols that a check of names is after, by kind of inconsistency, whatever sets it is made
on. -/
def AtFault (definitions : Definitions) (references : References) : FindingKind → Symbol → Prop
  | .missingFunctionParameter, symbol =>
    symbol ∈ references.parameterTypes ∧ ¬ definitions.Means symbol
  | .missingStructParameter, symbol =>
    symbol ∈ references.structParameterTypes ∧ ¬ definitions.Means symbol
  | .missingHighLevelTarget, symbol =>
    symbol ∈ definitions.highLevelTargets ∧
      ¬ (symbol ∈ definitions.highLevelNames ∨ symbol ∈ definitions.backingNames)
  | .ambiguousHighLevelAndBacking, symbol =>
    symbol ∈ definitions.highLevelNames ∧ symbol ∈ definitions.backingNames
  | .ambiguousHighLevelAndStruct, symbol =>
    symbol ∈ definitions.highLevelNames ∧ symbol ∈ definitions.structNames
  | .ambiguousStructAndBacking, symbol =>
    symbol ∈ definitions.structNames ∧ symbol ∈ definitions.backingNames
  | .aliasCycle, _ => False

theorem AtFault.named (fault : definitions.AtFault references kind symbol) :
    kind ∈ FindingKind.ofNames := by
  rw [FindingKind.mem_ofNames]
  rintro rfl
  exact fault

/-- The set that a check of names puts into its finding. -/
def faults (definitions : Definitions) (references : References) : FindingKind → SymbolSet
  | .missingFunctionParameter => definitions.undefinedIn references.parameterTypes
  | .missingStructParameter => definitions.undefinedIn references.structParameterTypes
  | .missingHighLevelTarget => definitions.highLevelTargets.filter fun target =>
      !definitions.highLevelNames.contains target && !definitions.backingNames.contains target
  | .ambiguousHighLevelAndBacking => definitions.highLevelNames.inter definitions.backingNames
  | .ambiguousHighLevelAndStruct => definitions.highLevelNames.inter definitions.structNames
  | .ambiguousStructAndBacking => definitions.structNames.inter definitions.backingNames
  | .aliasCycle => .empty

theorem mem_undefinedIn {used : SymbolSet} : symbol ∈ definitions.undefinedIn used ↔
    symbol ∈ used ∧ ¬ definitions.Means symbol := by
  rw [undefinedIn, SymbolSet.mem_filter, Bool.not_eq_true', ← Bool.not_eq_true, defines_eq_true_iff]

/-- Each check of names finds the symbols that it is after. -/
theorem mem_faults :
    symbol ∈ definitions.faults references kind ↔ definitions.AtFault references kind symbol := by
  cases kind with
  | missingFunctionParameter => exact mem_undefinedIn
  | missingStructParameter => exact mem_undefinedIn
  | missingHighLevelTarget =>
    simp only [faults, AtFault, SymbolSet.mem_filter, Bool.and_eq_true, Bool.not_eq_true',
      ← Bool.not_eq_true, SymbolSet.contains_iff, not_or]
  | ambiguousHighLevelAndBacking => exact SymbolSet.mem_inter
  | ambiguousHighLevelAndStruct => exact SymbolSet.mem_inter
  | ambiguousStructAndBacking => exact SymbolSet.mem_inter
  | aliasCycle => exact iff_of_false SymbolSet.mem_empty id

theorem nameFindings_eq_filterMap (definitions : Definitions) (references : References) :
    nameFindings references definitions = FindingKind.ofNames.filterMap fun kind =>
      Finding.ofSet? kind (definitions.faults references kind) := rfl

/-- The checks of names come to a list of sets, of which the empty ones are left out. -/
theorem nameFindings_eq (definitions : Definitions) (references : References) :
    nameFindings references definitions =
      (FindingKind.ofNames.filter fun kind => !(definitions.faults references kind).isEmpty).map
        fun kind => .symbols kind (definitions.faults references kind) := by
  rw [nameFindings_eq_filterMap]
  induction FindingKind.ofNames with
  | nil => rfl
  | cons kind rest ih =>
    rw [List.filterMap_cons, ih, List.filter_cons, Finding.ofSet?]
    by_cases empty : (definitions.faults references kind).isEmpty <;> simp [empty]

end Definitions

/-! ### Checks of a document -/

namespace Document

/-- The symbols that are at fault, by kind of inconsistency. A type of a parameter or field needs a
definition of any kind, the target of an alias one as an alias or a backing type, and no symbol may
have definitions of two kinds. -/
def Faulty (document : Document) : FindingKind → Symbol → Prop
  | .missingFunctionParameter, symbol =>
    (document.IsParameterType symbol ∨ document.IsFieldType symbol) ∧ ¬ document.IsDefined symbol
  | .missingStructParameter, symbol => document.IsFieldType symbol ∧ ¬ document.IsDefined symbol
  | .missingHighLevelTarget, symbol =>
    document.IsAliasTarget symbol ∧
      ¬ (document.IsAliasName symbol ∨ document.backing.contains symbol)
  | .ambiguousHighLevelAndBacking, symbol =>
    document.IsAliasName symbol ∧ document.backing.contains symbol
  | .ambiguousHighLevelAndStruct, symbol =>
    document.IsAliasName symbol ∧ document.structures.contains symbol
  | .ambiguousStructAndBacking, symbol =>
    document.structures.contains symbol ∧ document.backing.contains symbol
  | .aliasCycle, _ => False

/-- The set that each check of names finds in the document. -/
def foundBy (document : Document) : FindingKind → SymbolSet :=
  document.definitions.faults document.references

variable {document : Document} {kind : FindingKind} {symbol : Symbol}

theorem Faulty.named (faulty : document.Faulty kind symbol) : kind ∈ FindingKind.ofNames := by
  rw [FindingKind.mem_ofNames]
  rintro rfl
  exact faulty

theorem means_iff : document.definitions.Means symbol ↔ document.IsDefined symbol :=
  Definitions.defines_eq_true_iff.symm.trans defines_iff

/-- Each check finds the symbols at fault. That the collected types leave structures out makes no
difference: a structure is defined. -/
theorem mem_foundBy : symbol ∈ document.foundBy kind ↔ document.Faulty kind symbol := by
  rw [foundBy, Definitions.mem_faults]
  cases kind with
  | missingFunctionParameter =>
    rw [Definitions.AtFault, mem_parameterTypes, means_iff, Faulty, and_assoc]
    exact and_congr_right fun _ => and_iff_right_of_imp fun undefined structured =>
      undefined (.inl structured)
  | missingStructParameter =>
    rw [Definitions.AtFault, mem_structParameterTypes, means_iff, Faulty, and_assoc]
    exact and_congr_right fun _ => and_iff_right_of_imp fun undefined structured =>
      undefined (.inl structured)
  | missingHighLevelTarget =>
    rw [Definitions.AtFault, mem_highLevelTargets, mem_highLevelNames, mem_backingNames, Faulty]
  | ambiguousHighLevelAndBacking =>
    rw [Definitions.AtFault, mem_highLevelNames, mem_backingNames, Faulty]
  | ambiguousHighLevelAndStruct =>
    rw [Definitions.AtFault, mem_highLevelNames, mem_structNames, Faulty]
  | ambiguousStructAndBacking =>
    rw [Definitions.AtFault, mem_structNames, mem_backingNames, Faulty]
  | aliasCycle => exact Iff.rfl

theorem findings_eq (document : Document) : document.validate.findings =
    ((FindingKind.ofNames.filter fun kind => !(document.foundBy kind).isEmpty).map fun kind =>
      .symbols kind (document.foundBy kind)) ++ (rings document.highLevel).map .cycle := by
  rw [validate, Definitions.nameFindings_eq, aliasRings_eq, foundBy]

/-- Under a kind that checks of names are after, a report lists the set of that kind unless it is
empty. -/
theorem ofKind_eq (document : Document) (named : kind ∈ FindingKind.ofNames) :
    document.validate.ofKind kind = (Finding.ofSet? kind (document.foundBy kind)).toList := by
  have single : FindingKind.ofNames.filter (fun other => decide (other = kind)) = [kind] := by
    cases kind with
    | aliasCycle => exact absurd rfl (FindingKind.mem_ofNames.mp named)
    | _ => rfl
  have rings : ((rings document.highLevel).map Finding.cycle).filter
      (fun finding => decide (finding.kind = kind)) = [] := by
    refine List.filter_eq_nil_iff.mpr fun finding listed => ?_
    obtain ⟨ring, _, rfl⟩ := List.mem_map.mp listed
    exact fun same => FindingKind.mem_ofNames.mp named (of_decide_eq_true same).symm
  have kinds : (fun finding => decide (finding.kind = kind)) ∘
      (fun other => Finding.symbols other (document.foundBy other)) =
        fun other => decide (other = kind) := rfl
  rw [Report.ofKind, findings_eq, List.filter_append, rings, List.append_nil, List.filter_map,
    kinds, List.filter_comm, single, Finding.ofSet?]
  by_cases empty : (document.foundBy kind).isEmpty <;> simp [empty]

/-- The other findings of a report are the rings. -/
theorem ofKind_aliasCycle (document : Document) :
    document.validate.ofKind .aliasCycle = (rings document.highLevel).map .cycle := by
  rw [Report.ofKind, findings_eq, List.filter_append, List.filter_eq_nil_iff.mpr,
    List.filter_eq_self.mpr, List.nil_append]
  · intro finding listed
    obtain ⟨ring, _, rfl⟩ := List.mem_map.mp listed
    rfl
  · intro finding listed
    obtain ⟨kind, member, rfl⟩ := List.mem_map.mp listed
    have named : kind ∈ FindingKind.ofNames := List.mem_of_mem_filter member
    exact fun same => FindingKind.mem_ofNames.mp named (of_decide_eq_true same)

/-- A report tells a symbol under a kind exactly if it is at fault. -/
theorem exists_symbols_iff :
    (∃ set, .symbols kind set ∈ document.validate.findings ∧ symbol ∈ set) ↔
      document.Faulty kind symbol := by
  rw [← mem_foundBy, findings_eq]
  constructor
  · rintro ⟨set, member, faulty⟩
    rcases List.mem_append.mp member with listed | listed
    · obtain ⟨kind, _, same⟩ := List.mem_map.mp listed
      cases same
      exact faulty
    · obtain ⟨_, _, same⟩ := List.mem_map.mp listed
      cases same
  · intro faulty
    refine ⟨document.foundBy kind, List.mem_append_left _ (List.mem_map_of_mem ?_), faulty⟩
    rw [List.mem_filter, Bool.not_eq_true', ← Bool.not_eq_true, SymbolSet.isEmpty_iff]
    exact ⟨(mem_foundBy.mp faulty).named, fun empty => empty symbol faulty⟩

/-! ### A report without findings -/

/-- Nothing is inconsistent: no symbol is at fault, and the aliases of no width make a ring. -/
structure Consistent (document : Document) : Prop where
  faultless : ∀ kind symbol, ¬ document.Faulty kind symbol
  acyclic : ∀ width aliases, document.aliases? width = some aliases → Acyclic aliases.find?

theorem isSuccess_iff : document.validate.isSuccess = true ↔ document.Consistent := by
  have emptied : (∀ kind ∈ FindingKind.ofNames, ¬ (!(document.foundBy kind).isEmpty) = true) ↔
      ∀ kind symbol, ¬ document.Faulty kind symbol := by
    simp only [Bool.not_eq_true', Bool.not_eq_false, SymbolSet.isEmpty_iff, mem_foundBy]
    exact ⟨fun empty kind symbol faulty => empty kind faulty.named symbol faulty,
      fun faultless kind _ => faultless kind⟩
  rw [Report.isSuccess, List.isEmpty_iff, findings_eq, List.append_eq_nil_iff, List.map_eq_nil_iff,
    List.map_eq_nil_iff, List.filter_eq_nil_iff, emptied, rings_eq_nil_iff]
  exact ⟨fun ⟨faultless, acyclic⟩ => ⟨faultless, acyclic⟩,
    fun consistent => ⟨consistent.faultless, consistent.acyclic⟩⟩

/-- **A report is exact.** Its findings are, in the order of kinds, the sets of symbols at fault
that are not empty, and then one ring for each name of each width from which targets never lead out
of the names of the width, in the order of widths and names. Nothing is found exactly if all these
sets are empty and the aliases of no width make a ring. -/
theorem validate_exact (document : Document) :
    (∃ (sets : FindingKind → SymbolSet) (rings : List AliasCycle),
      (∀ kind symbol, symbol ∈ sets kind ↔ document.Faulty kind symbol) ∧
      document.validate.findings =
        ((FindingKind.ofNames.filter fun kind => !(sets kind).isEmpty).map fun kind =>
          .symbols kind (sets kind)) ++ rings.map .cycle ∧
      rings.Pairwise AliasCycle.Before ∧
      ∀ width name, (∃ ring ∈ rings, ring.width = width ∧ ring.start = name) ↔
        ∃ aliases, document.aliases? width = some aliases ∧
          ∀ reached, Reaches aliases.find? name reached → aliases.contains reached) ∧
    (document.validate.isSuccess = true ↔
      (∀ kind symbol, ¬ document.Faulty kind symbol) ∧
        ∀ width aliases, document.aliases? width = some aliases → Acyclic aliases.find?) := by
  constructor
  · exact ⟨document.foundBy, rings document.highLevel, fun _ _ => mem_foundBy,
      document.findings_eq, rings_ordered document.highLevel, fun _ _ => exists_ring_iff⟩
  · rw [isSuccess_iff]
    exact ⟨fun consistent => ⟨consistent.faultless, consistent.acyclic⟩,
      fun ⟨faultless, acyclic⟩ => ⟨faultless, acyclic⟩⟩

end Document
end CallSchema
