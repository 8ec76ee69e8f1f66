import CallSchema.Proofs.Consistency

/-!
The checks of names among themselves, on any sets of names. What a symbol may be found at fault for
is restricted by what the kinds of inconsistency say: a symbol that is missing is not ambiguous, and
one that is ambiguous in two ways is so in all three. If the types of fields are among the types of
parameters, as they are in every document, a missing type of a field is a missing type of a
parameter too.
-/
namespace CallSchema

namespace FindingKind

/-- The kinds that are about symbols without a meaning. -/
def ofMissing : List FindingKind :=
  [missingFunctionParameter, missingStructParameter, missingHighLevelTarget]

/-- The kinds that are about symbols with two meanings. -/
def ofAmbiguous : List FindingKind :=
  [ambiguousHighLevelAndBacking, ambiguousHighLevelAndStruct, ambiguousStructAndBacking]

variable {kind : FindingKind}

theorem mem_ofMissing : kind ∈ ofMissing ↔ kind = missingFunctionParameter ∨
    kind = missingStructParameter ∨ kind = missingHighLevelTarget := by
  simp [ofMissing]

theorem mem_ofAmbiguous : kind ∈ ofAmbiguous ↔ kind = ambiguousHighLevelAndBacking ∨
    kind = ambiguousHighLevelAndStruct ∨ kind = ambiguousStructAndBacking := by
  simp [ofAmbiguous]

end FindingKind

/-- Some finding of the kind is about the symbol. -/
def Tells (findings : List Finding) (kind : FindingKind) (symbol : Symbol) : Prop :=
  ∃ finding ∈ findings, finding.kind = kind ∧ symbol ∈ finding.about

namespace Definitions
variable {definitions : Definitions} {references : References} {kind first second : FindingKind}
  {symbol : Symbol}

/-- A symbol that is missing in any way is not ambiguous in any way. The target of an alias may name
a structure and still be missing, but every ambiguity involves an alias or a backing type. -/
theorem AtFault.not_ambiguous (missing : definitions.AtFault references first symbol)
    (isMissing : first ∈ FindingKind.ofMissing) (isAmbiguous : second ∈ FindingKind.ofAmbiguous) :
    ¬ definitions.AtFault references second symbol := by
  have nameless : ¬ (symbol ∈ definitions.highLevelNames ∨ symbol ∈ definitions.backingNames) := by
    rcases FindingKind.mem_ofMissing.mp isMissing with rfl | rfl | rfl
    · exact fun named => missing.2 (.inr named)
    · exact fun named => missing.2 (.inr named)
    · exact missing.2
  rcases FindingKind.mem_ofAmbiguous.mp isAmbiguous with rfl | rfl | rfl
  · exact fun ambiguous => nameless (.inl ambiguous.1)
  · exact fun ambiguous => nameless (.inl ambiguous.1)
  · exact fun ambiguous => nameless (.inr ambiguous.2)

/-- A symbol that is ambiguous in two ways has all three meanings. -/
theorem AtFault.all_ambiguous (one : definitions.AtFault references first symbol)
    (other : definitions.AtFault references second symbol) (different : first ≠ second)
    (isAmbiguous : first ∈ FindingKind.ofAmbiguous)
    (isAmbiguousToo : second ∈ FindingKind.ofAmbiguous) (third : kind ∈ FindingKind.ofAmbiguous) :
    definitions.AtFault references kind symbol := by
  have meanings : symbol ∈ definitions.structNames ∧ symbol ∈ definitions.highLevelNames ∧
      symbol ∈ definitions.backingNames := by
    rcases FindingKind.mem_ofAmbiguous.mp isAmbiguous with rfl | rfl | rfl <;>
      rcases FindingKind.mem_ofAmbiguous.mp isAmbiguousToo with rfl | rfl | rfl <;>
      simp_all [AtFault]
  obtain ⟨structured, aliased, backed⟩ := meanings
  rcases FindingKind.mem_ofAmbiguous.mp third with rfl | rfl | rfl
  · exact ⟨aliased, backed⟩
  · exact ⟨aliased, structured⟩
  · exact ⟨structured, backed⟩

/-- What is missing as the type of a field is missing as the type of a parameter, if the types of
fields are among those. -/
theorem AtFault.of_field
    (among : ∀ type, type ∈ references.structParameterTypes → type ∈ references.parameterTypes)
    (missing : definitions.AtFault references .missingStructParameter symbol) :
    definitions.AtFault references .missingFunctionParameter symbol :=
  ⟨among symbol missing.1, missing.2⟩

end Definitions

/-! ### Findings -/

section
variable {definitions : Definitions} {references : References} {kind : FindingKind}
  {symbol : Symbol} {finding : Finding}

/-- A finding of names is about the whole set of its kind, which has a member. -/
theorem mem_nameFindings : finding ∈ nameFindings references definitions ↔
    ∃ kind ∈ FindingKind.ofNames, (∃ symbol, definitions.AtFault references kind symbol) ∧
      finding = .symbols kind (definitions.faults references kind) := by
  have inhabited (kind : FindingKind) : (!(definitions.faults references kind).isEmpty) = true ↔
      ∃ symbol, definitions.AtFault references kind symbol := by
    simp [← Bool.not_eq_true, SymbolSet.isEmpty_iff, Definitions.mem_faults]
  simp only [definitions.nameFindings_eq, List.mem_map, List.mem_filter, inhabited, and_assoc,
    eq_comm (a := finding)]

/-- The findings of names tell a symbol under a kind exactly if it is at fault. -/
theorem tells_nameFindings_iff : Tells (nameFindings references definitions) kind symbol ↔
    definitions.AtFault references kind symbol := by
  constructor
  · rintro ⟨finding, listed, rfl, about⟩
    obtain ⟨kind, -, -, rfl⟩ := mem_nameFindings.mp listed
    exact Definitions.mem_faults.mp about
  · intro fault
    exact ⟨_, mem_nameFindings.mpr ⟨kind, fault.named, ⟨symbol, fault⟩, rfl⟩, rfl,
      Definitions.mem_faults.mpr fault⟩

end

/-- **The checks of names are exact and agree with each other.** On any sets, the findings are the
sets of symbols at fault that are not empty, in the order of kinds and so each kind at most once. No
symbol is told both as missing and as ambiguous, and a symbol that is told as ambiguous under two
kinds is told under all three. If the types of fields are among the types of parameters, a symbol
that is missing as the type of a field is told as missing as the type of a parameter too, so that
the one finding is never without the other. -/
theorem nameFindings_exact (references : References) (definitions : Definitions) :
    let findings := nameFindings references definitions
    (∃ sets : FindingKind → SymbolSet,
      (∀ kind symbol, symbol ∈ sets kind ↔ definitions.AtFault references kind symbol) ∧
      findings = (FindingKind.ofNames.filter fun kind => !(sets kind).isEmpty).map fun kind =>
        .symbols kind (sets kind)) ∧
    (findings.map Finding.kind).Nodup ∧
    (∀ missing ∈ FindingKind.ofMissing, ∀ ambiguous ∈ FindingKind.ofAmbiguous, ∀ symbol,
      ¬ (Tells findings missing symbol ∧ Tells findings ambiguous symbol)) ∧
    (∀ first ∈ FindingKind.ofAmbiguous, ∀ second ∈ FindingKind.ofAmbiguous, first ≠ second →
      ∀ symbol, Tells findings first symbol → Tells findings second symbol →
        ∀ third ∈ FindingKind.ofAmbiguous, Tells findings third symbol) ∧
    ((∀ type, type ∈ references.structParameterTypes → type ∈ references.parameterTypes) →
      (∀ symbol, Tells findings .missingStructParameter symbol →
        Tells findings .missingFunctionParameter symbol) ∧
      (.missingStructParameter ∈ findings.map Finding.kind →
        .missingFunctionParameter ∈ findings.map Finding.kind)) := by
  simp only [tells_nameFindings_iff]
  refine ⟨⟨definitions.faults references, fun _ _ => Definitions.mem_faults,
    definitions.nameFindings_eq references⟩, ?_, ?_, ?_, ?_⟩
  · have kinds : (nameFindings references definitions).map Finding.kind =
        FindingKind.ofNames.filter fun kind => !(definitions.faults references kind).isEmpty := by
      rw [definitions.nameFindings_eq, List.map_map]
      exact List.map_id _
    have distinct : FindingKind.ofNames.Nodup := by decide
    exact kinds ▸ distinct.filter _
  · intro missing isMissing ambiguous isAmbiguous symbol ⟨told, toldToo⟩
    exact told.not_ambiguous isMissing isAmbiguous toldToo
  · intro first isAmbiguous second isAmbiguousToo different symbol one other third among
    exact one.all_ambiguous other different isAmbiguous isAmbiguousToo among
  · intro among
    refine ⟨fun symbol missing => missing.of_field among, fun found => ?_⟩
    obtain ⟨finding, listed, kind⟩ := List.mem_map.mp found
    obtain ⟨_, -, ⟨symbol, missing⟩, rfl⟩ := mem_nameFindings.mp listed
    obtain rfl : _ = FindingKind.missingStructParameter := kind
    obtain ⟨other, listedToo, same, -⟩ := tells_nameFindings_iff.mpr (missing.of_field among)
    exact List.mem_map.mpr ⟨other, listedToo, same⟩

/-- Two types of parameters without a meaning, one of which is the type of a field. -/
def strayReferences : References where
  parameterTypes := .ofList [⟨"LPVOID"⟩, ⟨"WORD"⟩]
  structParameterTypes := .ofList [⟨"WORD"⟩]

/-- A name with all three meanings, and an alias that leads to a structure. -/
def tangledDefinitions : Definitions where
  structNames := .ofList [⟨"HANDLE"⟩, ⟨"POINT"⟩]
  highLevelNames := .ofList [⟨"HANDLE"⟩, ⟨"PPOINT"⟩]
  highLevelTargets := .ofList [⟨"POINT"⟩, ⟨"uint64_t"⟩]
  backingNames := .ofList [⟨"HANDLE"⟩, ⟨"uint64_t"⟩]

/-- All six checks of these names find something, and no more than they may together. -/
theorem tangled_told :
    let findings := nameFindings strayReferences tangledDefinitions
    findings =
      [.symbols .missingFunctionParameter (.ofList [⟨"LPVOID"⟩, ⟨"WORD"⟩]),
       .symbols .missingStructParameter (.ofList [⟨"WORD"⟩]),
       .symbols .missingHighLevelTarget (.ofList [⟨"POINT"⟩]),
       .symbols .ambiguousHighLevelAndBacking (.ofList [⟨"HANDLE"⟩]),
       .symbols .ambiguousHighLevelAndStruct (.ofList [⟨"HANDLE"⟩]),
       .symbols .ambiguousStructAndBacking (.ofList [⟨"HANDLE"⟩])] ∧
    (∀ type, type ∈ strayReferences.structParameterTypes →
      type ∈ strayReferences.parameterTypes) ∧
    (∀ symbol, Tells findings .missingStructParameter symbol →
      Tells findings .missingFunctionParameter symbol) ∧
    ∀ third ∈ FindingKind.ofAmbiguous, Tells findings third ⟨"HANDLE"⟩ := by
  intro findings
  have among : ∀ type ∈ strayReferences.structParameterTypes.symbols,
      type ∈ strayReferences.parameterTypes := by decide
  obtain ⟨-, -, -, all, fields⟩ := nameFindings_exact strayReferences tangledDefinitions
  refine ⟨by decide +kernel, among, (fields among).1, ?_⟩
  refine all .ambiguousHighLevelAndBacking (by decide) .ambiguousHighLevelAndStruct (by decide)
    (by decide) ⟨"HANDLE"⟩ ?_ ?_
  · exact tells_nameFindings_iff.mpr ⟨by decide, by decide⟩
  · exact tells_nameFindings_iff.mpr ⟨by decide, by decide⟩

end CallSchema
