import CallSchema.Proofs.Consistency
import CallSchema.Proofs.Layout

/-!
What a report without findings promises to resolution. The checks of names put the widths together
and do not know that structures stand for handles, so a consistent document may still leave symbols
without a backing type. `Verdict` lists in which ways; where all widths have the same names and the
handle type is no structure, none of them is left (`resolves_of_consistent`), and every function has
its parameters in every width.
-/
namespace CallSchema
open Relation Walk

namespace Document.Consistent
variable {document : Document} {symbol : Symbol}

/-! ### What consistency says of one symbol -/

theorem defined_of_parameter (consistent : document.Consistent)
    (used : document.IsParameterType symbol) : document.IsDefined symbol := by
  by_contra undefined
  exact consistent.faultless .missingFunctionParameter symbol ⟨.inl used, undefined⟩

theorem defined_of_field (consistent : document.Consistent)
    (used : document.IsFieldType symbol) : document.IsDefined symbol := by
  by_contra undefined
  exact consistent.faultless .missingStructParameter symbol ⟨used, undefined⟩

theorem alias_or_backing_of_target (consistent : document.Consistent)
    (target : document.IsAliasTarget symbol) :
    document.IsAliasName symbol ∨ document.backing.contains symbol := by
  by_contra missing
  exact consistent.faultless .missingHighLevelTarget symbol ⟨target, missing⟩

theorem alias_unbacked (consistent : document.Consistent) (named : document.IsAliasName symbol) :
    ¬ document.backing.contains symbol :=
  fun backed => consistent.faultless .ambiguousHighLevelAndBacking symbol ⟨named, backed⟩

theorem alias_unstructured (consistent : document.Consistent)
    (named : document.IsAliasName symbol) : ¬ document.structures.contains symbol :=
  fun structured => consistent.faultless .ambiguousHighLevelAndStruct symbol ⟨named, structured⟩

theorem structure_unbacked (consistent : document.Consistent)
    (structured : document.structures.contains symbol) : ¬ document.backing.contains symbol :=
  fun backed => consistent.faultless .ambiguousStructAndBacking symbol ⟨structured, backed⟩

end Document.Consistent

namespace Resolver
variable {resolver : Resolver} {symbol : Symbol}

/-- An alias of the width is an alias of the document. -/
theorem isAliasName (named : resolver.aliases.contains symbol) :
    resolver.document.IsAliasName symbol := ⟨_, _, resolver.bound, named⟩

/-- The symbol is an alias of another width and none of this one. -/
def OnlyElsewhere (resolver : Resolver) (symbol : Symbol) : Prop :=
  (∃ width aliases, width ≠ resolver.width ∧ resolver.document.aliases? width = some aliases ∧
    aliases.contains symbol) ∧ ¬ resolver.aliases.contains symbol

/-- An alias that the width does not have is one of another width. -/
theorem onlyElsewhere_of_absent (named : resolver.document.IsAliasName symbol)
    (absent : ¬ resolver.aliases.contains symbol) : resolver.OnlyElsewhere symbol := by
  obtain ⟨width, aliases, bound, named⟩ := named
  refine ⟨⟨width, aliases, ?_, bound, named⟩, absent⟩
  rintro rfl
  obtain rfl : resolver.aliases = aliases := Option.some.inj (resolver.bound.symm.trans bound)
  exact absent named

/-! ### Where symbols of a consistent document lead -/

theorem separate_of_consistent (consistent : resolver.document.Consistent) : resolver.Separate where
  name_unbacked _ named := consistent.alias_unbacked (isAliasName named)
  name_unstructured _ named := consistent.alias_unstructured (isAliasName named)
  target_unstructured name target edge structured := by
    have isTarget : resolver.document.IsAliasTarget target := ⟨_, _, name, resolver.bound, edge⟩
    rcases consistent.alias_or_backing_of_target isTarget with named | backed
    · exact consistent.alias_unstructured named structured
    · exact consistent.structure_unbacked structured backed

/-- An alias of the width leads through the width to a backing type or to an alias that only other
widths have. -/
theorem alias_endsAt (consistent : resolver.document.Consistent)
    (named : resolver.aliases.contains symbol) : ∃ last, EndsAt resolver.next symbol last ∧
      (resolver.document.backing.contains last ∨ resolver.OnlyElsewhere last) := by
  have separate := separate_of_consistent consistent
  have acyclic := consistent.acyclic _ _ resolver.bound
  obtain ⟨last, ends⟩ := (endsAt_or_neverEnds resolver.aliases.find? symbol).resolve_right
    (AliasTable.acyclic_iff.mp acyclic symbol)
  refine ⟨last, (separate.endsAt_iff named).mpr ends, ?_⟩
  have absent := Table.find?_eq_none_iff.mp ends.2
  rcases ends.1.cases_tail with rfl | ⟨name, _, edge⟩
  · exact absurd named absent
  · rcases consistent.alias_or_backing_of_target ⟨_, _, name, resolver.bound, edge⟩ with
      elsewhere | backed
    · exact .inr (onlyElsewhere_of_absent elsewhere absent)
    · exact .inl backed

/-- So does any symbol that is no structure, if it is defined. -/
theorem unstructured_endsAt (consistent : resolver.document.Consistent)
    (defined : resolver.document.IsDefined symbol)
    (unstructured : ¬ resolver.document.structures.contains symbol) :
    ∃ last, EndsAt resolver.next symbol last ∧
      (resolver.document.backing.contains last ∨ resolver.OnlyElsewhere last) := by
  by_cases backed : resolver.document.backing.contains symbol
  · exact ⟨symbol, .here (next_backing backed), .inl backed⟩
  by_cases named : resolver.aliases.contains symbol
  · exact alias_endsAt consistent named
  · have elsewhere := (defined.resolve_left unstructured).resolve_right backed
    refine ⟨symbol, .here ?_, .inr (onlyElsewhere_of_absent elsewhere named)⟩
    rw [next_alias backed unstructured]
    exact Table.find?_eq_none_iff.mpr named

/-- A structure stands for the handle type, whatever that is. -/
theorem structure_leads (consistent : resolver.document.Consistent)
    (structured : resolver.document.structures.contains symbol) :
    resolver.next symbol = some handleType :=
  next_structure (consistent.structure_unbacked structured) structured

/-- Structures stand for each other without end if the handle type is one of them. -/
theorem structure_neverEnds (consistent : resolver.document.Consistent)
    (structured : resolver.document.structures.contains symbol)
    (handle : resolver.document.structures.contains handleType) :
    NeverEnds resolver.next symbol :=
  neverEnds_of_ring (.single (structure_leads consistent structured))
    (.single (structure_leads consistent handle))

/-! ### What can still go wrong -/

/-- The ways in which the search for a symbol's backing type comes out in a consistent document. -/
inductive Verdict where
  /-- With a backing type. -/
  | resolved
  /-- A structure has no handle type to stand for: that is not defined at all. -/
  | handleless
  /-- At an alias that the width does not have, but another width does. -/
  | elsewhere
  /-- Never. -/
  | endless

/-- The verdict on a symbol is this one. -/
def Verdict.Applies (resolver : Resolver) (symbol : Symbol) : Verdict → Prop
  | .resolved => ∃ basic, resolver.basicType symbol = .ok basic ∧
      resolver.document.backing.contains basic
  | .handleless =>
    resolver.basicType symbol = .error (.unresolvedSymbol handleType resolver.width) ∧
      resolver.document.structures.contains symbol ∧ ¬ resolver.document.IsDefined handleType
  | .elsewhere => ∃ name,
      resolver.basicType symbol = .error (.unresolvedSymbol name resolver.width) ∧
        resolver.OnlyElsewhere name
  | .endless => resolver.basicType symbol = .error (.aliasCycle symbol resolver.width)

/-- The verdicts exclude each other. Only an undefined handle type and an alias of another width
are told by the same kind of error, and no symbol is both. -/
theorem Verdict.unique {a b : Verdict} (first : a.Applies resolver symbol)
    (second : b.Applies resolver symbol) : a = b := by
  have undefined {name : Symbol} (elsewhere : resolver.OnlyElsewhere name) :
      resolver.document.IsDefined name := by
    obtain ⟨⟨width, aliases, _, bound, named⟩, _⟩ := elsewhere
    exact .inr (.inl ⟨width, aliases, bound, named⟩)
  cases a <;> cases b <;> simp only [Applies] at first second <;> grind

theorem resolved_or_elsewhere {last : Symbol} (ends : EndsAt resolver.next symbol last)
    (leads : resolver.document.backing.contains last ∨ resolver.OnlyElsewhere last) :
    Verdict.resolved.Applies resolver symbol ∨ Verdict.elsewhere.Applies resolver symbol := by
  by_cases backed : resolver.document.backing.contains last
  · exact .inl ⟨last, basicType_eq_ok_iff.mpr ⟨ends, backed⟩, backed⟩
  · exact .inr ⟨last, basicType_eq_unresolved_iff.mpr ⟨rfl, ends, backed⟩,
      leads.resolve_left backed⟩

/-- Some verdict applies, and an endless search only if structures stand for a structure. -/
theorem exists_verdict (consistent : resolver.document.Consistent)
    (defined : resolver.document.IsDefined symbol) :
    Verdict.resolved.Applies resolver symbol ∨ Verdict.handleless.Applies resolver symbol ∨
      Verdict.elsewhere.Applies resolver symbol ∨
      (Verdict.endless.Applies resolver symbol ∧ resolver.document.structures.contains symbol ∧
        resolver.document.structures.contains handleType) := by
  by_cases structured : resolver.document.structures.contains symbol
  · have edge := structure_leads consistent structured
    by_cases handle : resolver.document.structures.contains handleType
    · have never := structure_neverEnds consistent structured handle
      have endless := basicType_eq_aliasCycle_iff.mpr ⟨rfl, rfl, never⟩
      exact .inr (.inr (.inr ⟨endless, structured, handle⟩))
    by_cases known : resolver.document.IsDefined handleType
    · obtain ⟨last, ends, leads⟩ := unstructured_endsAt consistent known handle
      have := resolved_or_elsewhere (ends.step edge) leads
      tauto
    · have unbacked : ¬ resolver.document.backing.contains handleType :=
        fun backed => known (.inr (.inr backed))
      have ends : EndsAt resolver.next handleType handleType := by
        refine .here ?_
        rw [next_alias unbacked handle, Table.find?_eq_none_iff]
        exact fun named => known (.inr (.inl (isAliasName named)))
      exact .inr (.inl ⟨basicType_eq_unresolved_iff.mpr ⟨rfl, ends.step edge, unbacked⟩,
        structured, known⟩)
  · obtain ⟨last, ends, leads⟩ := unstructured_endsAt consistent defined structured
    have := resolved_or_elsewhere ends leads
    tauto

/-- **What can still go wrong.** For each defined symbol of a document without findings and each of
its widths, exactly one verdict applies: a backing type, an undefined handle type that a structure
stands for, an alias that only other widths have, or an endless search. The last is the verdict
exactly if the symbol and the handle type are structures. -/
theorem exists_unique_verdict (resolver : Resolver) (symbol : Symbol)
    (clean : resolver.document.validate.isSuccess = true)
    (defined : resolver.document.definitions.defines symbol = true) :
    (∃! verdict, Verdict.Applies resolver symbol verdict) ∧
      (resolver.basicType symbol = .error (.aliasCycle symbol resolver.width) ↔
        resolver.document.structures.contains symbol = true ∧
          resolver.document.structures.contains handleType = true) := by
  have consistent := Document.isSuccess_iff.mp clean
  have verdicts := exists_verdict consistent (Document.defines_iff.mp defined)
  refine ⟨existsUnique_of_exists_of_unique ?_ fun _ _ => Verdict.unique, ?_, ?_⟩
  · rcases verdicts with applies | applies | applies | ⟨applies, _⟩ <;> exact ⟨_, applies⟩
  · intro endless
    have other {verdict : Verdict} (applies : verdict.Applies resolver symbol)
        (different : verdict ≠ .endless) : False := different (Verdict.unique applies endless)
    rcases verdicts with applies | applies | applies | ⟨_, structures⟩
    · exact (other applies (by simp)).elim
    · exact (other applies (by simp)).elim
    · exact (other applies (by simp)).elim
    · exact structures
  · rintro ⟨structured, handle⟩
    have never := structure_neverEnds consistent structured handle
    exact basicType_eq_aliasCycle_iff.mpr ⟨rfl, rfl, never⟩

/-- A width without the handle type that another width has. -/
def handleElsewhere : Resolver where
  document :=
    { modules := .empty
      structures := .ofList [(⟨"POINT"⟩, .ofList [("x", ⟨⟨"LONG"⟩, none⟩)])]
      highLevel := .ofList [
        (⟨"AddressWidth32Bit"⟩, .ofList [(⟨"HANDLE"⟩, ⟨"LONG"⟩), (⟨"HWND"⟩, ⟨"HANDLE"⟩)]),
        (⟨"AddressWidth64Bit"⟩, .ofList [(⟨"HWND"⟩, ⟨"HANDLE"⟩)])]
      backing := .ofList [(⟨"LONG"⟩, .int 4)] }
  width := ⟨"AddressWidth64Bit"⟩
  aliases := .ofList [(⟨"HWND"⟩, ⟨"HANDLE"⟩)]
  bound := by decide

/-- A structure may have nothing to stand for although nothing is found in the document. -/
theorem handleElsewhere_point : handleElsewhere.document.validate.isSuccess = true ∧
    handleElsewhere.document.definitions.defines ⟨"POINT"⟩ = true ∧
    (∃! verdict, Verdict.Applies handleElsewhere ⟨"POINT"⟩ verdict) ∧
    handleElsewhere.basicType ⟨"POINT"⟩ ≠
      .error (.aliasCycle ⟨"POINT"⟩ handleElsewhere.width) := by
  have clean : handleElsewhere.document.validate.isSuccess = true := by decide
  have defined : handleElsewhere.document.definitions.defines ⟨"POINT"⟩ = true := by decide
  obtain ⟨verdict, endless⟩ := exists_unique_verdict handleElsewhere ⟨"POINT"⟩ clean defined
  exact ⟨clean, defined, verdict, fun cycle => absurd (endless.mp cycle).2 (by decide)⟩

end Resolver

/-! ### When every function has its parameters -/

namespace Document
variable {document : Document} {width : AddressWidth} {aliases : AliasTable}

/-- All widths have aliases of the same names. -/
def SameNames (document : Document) : Prop :=
  ∀ width other aliases others, document.aliases? width = some aliases →
    document.aliases? other = some others → ∀ name, aliases.contains name ↔ others.contains name

/-- The size of every backing type is, tags aside, a whole number that 64 bits hold. -/
def SizesFit (document : Document) : Prop :=
  ∀ name value, document.backing.find? name = some value →
    ∃ size : Nat, value.untagged = .int size ∧ size < UInt64.size

/-- With the same names in all widths and a handle type to stand for structures, every defined
symbol has a backing type. -/
theorem resolves_of_consistent (resolver : Resolver) {symbol : Symbol}
    (consistent : resolver.document.Consistent) (sameNames : resolver.document.SameNames)
    (handle : resolver.document.IsAliasName handleType ∨
      resolver.document.backing.contains handleType)
    (defined : resolver.document.IsDefined symbol) :
    ∃ basic, resolver.basicType symbol = .ok basic ∧ resolver.document.backing.contains basic := by
  rcases resolver.exists_verdict consistent defined with
    resolved | ⟨_, _, undefined⟩ | ⟨name, _, elsewhere, absent⟩ | ⟨_, _, structured⟩
  · exact resolved
  · exact absurd (.inr handle) undefined
  · obtain ⟨width, aliases, _, bound, named⟩ := elsewhere
    exact absurd ((sameNames _ _ _ _ bound resolver.bound name).mp named) absent
  · rcases handle with named | backed
    · exact absurd structured (consistent.alias_unstructured named)
    · exact absurd backed (consistent.structure_unbacked structured)

/-- The types that a used type leads to through fields are defined, as it is itself. -/
theorem Consistent.defined_of_part {type part : Symbol} (consistent : document.Consistent)
    (used : document.IsParameterType type) (leads : ReflTransGen document.HasField type part) :
    document.IsDefined part := by
  rcases leads.cases_tail with rfl | ⟨holder, _, held⟩
  · exact consistent.defined_of_parameter used
  · exact consistent.defined_of_field ⟨holder, held⟩

/-- **Documents without findings can be described.** If nothing is found in a document, all its
widths have aliases of the same names, the handle type is an alias or a backing type, no structure
comes back to itself through the types of fields, and the sizes are whole numbers that fit, then
each function has its declared parameters in each width, in calling order. -/
theorem describe_isOk (document : Document) (clean : document.validate.isSuccess = true)
    (sameNames : document.SameNames)
    (handle : document.IsAliasName handleType ∨ document.backing.contains handleType = true)
    (finite : ∀ symbol, ¬ TransGen document.HasField symbol symbol)
    (sizes : document.SizesFit) (width : AddressWidth) (aliases : AliasTable)
    (supported : document.aliases? width = some aliases) (module function : String)
    (functions : Table String Signature) (signature : Signature)
    (bound : document.modules.find? module = some functions)
    (named : functions.find? function = some signature) :
    ∃ parameters, document.describe module function width.name = .ok parameters ∧
      parameters.map Parameter.name = signature.parameterNames := by
  have consistent := isSuccess_iff.mp clean
  let resolver : Resolver := ⟨document, width, aliases, supported⟩
  have sized : ∀ parameters name type, signature.parameters = some parameters →
      parameters.find? name = some type →
      ∀ part, ReflTransGen document.HasField type part →
        ∃ size, resolver.size part = .ok size := by
    intro parameters name type given typed part leads
    have used : document.IsParameterType type :=
      ⟨module, functions, function, signature, parameters, name, bound, named, given, typed⟩
    obtain ⟨basic, stands, backed⟩ := resolves_of_consistent resolver consistent sameNames handle
      (consistent.defined_of_part used leads)
    obtain ⟨value, found⟩ := Table.contains_iff.mp backed
    obtain ⟨size, whole, fits⟩ := sizes basic value found
    refine ⟨UInt64.ofNat size, Resolver.size_eq_ok_iff.mpr ⟨basic, value, stands, found, ?_⟩⟩
    rw [Yaml.Value.natural?_eq_some_iff, whole, UInt64.toNat_ofNat_of_lt' fits]
  obtain ⟨parameters, laidOut, names⟩ :=
    resolver.functionParameters_isOk bound named sized finite
  refine ⟨parameters, ?_, names⟩
  rw [describe, parametersOf, resolver_eq_ok supported]
  exact congrArg (Except.mapError Failure.ofResolveError) laidOut

/-- Structures do not come back to themselves if each field's type ranks below the structure. -/
theorem finite_of_rank (rank : Symbol → Nat)
    (below : ∀ holder type, document.HasField holder type → rank type < rank holder)
    (symbol : Symbol) : ¬ TransGen document.HasField symbol symbol := by
  intro ring
  have descends : ∀ {holder type}, TransGen document.HasField holder type →
      rank type < rank holder := by
    intro holder type leads
    induction leads with
    | single held => exact below _ _ held
    | tail _ held ih => exact (below _ _ held).trans ih
  exact Nat.lt_irrefl _ (descends ring)

/-- A document of two widths, with a structure inside another and a tagged size. -/
def windows : Document where
  modules := .ofList [("user32.dll", .ofList [("MoveWindow",
    ⟨some (.ofList [("hWnd", ⟨"HWND"⟩), ("lpRect", ⟨"RECT"⟩)])⟩)])]
  structures := .ofList [
    (⟨"POINT"⟩, .ofList [("x", ⟨⟨"LONG"⟩, some 0⟩)]),
    (⟨"RECT"⟩, .ofList [("corner", ⟨⟨"POINT"⟩, some 0⟩), ("owner", ⟨⟨"HWND"⟩, some 8⟩)])]
  highLevel := .ofList [
    (⟨"AddressWidth32Bit"⟩, .ofList [(⟨"HANDLE"⟩, ⟨"uint32_t"⟩), (⟨"HWND"⟩, ⟨"HANDLE"⟩)]),
    (⟨"AddressWidth64Bit"⟩, .ofList [(⟨"HANDLE"⟩, ⟨"uint64_t"⟩), (⟨"HWND"⟩, ⟨"HANDLE"⟩)])]
  backing := .ofList [(⟨"LONG"⟩, .tagged "size" (.int 4)), (⟨"uint32_t"⟩, .int 4),
    (⟨"uint64_t"⟩, .int 8)]

theorem windows_sameNames : windows.SameNames := by
  have names : ∀ entry ∈ windows.highLevel.entries, entry.2.names = [⟨"HANDLE"⟩, ⟨"HWND"⟩] := by
    decide
  intro width other aliases others bound otherBound name
  rw [← Table.mem_names, ← Table.mem_names, names _ (Table.find?_eq_some_iff.mp bound),
    names _ (Table.find?_eq_some_iff.mp otherBound)]

theorem windows_finite (symbol : Symbol) : ¬ TransGen windows.HasField symbol symbol := by
  let rank (symbol : Symbol) : Nat :=
    if symbol = ⟨"RECT"⟩ then 2 else if symbol = ⟨"POINT"⟩ then 1 else 0
  have below : ∀ entry ∈ windows.structures.entries, ∀ field ∈ entry.2.entries,
      rank field.2.type < rank entry.1 := by decide
  refine finite_of_rank rank ?_ symbol
  rintro holder _ ⟨fields, name, field, bound, named, rfl⟩
  exact below _ (Table.find?_eq_some_iff.mp bound) _ (Listing.find?_eq_some_iff.mp named)

theorem windows_sizesFit : windows.SizesFit := by
  have whole : ∀ entry ∈ windows.backing.entries, entry.2.natural?.isSome := by decide
  intro name value found
  obtain ⟨size, natural⟩ :=
    Option.isSome_iff_exists.mp (whole _ (Table.find?_eq_some_iff.mp found))
  exact ⟨size.toNat, Yaml.Value.natural?_eq_some_iff.mp natural, size.toNat_lt_size⟩

/-- In the wider width both parameters are there, the structure down to its fields. -/
theorem windows_moveWindow : windows.validate.isSuccess = true ∧ windows.SameNames ∧
    windows.IsAliasName handleType ∧
    (∀ symbol, ¬ TransGen windows.HasField symbol symbol) ∧ windows.SizesFit ∧
    ∃ parameters, windows.describe "user32.dll" "MoveWindow" "AddressWidth64Bit" = .ok parameters ∧
      parameters.map Parameter.name = ["hWnd", "lpRect"] := by
  have clean : windows.validate.isSuccess = true := by decide
  have handle : windows.IsAliasName handleType :=
    ⟨⟨"AddressWidth64Bit"⟩, .ofList [(⟨"HANDLE"⟩, ⟨"uint64_t"⟩), (⟨"HWND"⟩, ⟨"HANDLE"⟩)],
      by decide, by decide⟩
  exact ⟨clean, windows_sameNames, handle, windows_finite, windows_sizesFit,
    describe_isOk windows clean windows_sameNames (.inl handle) windows_finite windows_sizesFit
      ⟨"AddressWidth64Bit"⟩ _ rfl "user32.dll" "MoveWindow" _ _ rfl rfl⟩

end Document
end CallSchema
