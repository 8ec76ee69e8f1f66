import CallSchema.Proofs.Consistency
import CallSchema.Proofs.Unfolding
import CallSchema.Session

/-!
One backing type more. The search for a backing type stops at the new name, whatever it used to go
on to from there: the edge that left the name is cut (`Walk.Cut`). What did not lead to the name is
resolved as before, and everything else stands for the new type. So the parameters of a function are
still there if they were, and differ in nothing but what stands for the new type now
(`Resolver.Rebacked`). The checks of a document miss the name no longer, and find it ambiguous if it
is an alias or a structure as well.
-/
namespace CallSchema
open Relation Walk

/-! ### One edge less -/

namespace Walk
variable {α : Type} {next other : α → Option α} {node a : α}

/-- The other edges are the same, but none leaves the node. -/
structure Cut (next other : α → Option α) (node : α) : Prop where
  ended : other node = none
  kept : ∀ passed, passed ≠ node → other passed = next passed

/-- Walks that came to the node end there now. The induction is on the way to the node, which may
have come over the node before. -/
theorem Cut.endsAt (cut : Cut next other node) (through : Reaches next a node) :
    EndsAt other a node := by
  induction through using ReflTransGen.head_induction_on with
  | refl => exact .here cut.ended
  | @head a b edge _ ih =>
    by_cases same : a = node
    · subst same
      exact .here cut.ended
    · exact ih.step ((cut.kept a same).trans edge)

end Walk

/-! ### The document with the backing type -/

namespace Document
variable {document : Document} {name symbol : Symbol} {value : Yaml.Value} {kind : FindingKind}

/-- The document with a backing type more. -/
def withBacking (document : Document) (name : Symbol) (value : Yaml.Value) : Document :=
  { document with backing := document.backing.insert name value }

theorem contains_withBacking : (document.withBacking name value).backing.contains symbol ↔
    symbol = name ∨ document.backing.contains symbol := Table.contains_insert

theorem isDefined_withBacking : (document.withBacking name value).IsDefined symbol ↔
    document.IsDefined symbol ∨ symbol = name := by
  rw [IsDefined, contains_withBacking, IsDefined, or_comm (a := symbol = name), ← or_assoc,
    ← or_assoc, ← or_assoc]
  exact Iff.rfl

/-- The kinds of inconsistency in which a definition is missing. -/
def missingKinds : List FindingKind :=
  [.missingFunctionParameter, .missingStructParameter, .missingHighLevelTarget]

/-- The new type is not missing any more, and other symbols are missing as before. -/
theorem faulty_withBacking_of_missing (missing : kind ∈ missingKinds) :
    (document.withBacking name value).Faulty kind symbol ↔
      document.Faulty kind symbol ∧ symbol ≠ name := by
  cases kind with
  | missingFunctionParameter =>
    rw [Faulty, isDefined_withBacking, not_or, ← and_assoc]
    exact Iff.rfl
  | missingStructParameter =>
    rw [Faulty, isDefined_withBacking, not_or, ← and_assoc]
    exact Iff.rfl
  | missingHighLevelTarget =>
    rw [Faulty, contains_withBacking, or_left_comm, not_or, and_left_comm, and_comm]
    exact Iff.rfl
  | _ => exact absurd missing (by decide)

/-- The new type is ambiguous under two kinds, if it has another definition as well. -/
theorem faulty_withBacking_of_ambiguous :
    ((document.withBacking name value).Faulty .ambiguousHighLevelAndBacking symbol ↔
      document.Faulty .ambiguousHighLevelAndBacking symbol ∨
        symbol = name ∧ document.IsAliasName name) ∧
    ((document.withBacking name value).Faulty .ambiguousStructAndBacking symbol ↔
      document.Faulty .ambiguousStructAndBacking symbol ∨
        symbol = name ∧ document.structures.contains name = true) := by
  have joined (other : Symbol → Prop) :
      other symbol ∧ (symbol = name ∨ document.backing.contains symbol) ↔
        other symbol ∧ document.backing.contains symbol ∨ symbol = name ∧ other name := by
    constructor
    · rintro ⟨defined, rfl | before⟩
      · exact .inr ⟨rfl, defined⟩
      · exact .inl ⟨defined, before⟩
    · rintro (⟨defined, before⟩ | ⟨rfl, defined⟩)
      · exact ⟨defined, .inr before⟩
      · exact ⟨defined, .inl rfl⟩
  constructor
  · rw [Faulty, contains_withBacking]
    exact joined document.IsAliasName
  · rw [Faulty, contains_withBacking]
    exact joined fun other => document.structures.contains other

end Document

/-! ### What symbols stand for -/

namespace Resolver
variable {resolver : Resolver} {name symbol : Symbol} {value : Yaml.Value} {size : UInt64}

/-- The same view of the document with a backing type more. -/
def withBacking (resolver : Resolver) (name : Symbol) (value : Yaml.Value) : Resolver where
  document := resolver.document.withBacking name value
  width := resolver.width
  aliases := resolver.aliases
  bound := resolver.bound

theorem agreeOn_withBacking (different : symbol ≠ name) :
    AgreeOn resolver (resolver.withBacking name value) symbol where
  structures := rfl
  aliases := rfl
  backing := (Table.find?_insert_of_ne different.symm).symm

theorem cut_withBacking : Cut resolver.next (resolver.withBacking name value).next name where
  ended := next_backing (Document.contains_withBacking.mpr (.inl rfl))
  kept _ different := (agreeOn_withBacking different).next_eq.symm

/-- What does not lead to the new type is resolved as before, or cannot be for the same reason. -/
theorem withBacking_of_apart (value : Yaml.Value) (apart : ¬ Reaches resolver.next symbol name) :
    (resolver.withBacking name value).basicType symbol = resolver.basicType symbol ∧
      (resolver.withBacking name value).size symbol = resolver.size symbol := by
  have agree (passed : Symbol) (leads : Reaches resolver.next symbol passed) :
      AgreeOn resolver (resolver.withBacking name value) passed :=
    agreeOn_withBacking fun same => apart (same ▸ leads)
  have types : resolver.basicType symbol = (resolver.withBacking name value).basicType symbol :=
    basicType_congr rfl agree
  have sizes : resolver.size symbol = (resolver.withBacking name value).size symbol :=
    size_congr rfl agree
  exact ⟨types.symm, sizes.symm⟩

/-- Everything else stands for the new type, also what could not be resolved before. -/
theorem withBacking_of_through (whole : value.untagged = .int size.toNat)
    (through : Reaches resolver.next symbol name) :
    (resolver.withBacking name value).basicType symbol = .ok name ∧
      (resolver.withBacking name value).size symbol = .ok size := by
  have stands : (resolver.withBacking name value).basicType symbol = .ok name :=
    basicType_eq_ok_iff.mpr
      ⟨cut_withBacking.endsAt through, Document.contains_withBacking.mpr (.inl rfl)⟩
  exact ⟨stands, size_eq_ok_iff.mpr ⟨name, value, stands, Table.find?_insert_self,
    Yaml.Value.natural?_eq_some_iff.mpr whole⟩⟩

/-! ### The parameters of functions -/

/-- A parameter or field before and after: the declaration that it comes from stands for what it
stood for, or for the new type if it led to that. Name and offset are kept, and the fields that the
declaration has are compared alike, one after the other. -/
inductive Rebacked (resolver : Resolver) (name : Symbol) (size : UInt64) :
    Declaration → Parameter × Parameter → Prop where
  | apart {declaration : Declaration} {basic : Symbol} {own : UInt64}
      {fields : List (Parameter × Parameter)}
      (apart : ¬ Reaches resolver.next declaration.type name)
      (each : List.Forall₂ (Rebacked resolver name size)
        (resolver.document.declarations declaration.type) fields) :
      Rebacked resolver name size declaration
        (⟨declaration.name, basic, own, declaration.offset, fields.map Prod.fst⟩,
          ⟨declaration.name, basic, own, declaration.offset, fields.map Prod.snd⟩)
  | through {declaration : Declaration} {basic : Symbol} {own : UInt64}
      {fields : List (Parameter × Parameter)}
      (through : Reaches resolver.next declaration.type name)
      (each : List.Forall₂ (Rebacked resolver name size)
        (resolver.document.declarations declaration.type) fields) :
      Rebacked resolver name size declaration
        (⟨declaration.name, basic, own, declaration.offset, fields.map Prod.fst⟩,
          ⟨declaration.name, name, size, declaration.offset, fields.map Prod.snd⟩)

/-- Where each field still unfolds, they do so side by side. -/
theorem exists_rebacked {declarations : List Declaration} {fields : List Parameter}
    (each : List.Forall₂ resolver.Unfolds declarations fields)
    (step : ∀ declaration, ∀ field ∈ fields, resolver.Unfolds declaration field →
      ∃ after, Rebacked resolver name size declaration (field, after) ∧
        (resolver.withBacking name value).Unfolds declaration after) :
    ∃ pairs, pairs.map Prod.fst = fields ∧
      List.Forall₂ (Rebacked resolver name size) declarations pairs ∧
      List.Forall₂ (resolver.withBacking name value).Unfolds declarations (pairs.map Prod.snd) := by
  have paired : ∃ pairs : List (Parameter × Parameter), pairs.map Prod.fst = fields ∧
      List.Forall₂ (fun declaration pair => Rebacked resolver name size declaration pair ∧
        (resolver.withBacking name value).Unfolds declaration pair.2) declarations pairs :=
    exists_pairs each step
  obtain ⟨pairs, same, both⟩ := paired
  exact ⟨pairs, same, both.imp fun _ _ => And.left,
    List.forall₂_map_right_iff.mpr (both.imp fun _ _ => And.right)⟩

/-- What unfolds still unfolds. The recursion is on what it unfolds to. -/
theorem Unfolds.rebacked (whole : value.untagged = .int size.toNat) {declaration : Declaration}
    {parameter : Parameter} (unfolds : resolver.Unfolds declaration parameter) :
    ∃ after, Rebacked resolver name size declaration (parameter, after) ∧
      (resolver.withBacking name value).Unfolds declaration after := by
  obtain ⟨stands, sized, each⟩ := unfolds
  obtain ⟨pairs, rfl, fields, unfolded⟩ := exists_rebacked each fun _ _ member unfolds =>
    have smaller := List.sizeOf_lt_of_mem member
    unfolds.rebacked whole
  by_cases through : Reaches resolver.next declaration.type name
  · obtain ⟨standsNow, sizedNow⟩ := withBacking_of_through whole through
    exact ⟨_, .through through fields, .mk standsNow sizedNow unfolded⟩
  · obtain ⟨sameType, sameSize⟩ := withBacking_of_apart value through
    exact ⟨_, .apart through fields, .mk (sameType.trans stands) (sameSize.trans sized) unfolded⟩
termination_by parameter

theorem functionParameters_withBacking (whole : value.untagged = .int size.toNat)
    {module function : String} {forest : List Parameter}
    (ok : resolver.functionParameters module function = .ok forest) :
    ∃ signature pairs, resolver.document.signature? module function = some signature ∧
      pairs.map Prod.fst = forest ∧
      (resolver.withBacking name value).functionParameters module function =
        .ok (pairs.map Prod.snd) ∧
      List.Forall₂ (Rebacked resolver name size) signature.declarations pairs := by
  obtain ⟨signature, described⟩ := exists_signature_of_functionParameters ok
  have describedNow :
      (resolver.withBacking name value).document.signature? module function = some signature :=
    described
  have each := (functionParameters_eq_ok_iff described).mp ok
  obtain ⟨pairs, same, kept, unfolded⟩ :=
    exists_rebacked each fun _ _ _ unfolds => unfolds.rebacked whole
  exact ⟨signature, pairs, described, same,
    (functionParameters_eq_ok_iff describedNow).mpr unfolded, kept⟩

end Resolver

namespace Document

/-- **A new backing type takes nothing away.** A name gets a size. It is not missing any more, and
it is ambiguous if it is an alias or a structure as well; other symbols are missing and ambiguous as
before, and the rings are the same. In each width what led to the name stands for it now, and what
did not is resolved as before. A function that had its parameters still has them: they are the same
but that those whose types led to the name have the new type and its size, however deep in
structures they stand. -/
theorem setBacking_exact (document : Document) (name : Symbol) (value : Yaml.Value) (size : UInt64)
    (whole : value.untagged = .int size.toNat) :
    ∃ edited, document.edit? (.setBacking name value) = some edited ∧
      (∃ before after : FindingKind → SymbolSet,
        (∀ kind ∈ FindingKind.ofNames,
          document.validate.ofKind kind = (Finding.ofSet? kind (before kind)).toList ∧
            edited.validate.ofKind kind = (Finding.ofSet? kind (after kind)).toList) ∧
        (∀ kind ∈ missingKinds, ∀ symbol,
          symbol ∈ after kind ↔ symbol ∈ before kind ∧ symbol ≠ name) ∧
        (∀ symbol, symbol ∈ after .ambiguousHighLevelAndBacking ↔
          symbol ∈ before .ambiguousHighLevelAndBacking ∨
            symbol = name ∧ document.IsAliasName name) ∧
        (∀ symbol, symbol ∈ after .ambiguousStructAndBacking ↔
          symbol ∈ before .ambiguousStructAndBacking ∨
            symbol = name ∧ document.structures.contains name = true) ∧
        after .ambiguousHighLevelAndStruct = before .ambiguousHighLevelAndStruct) ∧
      edited.validate.ofKind .aliasCycle = document.validate.ofKind .aliasCycle ∧
      ∀ width aliases (bound : document.aliases? width = some aliases),
        ∃ boundNow : edited.aliases? width = some aliases,
          let resolver : Resolver := ⟨document, width, aliases, bound⟩
          let resolverNow : Resolver := ⟨edited, width, aliases, boundNow⟩
          (∀ symbol, ¬ Reaches resolver.next symbol name →
            resolverNow.basicType symbol = resolver.basicType symbol ∧
              resolverNow.size symbol = resolver.size symbol) ∧
          (∀ symbol, Reaches resolver.next symbol name →
            resolverNow.basicType symbol = .ok name ∧ resolverNow.size symbol = .ok size) ∧
          ∀ module function forest, resolver.functionParameters module function = .ok forest →
            ∃ signature pairs, document.signature? module function = some signature ∧
              pairs.map Prod.fst = forest ∧
              resolverNow.functionParameters module function = .ok (pairs.map Prod.snd) ∧
              List.Forall₂ (resolver.Rebacked name size) signature.declarations pairs := by
  refine ⟨document.withBacking name value, rfl, ⟨document.foundBy,
    (document.withBacking name value).foundBy, fun kind named => ⟨ofKind_eq document named,
      ofKind_eq _ named⟩, fun kind missing symbol => ?_, fun symbol => ?_, fun symbol => ?_, rfl⟩,
    ?_, fun width aliases bound => ⟨bound, ?_, ?_, ?_⟩⟩
  · rw [mem_foundBy, mem_foundBy]
    exact faulty_withBacking_of_missing missing
  · rw [mem_foundBy, mem_foundBy]
    exact faulty_withBacking_of_ambiguous.1
  · rw [mem_foundBy, mem_foundBy]
    exact faulty_withBacking_of_ambiguous.2
  · rw [ofKind_aliasCycle, ofKind_aliasCycle]
    rfl
  · exact fun symbol => Resolver.withBacking_of_apart value
  · exact fun symbol => Resolver.withBacking_of_through whole
  · exact fun module function forest => Resolver.functionParameters_withBacking whole

/-- Where the handle type gets a size, structures are not what its alias stands for any more, but a
structure with a size of its own is what it was. -/
theorem corners_handle :
    (Yaml.Value.tagged "wide" (.int 8)).untagged = .int (8 : UInt64).toNat ∧
    ∃ edited, Resolver.corners.document.edit? (.setBacking handleType (.tagged "wide" (.int 8))) =
        some edited ∧
      ∃ bound : edited.aliases? Resolver.corners.width = some Resolver.corners.aliases,
        let resolver : Resolver := ⟨edited, Resolver.corners.width, Resolver.corners.aliases, bound⟩
        resolver.basicType ⟨"RECT"⟩ = .ok handleType ∧ resolver.size ⟨"POINT"⟩ = .ok 8 := by
  have whole : (Yaml.Value.tagged "wide" (.int 8)).untagged = .int (8 : UInt64).toNat := rfl
  obtain ⟨edited, made, -, -, resolved⟩ :=
    setBacking_exact Resolver.corners.document handleType (.tagged "wide" (.int 8)) 8 whole
  obtain ⟨bound, kept, taken, -⟩ := resolved _ _ Resolver.corners.bound
  have structured : Reaches Resolver.corners.next ⟨"RECT"⟩ handleType := .single rfl
  have apart : ¬ Reaches Resolver.corners.next ⟨"POINT"⟩ handleType := by
    intro leads
    rcases leads.cases_head with same | ⟨_, edge, -⟩
    · exact absurd same (by decide)
    · cases edge
  exact ⟨whole, edited, made, bound, (taken _ structured).1, (kept _ apart).2⟩

end Document
end CallSchema
