import CallSchema.Proofs.Consistency
import CallSchema.Proofs.Layout
import Mathlib.Data.List.Perm.Subperm

/-!
The order of parameters and of fields. `Document.Alike` is what the comparison of two documents
leaves open: the order in which parameters and fields are listed, and sizes that are written
differently and are the same number or none. Alike documents have the same report. Where one of them
has parameters for a function the other has them too, with the siblings of each level of nesting in
another order (`Parameter.Alike`); only which error comes first depends on the order.
-/
namespace CallSchema
open Walk

/-! ### Alike documents -/

/-- The tables bind the same names, to related values. -/
def Table.Paired {κ β γ : Type} [Named κ] (related : β → γ → Prop) (a : Table κ β)
    (b : Table κ γ) : Prop :=
  List.Forall₂ (fun entry other => entry.1 = other.1 ∧ related entry.2 other.2) a.entries b.entries

namespace Table.Paired
variable {κ β : Type} [Named κ] {related : β → β → Prop} {a b : Table κ β} {name : κ}

/-- Tables that compare equal are paired by what their values' comparison means. -/
theorem of_sameBy {alike : β → β → Bool} (same : a.sameBy alike b = true)
    (means : ∀ value other, alike value other = true → related value other) :
    a.Paired related b := by
  rw [sameBy, Bool.and_eq_true, beq_iff_eq, List.all_eq_true] at same
  refine List.forall₂_iff_zip.mpr ⟨same.1, fun {entry other} listed => ?_⟩
  have both := same.2 (entry, other) listed
  rw [Bool.and_eq_true, beq_iff_eq] at both
  exact ⟨Named.text_injective both.1, means _ _ both.2⟩

theorem symm (turn : ∀ value other, related value other → related other value)
    (paired : a.Paired related b) : b.Paired related a :=
  paired.flip.imp fun _ _ both => ⟨both.1.symm, turn _ _ both.2⟩

/-- A name is bound in both tables or in none. -/
theorem find?_rel (paired : a.Paired related b) (name : κ) :
    Option.Rel related (a.find? name) (b.find? name) := by
  obtain ⟨entries, _⟩ := a
  obtain ⟨others, _⟩ := b
  simp only [Paired] at paired
  simp only [find?]
  induction paired with
  | nil => exact .none
  | @cons entry other _ _ both _ ih =>
    rw [List.find?_cons, List.find?_cons, ← both.1]
    split
    · exact .some both.2
    · exact ih (List.Pairwise.of_cons ‹_›) (List.Pairwise.of_cons ‹_›)

theorem find?_eq_some (paired : a.Paired related b) {value : β}
    (bound : a.find? name = some value) :
    ∃ other, b.find? name = some other ∧ related value other := by
  have related := paired.find?_rel name
  rw [bound] at related
  generalize b.find? name = found at related ⊢
  cases related with
  | some alike => exact ⟨_, rfl, alike⟩

theorem contains_eq (paired : a.Paired related b) (name : κ) :
    a.contains name = b.contains name := by
  have related := paired.find?_rel name
  rw [contains, contains]
  generalize a.find? name = value at related ⊢
  generalize b.find? name = other at related ⊢
  cases related <;> rfl

theorem size_eq (paired : a.Paired related b) : a.size = b.size := List.Forall₂.length_eq paired

/-- Tables that bind the same names to the same values are the same. -/
theorem eq (paired : a.Paired (· = ·) b) : a = b := by
  refine eq_of_entries (List.forall₂_eq_eq_eq ▸ paired.imp fun entry other both => ?_)
  exact Prod.ext both.1 both.2

end Table.Paired

/-- The listings have the same entries. -/
def Listing.Alike {β : Type} (a b : Listing β) : Prop := a.entries.Perm b.entries

/-- Listings that compare equal have the same entries: none is missing, and there are as many. -/
theorem Listing.alike_of_sameEntries {β : Type} [DecidableEq β] {a b : Listing β}
    (same : a.sameEntries b = true) : a.Alike b := by
  rw [sameEntries, Bool.and_eq_true, beq_iff_eq, List.all_eq_true] at same
  have subset : a.entries ⊆ b.entries := fun entry listed =>
    find?_eq_some_iff.mp (beq_iff_eq.mp (same.2 entry listed))
  have distinct : a.entries.Nodup := .of_map _ a.distinct
  exact (List.subperm_of_subset distinct subset).perm_of_length_le same.1.ge

theorem Listing.Alike.find?_eq {β : Type} {a b : Listing β} (alike : a.Alike b) (name : String) :
    a.find? name = b.find? name :=
  Option.ext fun value => by rw [find?_eq_some_iff, find?_eq_some_iff, alike.mem_iff]

/-- Both functions give no parameters, or the same ones. -/
def Signature.Alike (a b : Signature) : Prop := Option.Rel Listing.Alike a.parameters b.parameters

theorem Signature.alike_of_same {a b : Signature} (same : a.same b = true) : a.Alike b := by
  obtain ⟨a⟩ := a
  obtain ⟨b⟩ := b
  rw [Signature.same] at same
  rw [Signature.Alike]
  cases a <;> cases b
  · exact .none
  · cases same
  · cases same
  · exact .some (Listing.alike_of_sameEntries same)

theorem Signature.Alike.symm {a b : Signature} (alike : a.Alike b) : b.Alike a := by
  obtain ⟨a⟩ := a
  obtain ⟨b⟩ := b
  rw [Signature.Alike] at alike ⊢
  cases alike with
  | some same => exact .some same.symm
  | none => exact .none

/-- Values that are equal are the same number, or none. -/
theorem Yaml.Value.natural?_eq_of_same {a b : Value} (same : a.same b = true) :
    a.natural? = b.natural? := by
  cases a with
  | tagged label a =>
    cases b with
    | tagged other b =>
      rw [Value.same, Bool.and_eq_true] at same
      have within : a.natural? = b.natural? := natural?_eq_of_same same.2
      exact within
    | _ => simp [Value.same] at same
  | int number =>
    cases b with
    | int other =>
      rw [Value.same, beq_iff_eq] at same
      rw [same]
    | _ => simp [Value.same] at same
  | _ =>
    cases b with
    | int | tagged => simp [Value.same] at same
    | _ => rfl

/-- The documents differ at most in the order of parameters and fields, and in sizes that are not
told apart. -/
structure Document.Alike (first second : Document) : Prop where
  modules : first.modules.Paired (Table.Paired Signature.Alike) second.modules
  structures : first.structures.Paired Listing.Alike second.structures
  highLevel : first.highLevel = second.highLevel
  backing : first.backing.Paired (fun a b => a.natural? = b.natural?) second.backing

namespace Document.Alike
variable {first second : Document} {holder type : Symbol}

/-- Documents that compare equal are alike. -/
theorem of_same (same : first.same second = true) : first.Alike second := by
  simp only [Document.same, Bool.and_eq_true] at same
  obtain ⟨⟨⟨modules, structures⟩, highLevel⟩, backing⟩ := same
  have aliases : first.highLevel.Paired (· = ·) second.highLevel :=
    .of_sameBy highLevel fun aliases others same =>
      Table.Paired.eq (.of_sameBy same fun target other => eq_of_beq)
  exact {
    modules := .of_sameBy modules fun functions others same =>
      .of_sameBy same fun signature other => Signature.alike_of_same
    structures := .of_sameBy structures fun fields others => Listing.alike_of_sameEntries
    highLevel := aliases.eq
    backing := .of_sameBy backing fun value other => Yaml.Value.natural?_eq_of_same }

theorem symm (alike : first.Alike second) : second.Alike first where
  modules := alike.modules.symm fun _ _ functions => functions.symm fun _ _ => Signature.Alike.symm
  structures := alike.structures.symm fun _ _ fields => List.Perm.symm fields
  highLevel := alike.highLevel.symm
  backing := alike.backing.symm fun _ _ => Eq.symm

/-! ### Reports -/

theorem isParameterType (alike : first.Alike second) (declared : first.IsParameterType type) :
    second.IsParameterType type := by
  obtain ⟨module, functions, function, signature, parameters, name, bound, named, given, typed⟩ :=
    declared
  obtain ⟨others, boundToo, paired⟩ := alike.modules.find?_eq_some bound
  obtain ⟨other, namedToo, same⟩ := paired.find?_eq_some named
  rw [Signature.Alike, given] at same
  generalize listed : other.parameters = listing at same
  cases same with
  | some same =>
    exact ⟨module, others, function, other, _, name, boundToo, namedToo, listed,
      (same.find?_eq name).symm.trans typed⟩

theorem hasField (alike : first.Alike second) (held : first.HasField holder type) :
    second.HasField holder type := by
  obtain ⟨fields, name, field, bound, named, typed⟩ := held
  obtain ⟨others, boundToo, same⟩ := alike.structures.find?_eq_some bound
  exact ⟨others, name, field, boundToo, (same.find?_eq name).symm.trans named, typed⟩

/-- The same symbols are at fault. -/
theorem faulty_iff (alike : first.Alike second) (kind : FindingKind) (symbol : Symbol) :
    first.Faulty kind symbol ↔ second.Faulty kind symbol := by
  have parameters : first.IsParameterType symbol ↔ second.IsParameterType symbol :=
    ⟨alike.isParameterType, alike.symm.isParameterType⟩
  have fields : first.IsFieldType symbol ↔ second.IsFieldType symbol :=
    exists_congr fun holder => ⟨alike.hasField, alike.symm.hasField⟩
  have names : first.IsAliasName symbol ↔ second.IsAliasName symbol := by
    simp only [IsAliasName, aliases?, alike.highLevel]
  have targets : first.IsAliasTarget symbol ↔ second.IsAliasTarget symbol := by
    simp only [IsAliasTarget, aliases?, alike.highLevel]
  have defined : first.IsDefined symbol ↔ second.IsDefined symbol := by
    simp only [IsDefined, names, alike.structures.contains_eq, alike.backing.contains_eq]
  cases kind <;>
    simp only [Faulty, parameters, fields, names, targets, defined, alike.structures.contains_eq,
      alike.backing.contains_eq]

theorem validate_eq (alike : first.Alike second) : first.validate = second.validate := by
  have found : first.foundBy = second.foundBy := by
    refine funext fun kind => SymbolSet.ext fun symbol => ?_
    rw [mem_foundBy, mem_foundBy, alike.faulty_iff]
  have findings : first.validate.findings = second.validate.findings := by
    rw [findings_eq, findings_eq, found, alike.highLevel]
  exact congrArg Report.mk findings

end Document.Alike

/-! ### Resolution -/

/-- The same parameter or field, the order of its fields and of theirs aside. -/
inductive Parameter.Alike : Parameter → Parameter → Prop where
  | mk {name : String} {basicType : Symbol} {size offset : UInt64}
      {fields matched others : List Parameter} (each : List.Forall₂ Alike fields matched)
      (order : matched.Perm others) :
      Alike ⟨name, basicType, size, offset, fields⟩ ⟨name, basicType, size, offset, others⟩

/-- The same parameters or fields in another order, at every level of nesting. -/
def Reordered (parameters others : List Parameter) : Prop :=
  ∃ matched, List.Forall₂ Parameter.Alike parameters matched ∧ matched.Perm others

namespace Resolver
variable {first second : Resolver} (alike : first.document.Alike second.document)
  (width : first.width = second.width)
include alike width

theorem aliases_eq_of_alike : first.aliases = second.aliases := by
  have bound := first.bound
  rw [Document.aliases?, alike.highLevel, width] at bound
  exact Option.some.inj (bound.symm.trans second.bound)

theorem basicType_eq_of_alike (symbol : Symbol) :
    first.basicType symbol = second.basicType symbol := by
  refine basicType_eq_of_next width (fun passed _ => ?_) fun passed _ =>
    alike.backing.contains_eq passed
  rw [next, next, aliases_eq_of_alike alike width, alike.backing.contains_eq,
    alike.structures.contains_eq]

/-- Sizes are the same where there are any; what is told of others may differ. -/
theorem size_eq_ok_of_alike {symbol : Symbol} {size : UInt64}
    (sized : first.size symbol = .ok size) : second.size symbol = .ok size := by
  obtain ⟨basic, value, stands, bound, whole⟩ := size_eq_ok_iff.mp sized
  obtain ⟨other, boundToo, same⟩ := alike.backing.find?_eq_some bound
  rw [basicType_eq_of_alike alike width] at stands
  exact size_eq_ok_iff.mpr ⟨basic, other, stands, boundToo, same ▸ whole⟩

theorem layoutWith_alike {name : String} {type : Symbol} {offset : UInt64} {parameter : Parameter}
    {fields others : List Parameter} (reordered : Reordered fields others)
    (laidOut : first.layoutWith name type offset fields = .ok parameter) :
    ∃ other, second.layoutWith name type offset others = .ok other ∧ parameter.Alike other := by
  obtain ⟨basic, size, stands, sized, rfl⟩ := layoutWith_eq_ok_iff.mp laidOut
  obtain ⟨matched, each, order⟩ := reordered
  rw [basicType_eq_of_alike alike width] at stands
  have sizedToo := size_eq_ok_of_alike alike width sized
  exact ⟨_, layoutWith_eq_ok_iff.mpr ⟨basic, size, stands, sizedToo, rfl⟩, .mk each order⟩

/-- A type that has a layout in one document has it in the other, with fields in another order. The
induction is on the levels of nesting. -/
theorem layoutWithin_alike {levels : Nat} {entered : List Symbol} {name : String} {type : Symbol}
    {offset : UInt64} {parameter : Parameter}
    (laidOut : first.layoutWithin levels entered name type offset = .ok parameter) :
    ∃ other, second.layoutWithin levels entered name type offset = .ok other ∧
      parameter.Alike other := by
  induction levels generalizing entered name type offset parameter with
  | zero => cases laidOut
  | succ levels ih =>
    have paired := alike.structures.find?_rel type
    rw [layoutWithin] at laidOut ⊢
    generalize first.document.structures.find? type = structure? at laidOut paired
    generalize second.document.structures.find? type = other? at paired ⊢
    cases paired with
    | none => exact layoutWith_alike alike width ⟨[], .nil, .refl _⟩ laidOut
    | some order =>
      dsimp only at laidOut ⊢
      split at laidOut
      · cases laidOut
      · rename_i fresh
        obtain ⟨fields, all, last⟩ := bind_eq_ok_iff.mp laidOut
        obtain ⟨others, allToo, reordered⟩ := mapM_perm order
          (fun entry field laidOut => ih laidOut) all
        obtain ⟨other, lastToo, same⟩ := layoutWith_alike alike width reordered last
        rw [if_neg fresh]
        exact ⟨other, bind_eq_ok_iff.mpr ⟨others, allToo, lastToo⟩, same⟩

theorem functionParameters_alike {module function : String} {parameters : List Parameter}
    (resolved : first.functionParameters module function = .ok parameters) :
    ∃ others, second.functionParameters module function = .ok others ∧
      Reordered parameters others := by
  have modules := alike.modules.find?_rel module
  rw [functionParameters] at resolved ⊢
  generalize first.document.modules.find? module = module? at resolved modules
  generalize second.document.modules.find? module = otherModule? at modules ⊢
  cases modules with
  | none => cases resolved
  | some functions =>
    have signatures := functions.find?_rel function
    dsimp only at resolved ⊢
    generalize Table.find? _ function = signature? at resolved signatures
    generalize Table.find? _ function = otherSignature? at signatures ⊢
    cases signatures with
    | none => cases resolved
    | @some signature other same =>
      rw [Signature.Alike] at same
      dsimp only at resolved ⊢
      generalize signature.parameters = parameters? at resolved same
      generalize other.parameters = otherParameters? at same ⊢
      cases same with
      | none =>
        cases resolved
        exact ⟨[], rfl, [], .nil, .refl _⟩
      | some order =>
        simp only [run_layouts, alike.structures.size_eq] at resolved ⊢
        exact mapM_perm order (fun _ _ laidOut => layoutWithin_alike alike width laidOut) resolved

end Resolver

namespace Document
variable {first second : Document} {module function width : String} {parameters : List Parameter}

theorem Alike.describe (alike : first.Alike second)
    (described : first.describe module function width = .ok parameters) :
    ∃ others, second.describe module function width = .ok others ∧ Reordered parameters others := by
  cases bound : first.aliases? ⟨width⟩ with
  | none =>
    have absent := resolver_eq_error bound
    rw [Document.describe, parametersOf, absent] at described
    cases described
  | some aliases =>
    have boundToo : second.aliases? ⟨width⟩ = some aliases := by
      rw [← bound, aliases?, aliases?, alike.highLevel]
    have viewed : Resolver.width ⟨first, ⟨width⟩, aliases, bound⟩ =
        Resolver.width ⟨second, ⟨width⟩, aliases, boundToo⟩ := rfl
    rw [describe_eq bound, mapError_eq_ok_iff] at described
    obtain ⟨others, resolved, reordered⟩ :=
      Resolver.functionParameters_alike alike viewed described
    exact ⟨others, by rw [describe_eq boundToo, mapError_eq_ok_iff.mpr resolved], reordered⟩

/-- **The order of parameters and fields makes no difference.** Documents that compare equal have
the same report. A function is described in both or in neither, and the descriptions are the same up
to the order of siblings at every level of nesting. -/
theorem same_order_independent (first second : Document) (same : first.same second = true) :
    first.validate = second.validate ∧
    ∀ module function width,
      ((∃ parameters, first.describe module function width = .ok parameters) ↔
        ∃ others, second.describe module function width = .ok others) ∧
      ∀ parameters others, first.describe module function width = .ok parameters →
        second.describe module function width = .ok others → Reordered parameters others := by
  have alike := Alike.of_same same
  refine ⟨alike.validate_eq, fun module function width => ⟨⟨?_, ?_⟩, ?_⟩⟩
  · rintro ⟨parameters, described⟩
    obtain ⟨others, describedToo, _⟩ := alike.describe described
    exact ⟨others, describedToo⟩
  · rintro ⟨others, described⟩
    obtain ⟨parameters, describedToo, _⟩ := alike.symm.describe described
    exact ⟨parameters, describedToo⟩
  · intro parameters others described describedToo
    obtain ⟨found, same, reordered⟩ := alike.describe described
    obtain rfl := Except.ok.inj (same.symm.trans describedToo)
    exact reordered

/-- A window's place, given by the corners of a rectangle. -/
def arranged : Document where
  modules := .ofList [("user32.dll", .ofList [("MoveWindow",
    ⟨some (.ofList [("hWnd", ⟨"HWND"⟩), ("lpRect", ⟨"RECT"⟩)])⟩)])]
  structures := .ofList [
    (⟨"POINT"⟩, .ofList [("x", ⟨⟨"LONG"⟩, some 0⟩), ("y", ⟨⟨"LONG"⟩, some 4⟩)]),
    (⟨"RECT"⟩, .ofList [("from", ⟨⟨"POINT"⟩, some 0⟩), ("to", ⟨⟨"POINT"⟩, some 8⟩)])]
  highLevel := .ofList [(⟨"AddressWidth32Bit"⟩, .ofList [(⟨"HANDLE"⟩, ⟨"uint32_t"⟩),
    (⟨"HWND"⟩, ⟨"HANDLE"⟩)])]
  backing := .ofList [(⟨"LONG"⟩, .int 4), (⟨"uint32_t"⟩, .int 4)]

/-- The same with all parameters and fields the other way round. -/
def rearranged : Document where
  modules := .ofList [("user32.dll", .ofList [("MoveWindow",
    ⟨some (.ofList [("lpRect", ⟨"RECT"⟩), ("hWnd", ⟨"HWND"⟩)])⟩)])]
  structures := .ofList [
    (⟨"POINT"⟩, .ofList [("y", ⟨⟨"LONG"⟩, some 4⟩), ("x", ⟨⟨"LONG"⟩, some 0⟩)]),
    (⟨"RECT"⟩, .ofList [("to", ⟨⟨"POINT"⟩, some 8⟩), ("from", ⟨⟨"POINT"⟩, some 0⟩)])]
  highLevel := .ofList [(⟨"AddressWidth32Bit"⟩, .ofList [(⟨"HANDLE"⟩, ⟨"uint32_t"⟩),
    (⟨"HWND"⟩, ⟨"HANDLE"⟩)])]
  backing := .ofList [(⟨"LONG"⟩, .int 4), (⟨"uint32_t"⟩, .int 4)]

theorem arranged_same : arranged.same rearranged = true := by decide

/-- Both describe the function, each in its own order. -/
theorem rearranged_moveWindow : arranged.same rearranged = true ∧
    ∃ parameters others,
      arranged.describe "user32.dll" "MoveWindow" "AddressWidth32Bit" = .ok parameters ∧
      rearranged.describe "user32.dll" "MoveWindow" "AddressWidth32Bit" = .ok others ∧
      parameters.map Parameter.name = ["hWnd", "lpRect"] ∧
      others.map Parameter.name = ["lpRect", "hWnd"] ∧ Reordered parameters others := by
  have reordered := ((same_order_independent arranged rearranged arranged_same).2 "user32.dll"
    "MoveWindow" "AddressWidth32Bit").2
  exact ⟨arranged_same, _, _, rfl, rfl, rfl, rfl, reordered _ _ rfl rfl⟩

end Document
end CallSchema
