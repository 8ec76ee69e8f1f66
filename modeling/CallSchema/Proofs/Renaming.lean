import CallSchema.Proofs.Consistency
import CallSchema.Proofs.Layout

/-!
Symbols under new names. A renaming changes every symbol of a document, wherever it stands, and
leaves the names of modules, functions, parameters, fields and widths alone. Tables are kept in the
order of names, so the entries of a renamed table stand in another order; nothing is said about them
but by look-ups. `Renaming.Carries` is what a renaming does to a property of symbols, and
`Document.faulty_rename` says that it carries the symbols at fault.
-/
namespace CallSchema
open Relation Walk

/-- A renaming of symbols: different symbols get different names, and the handle type keeps its
own. -/
structure Renaming where
  apply : Symbol → Symbol
  injective : Function.Injective apply
  handle : apply handleType = handleType

instance : CoeFun Renaming fun _ => Symbol → Symbol := ⟨Renaming.apply⟩

namespace Renaming
variable {r : Renaming} {before after former latter : Symbol → Prop} {symbol : Symbol}

/-- What held of symbols before holds of their new names after, and of no other names. -/
def Carries (r : Renaming) (before after : Symbol → Prop) : Prop :=
  ∀ name, after name ↔ ∃ old, before old ∧ r old = name

theorem Carries.apply_iff (carries : r.Carries before after) :
    after (r symbol) ↔ before symbol := by
  rw [carries]
  constructor
  · rintro ⟨old, holds, same⟩
    exact r.injective same ▸ holds
  · exact fun holds => ⟨symbol, holds, rfl⟩

theorem Carries.or (first : r.Carries before after) (second : r.Carries former latter) :
    r.Carries (fun symbol => before symbol ∨ former symbol)
      fun name => after name ∨ latter name := by
  intro name
  refine (or_congr (first name) (second name)).trans (exists_or.symm.trans ?_)
  exact exists_congr fun old => or_and_right.symm

theorem Carries.and (first : r.Carries before after) (second : r.Carries former latter) :
    r.Carries (fun symbol => before symbol ∧ former symbol)
      fun name => after name ∧ latter name := by
  intro name
  constructor
  · rintro ⟨holds, also⟩
    obtain ⟨old, held, rfl⟩ := (first name).mp holds
    exact ⟨old, ⟨held, second.apply_iff.mp also⟩, rfl⟩
  · rintro ⟨old, ⟨held, also⟩, rfl⟩
    exact ⟨first.apply_iff.mpr held, second.apply_iff.mpr also⟩

theorem Carries.and_not (first : r.Carries before after) (second : r.Carries former latter) :
    r.Carries (fun symbol => before symbol ∧ ¬ former symbol)
      fun name => after name ∧ ¬ latter name := by
  intro name
  constructor
  · rintro ⟨holds, never⟩
    obtain ⟨old, held, rfl⟩ := (first name).mp holds
    exact ⟨old, ⟨held, fun also => never (second.apply_iff.mpr also)⟩, rfl⟩
  · rintro ⟨old, ⟨held, never⟩, rfl⟩
    exact ⟨first.apply_iff.mpr held, fun also => never (second.apply_iff.mp also)⟩

end Renaming

/-- The members under their new names. -/
def SymbolSet.rename (r : Renaming) (set : SymbolSet) : SymbolSet := .ofList (set.symbols.map r)

theorem SymbolSet.mem_rename (r : Renaming) (set : SymbolSet) :
    r.Carries (· ∈ set) (· ∈ set.rename r) := by
  intro name
  exact mem_ofList.trans List.mem_map

namespace Table
variable {β γ : Type} {r : Renaming} {change : β → γ} {table : Table Symbol β} {name : Symbol}
  {value : γ}

/-- The table under new names, which also changes the values. -/
def rename (r : Renaming) (change : β → γ) (table : Table Symbol β) : Table Symbol γ :=
  .ofList (table.entries.map fun entry => (r entry.1, change entry.2))

/-- The new names may stand in another order. -/
theorem entries_rename (r : Renaming) (change : β → γ) (table : Table Symbol β) :
    (table.rename r change).entries.Perm
      (table.entries.map fun entry => (r entry.1, change entry.2)) := by
  refine ofList_perm ?_
  rw [List.map_map]
  have names := (List.pairwise_map.mp table.texts_nodup)
  refine List.pairwise_map.mpr (names.imp fun different same => different ?_)
  exact congrArg _ (r.injective (Named.text_injective same))

theorem find?_rename_eq_some_iff : (table.rename r change).find? name = some value ↔
    ∃ old earlier, table.find? old = some earlier ∧ r old = name ∧ change earlier = value := by
  simp only [find?_eq_some_iff, (entries_rename r change table).mem_iff, List.mem_map, Prod.exists,
    Prod.mk.injEq]

theorem find?_rename :
    (table.rename r change).find? (r name) = (table.find? name).map change := by
  refine Option.ext fun value => ?_
  rw [find?_rename_eq_some_iff, Option.map_eq_some_iff]
  constructor
  · rintro ⟨old, earlier, found, same, rfl⟩
    exact ⟨earlier, r.injective same ▸ found, rfl⟩
  · rintro ⟨earlier, found, rfl⟩
    exact ⟨name, earlier, found, rfl, rfl⟩

theorem contains_rename (r : Renaming) (change : β → γ) (table : Table Symbol β) :
    r.Carries (table.contains ·) ((table.rename r change).contains ·) := by
  intro name
  simp only [contains_iff, find?_rename_eq_some_iff]
  constructor
  · rintro ⟨_, old, earlier, found, rfl, _⟩
    exact ⟨old, ⟨earlier, found⟩, rfl⟩
  · rintro ⟨old, ⟨earlier, found⟩, rfl⟩
    exact ⟨_, old, earlier, found, rfl, rfl⟩

theorem names_rename (r : Renaming) (change : β → γ) (table : Table Symbol β) :
    (table.rename r change).names.Perm (table.names.map r) := by
  have renamed := (entries_rename r change table).map Prod.fst
  rw [List.map_map] at renamed
  rw [names, names, List.map_map]
  exact renamed

theorem size_rename : (table.rename r change).size = table.size := by
  have names := (names_rename r change table).length_eq
  rwa [List.length_map, length_names, length_names] at names

end Table

/-! ### Documents under new names -/

/-- A field under new names. -/
def Field.rename (r : Renaming) (field : Field) : Field := { field with type := r field.type }

/-- A signature under new names. -/
def Signature.rename (r : Renaming) (signature : Signature) : Signature :=
  ⟨signature.parameters.map (Listing.mapValues r)⟩

/-- The aliases of a width under new names, as are their targets. -/
def AliasTable.rename (r : Renaming) (aliases : AliasTable) : AliasTable := Table.rename r r aliases

namespace Document
variable {r : Renaming} {document : Document} {name type : Symbol} {width : AddressWidth}

/-- The document with a new name for each symbol. -/
def rename (r : Renaming) (document : Document) : Document where
  modules := document.modules.mapValues (Table.mapValues (Signature.rename r))
  structures := document.structures.rename r (Listing.mapValues (Field.rename r))
  highLevel := document.highLevel.mapValues (AliasTable.rename r)
  backing := document.backing.rename r id

theorem aliases?_rename :
    (document.rename r).aliases? width = (document.aliases? width).map (AliasTable.rename r) :=
  Table.find?_mapValues

theorem isParameterType_rename (r : Renaming) (document : Document) :
    r.Carries document.IsParameterType (document.rename r).IsParameterType := by
  intro type
  constructor
  · rintro ⟨module, _, function, _, _, name, bound, named, given, typed⟩
    rw [rename, Table.find?_mapValues, Option.map_eq_some_iff] at bound
    obtain ⟨functions, bound, rfl⟩ := bound
    rw [Table.find?_mapValues, Option.map_eq_some_iff] at named
    obtain ⟨signature, named, rfl⟩ := named
    rw [Signature.rename, Option.map_eq_some_iff] at given
    obtain ⟨parameters, given, rfl⟩ := given
    rw [Listing.find?_mapValues, Option.map_eq_some_iff] at typed
    obtain ⟨old, typed, rfl⟩ := typed
    exact ⟨old, ⟨module, functions, function, signature, parameters, name, bound, named, given,
      typed⟩, rfl⟩
  · rintro ⟨old, ⟨module, functions, function, signature, parameters, name, bound, named, given,
      typed⟩, rfl⟩
    refine ⟨module, functions.mapValues (Signature.rename r), function, signature.rename r,
      parameters.mapValues r, name, ?_, ?_, ?_, ?_⟩
    · rw [rename, Table.find?_mapValues, bound]
      rfl
    · rw [Table.find?_mapValues, named]
      rfl
    · rw [Signature.rename, given]
      rfl
    · rw [Listing.find?_mapValues, typed]
      rfl

theorem hasField_rename {holder : Symbol} : (document.rename r).HasField holder type ↔
    ∃ oldHolder old, document.HasField oldHolder old ∧ r oldHolder = holder ∧ r old = type := by
  simp only [HasField, rename, Table.find?_rename_eq_some_iff]
  constructor
  · rintro ⟨_, name, _, ⟨old, fields, bound, rfl, rfl⟩, named, rfl⟩
    rw [Listing.find?_mapValues, Option.map_eq_some_iff] at named
    obtain ⟨field, named, rfl⟩ := named
    exact ⟨old, field.type, ⟨fields, name, field, bound, named, rfl⟩, rfl, rfl⟩
  · rintro ⟨old, _, ⟨fields, name, field, bound, named, rfl⟩, rfl, rfl⟩
    refine ⟨_, name, field.rename r, ⟨old, fields, bound, rfl, rfl⟩, ?_, rfl⟩
    rw [Listing.find?_mapValues, named]
    rfl

theorem isFieldType_rename (r : Renaming) (document : Document) :
    r.Carries document.IsFieldType (document.rename r).IsFieldType := by
  intro type
  simp only [IsFieldType, hasField_rename]
  constructor
  · rintro ⟨_, holder, old, held, rfl, rfl⟩
    exact ⟨old, ⟨holder, held⟩, rfl⟩
  · rintro ⟨old, ⟨holder, held⟩, rfl⟩
    exact ⟨_, holder, old, held, rfl, rfl⟩

theorem isAliasName_rename (r : Renaming) (document : Document) :
    r.Carries document.IsAliasName (document.rename r).IsAliasName := by
  intro name
  simp only [IsAliasName, aliases?_rename, Option.map_eq_some_iff]
  constructor
  · rintro ⟨width, _, ⟨aliases, bound, rfl⟩, renamed⟩
    obtain ⟨old, named, rfl⟩ := (Table.contains_rename r r aliases _).mp renamed
    exact ⟨old, ⟨width, aliases, bound, named⟩, rfl⟩
  · rintro ⟨old, ⟨width, aliases, bound, named⟩, rfl⟩
    exact ⟨width, _, ⟨aliases, bound, rfl⟩,
      (Table.contains_rename r r aliases _).mpr ⟨old, named, rfl⟩⟩

theorem isAliasTarget_rename (r : Renaming) (document : Document) :
    r.Carries document.IsAliasTarget (document.rename r).IsAliasTarget := by
  intro target
  simp only [IsAliasTarget, aliases?_rename, Option.map_eq_some_iff]
  constructor
  · rintro ⟨width, _, name, ⟨aliases, bound, rfl⟩, renamed⟩
    obtain ⟨old, earlier, edge, rfl, rfl⟩ := Table.find?_rename_eq_some_iff.mp renamed
    exact ⟨earlier, ⟨width, aliases, old, bound, edge⟩, rfl⟩
  · rintro ⟨old, ⟨width, aliases, name, bound, edge⟩, rfl⟩
    exact ⟨width, _, r name, ⟨aliases, bound, rfl⟩,
      Table.find?_rename_eq_some_iff.mpr ⟨name, old, edge, rfl, rfl⟩⟩

theorem structures_rename (r : Renaming) (document : Document) :
    r.Carries (document.structures.contains ·) ((document.rename r).structures.contains ·) :=
  Table.contains_rename r _ document.structures

theorem backing_rename (r : Renaming) (document : Document) :
    r.Carries (document.backing.contains ·) ((document.rename r).backing.contains ·) :=
  Table.contains_rename r id document.backing

theorem isDefined_rename (r : Renaming) (document : Document) :
    r.Carries document.IsDefined (document.rename r).IsDefined :=
  (document.structures_rename r).or ((document.isAliasName_rename r).or (document.backing_rename r))

/-- The symbols at fault stay at fault under their new names. -/
theorem faulty_rename (r : Renaming) (document : Document) (kind : FindingKind) :
    r.Carries (document.Faulty kind) ((document.rename r).Faulty kind) := by
  have defined := document.isDefined_rename r
  have fields := document.isFieldType_rename r
  have names := document.isAliasName_rename r
  have structures := document.structures_rename r
  have backing := document.backing_rename r
  cases kind with
  | missingFunctionParameter =>
    exact ((document.isParameterType_rename r).or fields).and_not defined
  | missingStructParameter => exact fields.and_not defined
  | missingHighLevelTarget => exact (document.isAliasTarget_rename r).and_not (names.or backing)
  | ambiguousHighLevelAndBacking => exact names.and backing
  | ambiguousHighLevelAndStruct => exact names.and structures
  | ambiguousStructAndBacking => exact structures.and backing
  | aliasCycle => exact fun name => by simp [Faulty]

end Document
end CallSchema
