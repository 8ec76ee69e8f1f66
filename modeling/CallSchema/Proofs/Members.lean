import CallSchema.Listing
import CallSchema.Symbol
import Mathlib.Data.List.Nodup
import Mathlib.Data.List.Sort

/-!
Tables, listings and sets seen through their members. A look-up finds exactly what is listed, and
an operation on sets is told by which symbols belong to its result; nothing later opens the list
of a set again. A table or a listing is rebuilt from its entries as it was.
-/
namespace CallSchema

/-- Among entries with different keys, a search for a key finds the entry that has it. -/
theorem find?_key_eq_some_iff {ε : Type} {key : ε → String} {entries : List ε} {text : String}
    {entry : ε} (distinct : (entries.map key).Nodup) :
    (entries.find? fun entry => key entry == text) = some entry ↔
      entry ∈ entries ∧ key entry = text := by
  constructor
  · intro found
    exact ⟨List.mem_of_find?_eq_some found, by simpa using List.find?_some found⟩
  · rintro ⟨member, rfl⟩
    have present : (entries.find? fun other => key other == key entry).isSome :=
      List.find?_isSome.mpr ⟨entry, member, by simp⟩
    obtain ⟨other, found⟩ := Option.isSome_iff_exists.mp present
    have same : key other = key entry := by simpa using List.find?_some found
    rw [found, List.inj_on_of_nodup_map distinct (List.mem_of_find?_eq_some found) member same]

namespace Table
variable {κ β γ : Type} [Named κ] {table : Table κ β} {name other : κ} {value : β}

/-- Each name is bound once. -/
theorem texts_nodup (table : Table κ β) :
    (table.entries.map fun entry => Named.text entry.1).Nodup :=
  List.pairwise_map.mpr <| table.sorted.imp fun before => String.ne_of_lt before

/-- A look-up finds the entry of the name, and there is no other. -/
theorem find?_eq_some_iff : table.find? name = some value ↔ (name, value) ∈ table.entries := by
  simp only [find?, Option.map_eq_some_iff, find?_key_eq_some_iff table.texts_nodup]
  constructor
  · rintro ⟨⟨other, _⟩, ⟨member, same⟩, rfl⟩
    obtain rfl : other = name := Named.text_injective same
    exact member
  · intro member
    exact ⟨(name, value), ⟨member, rfl⟩, rfl⟩

theorem contains_iff : table.contains name = true ↔ ∃ value, table.find? name = some value :=
  Option.isSome_iff_exists

theorem mem_names : name ∈ table.names ↔ table.contains name = true := by
  simp [names, contains_iff, find?_eq_some_iff]

theorem mem_values : value ∈ table.values ↔ ∃ name, table.find? name = some value := by
  simp [values, find?_eq_some_iff]

theorem find?_eq_none_iff : table.find? name = none ↔ ¬ table.contains name = true := by
  simp [contains]

/-- The names stand in order. -/
theorem names_sorted (table : Table κ β) :
    table.names.Pairwise fun a b => Named.text a < Named.text b :=
  List.pairwise_map.mpr table.sorted

theorem length_names (table : Table κ β) : table.names.length = table.size := List.length_map ..

/-- A name that comes after all others is placed last. -/
theorem place_last {entries : List (κ × β)}
    (after : ∀ entry ∈ entries, Named.text entry.1 < Named.text name) :
    place name value entries = entries ++ [(name, value)] := by
  induction entries with
  | nil => rfl
  | cons head rest ih =>
    have before := after head List.mem_cons_self
    have later := ih fun entry member => after entry (List.mem_cons_of_mem _ member)
    rw [place, if_neg (String.lt_asymm before), if_neg (String.ne_of_lt before).symm, later]
    rfl

/-- Bindings that continue the order of a table are its further entries. -/
theorem entries_foldl_insert {bindings : List (κ × β)}
    (sorted : (table.entries ++ bindings).Pairwise fun a b => Named.text a.1 < Named.text b.1) :
    (bindings.foldl (fun table binding => table.insert binding.1 binding.2) table).entries =
      table.entries ++ bindings := by
  induction bindings generalizing table with
  | nil => simp
  | cons head rest ih =>
    have after := (List.pairwise_append.mp sorted).2.2
    have placed : (table.insert head.1 head.2).entries = table.entries ++ [head] :=
      place_last fun entry member => after entry member head List.mem_cons_self
    have continued : (table.insert head.1 head.2).entries ++ rest =
        table.entries ++ head :: rest := by
      simp [placed]
    rw [List.foldl_cons, ih (continued ▸ sorted), continued]

/-- Tables with the same entries are the same. -/
theorem eq_of_entries {a b : Table κ β} (same : a.entries = b.entries) : a = b := by
  cases a
  cases b
  cases same
  rfl

/-- A table is the table of its entries. -/
theorem ofList_entries (table : Table κ β) : ofList table.entries = table := by
  have all : (ofList table.entries).entries = empty.entries ++ table.entries :=
    entries_foldl_insert table.sorted
  exact eq_of_entries all

/-- A new name makes one entry more, wherever its place is. -/
theorem place_perm {entries : List (κ × β)}
    (fresh : ∀ entry ∈ entries, Named.text entry.1 ≠ Named.text name) :
    (place name value entries).Perm ((name, value) :: entries) := by
  induction entries with
  | nil => exact .refl _
  | cons head rest ih =>
    have later := ih fun entry member => fresh entry (List.mem_cons_of_mem _ member)
    rw [place]
    split
    · exact .refl _
    · rw [if_neg (fresh head List.mem_cons_self).symm]
      exact (later.cons head).trans (.swap _ _ _)

/-- Bindings of new names are more entries, each at its place. -/
theorem foldl_insert_perm {bindings : List (κ × β)}
    (distinct : ((bindings ++ table.entries).map fun entry => Named.text entry.1).Nodup) :
    (bindings.foldl (fun table binding => table.insert binding.1 binding.2) table).entries.Perm
      (bindings ++ table.entries) := by
  induction bindings generalizing table with
  | nil => exact .refl _
  | cons head rest ih =>
    rw [List.cons_append, List.map_cons, List.nodup_cons] at distinct
    have placed : (table.insert head.1 head.2).entries.Perm (head :: table.entries) := by
      refine place_perm fun entry member same => distinct.1 (same ▸ ?_)
      exact List.mem_map_of_mem (List.mem_append_right _ member)
    have moved : (rest ++ (table.insert head.1 head.2).entries).Perm
        (head :: (rest ++ table.entries)) :=
      (placed.append_left rest).trans List.perm_middle
    refine (ih ?_).trans moved
    refine (moved.map _).nodup_iff.mpr ?_
    rw [List.map_cons, List.nodup_cons]
    exact distinct

/-- Bindings of different names are the entries of their table, put in order. -/
theorem ofList_perm {bindings : List (κ × β)}
    (distinct : (bindings.map fun binding => Named.text binding.1).Nodup) :
    (ofList bindings).entries.Perm bindings := by
  have all : (ofList bindings).entries.Perm (bindings ++ (empty : Table κ β).entries) :=
    foldl_insert_perm (by simpa [empty] using distinct)
  rwa [empty, List.append_nil] at all

/-- Binding a name leaves the other names as they were. -/
theorem find?_insert_of_ne (different : other ≠ name) :
    (table.insert other value).find? name = table.find? name := by
  have unmatched : (Named.text other == Named.text name) = false :=
    beq_eq_false_iff_ne.mpr fun same => different (Named.text_injective same)
  refine congrArg (Option.map Prod.snd) ?_
  dsimp only [insert]
  induction table.entries with
  | nil => simp only [place, List.find?_cons, unmatched, List.find?_nil]
  | cons head rest ih =>
    rw [place]
    split
    · simp only [List.find?_cons, unmatched]
    · split
      · rename_i same
        simp only [List.find?_cons, ← same, unmatched]
      · simp only [List.find?_cons, ih]

/-- A name that is bound has the value that it was bound to. -/
theorem find?_insert_self : (table.insert name value).find? name = some value := by
  rw [find?_eq_some_iff]
  change (name, value) ∈ place name value table.entries
  induction table.entries with
  | nil => exact List.mem_singleton.mpr rfl
  | cons head rest ih =>
    rw [place]
    split
    · exact List.mem_cons_self
    · split
      · exact List.mem_cons_self
      · exact List.mem_cons_of_mem _ ih

/-- Binding a name adds that name and no other. -/
theorem contains_insert : (table.insert other value).contains name = true ↔
    name = other ∨ table.contains name = true := by
  by_cases same : name = other
  · subst same
    simp [contains, find?_insert_self]
  · rw [contains, find?_insert_of_ne fun different => same different.symm]
    exact (or_iff_right same).symm

/-- Forgetting a name leaves the other names as they were. -/
theorem find?_erase_of_ne (different : other ≠ name) :
    (table.erase other).find? name = table.find? name := by
  refine Option.ext fun value => ?_
  rw [find?_eq_some_iff, find?_eq_some_iff, erase, List.mem_filter]
  refine and_iff_left_of_imp fun _ => ?_
  simpa using fun same => different (Named.text_injective same).symm

/-- A name that is forgotten has no value. -/
theorem find?_erase_self : (table.erase name).find? name = none := by
  rw [find?_eq_none_iff, contains_iff]
  rintro ⟨value, found⟩
  rw [find?_eq_some_iff, erase, List.mem_filter] at found
  simpa using found.2

/-- The table with other values under the same names. -/
def mapValues (change : β → γ) (table : Table κ β) : Table κ γ :=
  ⟨table.entries.map fun entry => (entry.1, change entry.2), List.pairwise_map.mpr table.sorted⟩

theorem find?_mapValues {change : β → γ} :
    (table.mapValues change).find? name = (table.find? name).map change := by
  simp [find?, mapValues, List.find?_map, Function.comp_def]

end Table

namespace Listing
variable {β γ : Type} {listing : Listing β} {name : String} {value : β}

/-- A look-up finds the entry of the name, and there is no other. -/
theorem find?_eq_some_iff : listing.find? name = some value ↔ (name, value) ∈ listing.entries := by
  simp only [find?, Option.map_eq_some_iff, find?_key_eq_some_iff listing.distinct]
  constructor
  · rintro ⟨⟨_, _⟩, ⟨member, rfl⟩, rfl⟩
    exact member
  · intro member
    exact ⟨(name, value), ⟨member, rfl⟩, rfl⟩

theorem mem_values : value ∈ listing.values ↔ ∃ name, listing.find? name = some value := by
  simp [values, find?_eq_some_iff]

/-- A name that is new is added at the end. -/
theorem assign_fresh {entries : List (String × β)} (fresh : name ∉ entries.map Prod.fst) :
    assign name value entries = entries ++ [(name, value)] := by
  induction entries with
  | nil => rfl
  | cons head rest ih =>
    have different : head.1 ≠ name := fun same => fresh (same ▸ List.mem_cons_self)
    rw [assign, if_neg different, ih fun member => fresh (List.mem_cons_of_mem _ member)]
    rfl

/-- Values under new names are the further entries of a listing. -/
theorem entries_foldl_set {named : List (String × β)}
    (distinct : ((listing.entries ++ named).map Prod.fst).Nodup) :
    (named.foldl (fun listing entry => listing.set entry.1 entry.2) listing).entries =
      listing.entries ++ named := by
  induction named generalizing listing with
  | nil => simp
  | cons head rest ih =>
    have fresh : head.1 ∉ listing.entries.map Prod.fst := by
      rw [List.map_append, List.map_cons] at distinct
      exact fun member => (List.nodup_append.mp distinct).2.2 _ member _ List.mem_cons_self rfl
    have continued : (listing.set head.1 head.2).entries ++ rest =
        listing.entries ++ head :: rest := by
      simp [set, assign_fresh fresh]
    rw [List.foldl_cons, ih (continued ▸ distinct), continued]

/-- Listings with the same entries are the same. -/
theorem eq_of_entries {a b : Listing β} (same : a.entries = b.entries) : a = b := by
  cases a
  cases b
  cases same
  rfl

/-- A listing is the listing of its entries. -/
theorem ofList_entries (listing : Listing β) : ofList listing.entries = listing := by
  have all : (ofList listing.entries).entries = empty.entries ++ listing.entries :=
    entries_foldl_set listing.distinct
  exact eq_of_entries all

/-- The listing with other values under the same names. -/
def mapValues (change : β → γ) (listing : Listing β) : Listing γ :=
  ⟨listing.entries.map fun entry => (entry.1, change entry.2), by
    rw [List.map_map]
    exact listing.distinct⟩

theorem find?_mapValues {change : β → γ} :
    (listing.mapValues change).find? name = (listing.find? name).map change := by
  simp [find?, mapValues, List.find?_map, Function.comp_def]

end Listing

namespace SymbolSet
variable {a b set : SymbolSet} {symbol other : Symbol} {symbols : List Symbol}

theorem contains_iff : set.contains symbol = true ↔ symbol ∈ set := decide_eq_true_iff

instance : Decidable (symbol ∈ set) := inferInstanceAs (Decidable (symbol ∈ set.symbols))

theorem mem_empty : symbol ∉ empty := List.not_mem_nil

theorem mem_insert : other ∈ set.insert symbol ↔ other = symbol ∨ other ∈ set := mem_place

private theorem mem_foldl_insert :
    symbol ∈ symbols.foldl insert set ↔ symbol ∈ symbols ∨ symbol ∈ set := by
  induction symbols generalizing set with
  | nil => simp
  | cons head rest ih =>
    rw [List.foldl_cons, ih, mem_insert, List.mem_cons]
    tauto

theorem mem_ofList : symbol ∈ ofList symbols ↔ symbol ∈ symbols := by
  simp [ofList, mem_foldl_insert, mem_empty]

theorem mem_filter {keep : Symbol → Bool} :
    symbol ∈ set.filter keep ↔ symbol ∈ set ∧ keep symbol = true := List.mem_filter

theorem mem_inter : symbol ∈ a.inter b ↔ symbol ∈ a ∧ symbol ∈ b := by
  rw [inter, mem_filter, contains_iff]

theorem isEmpty_iff : set.isEmpty = true ↔ ∀ symbol, symbol ∉ set := by
  rw [isEmpty, List.isEmpty_iff, List.eq_nil_iff_forall_not_mem]
  exact Iff.rfl

/-- Sets with the same members are the same. -/
theorem ext {a b : SymbolSet} (same : ∀ symbol, symbol ∈ a ↔ symbol ∈ b) : a = b := by
  have antisymm : Std.Antisymm fun a b : Symbol => a.name < b.name :=
    ⟨fun a b first second => absurd second (String.lt_asymm first)⟩
  have irrefl : Std.Irrefl fun a b : Symbol => a.name < b.name := ⟨fun a => String.lt_irrefl a.name⟩
  cases a
  cases b
  congr
  exact List.Pairwise.eq_of_mem_iff ‹_› ‹_› same

end SymbolSet

/-- The names of a table are its set of symbols. -/
theorem Table.mem_symbols {β : Type} {table : Table Symbol β} {symbol : Symbol} :
    symbol ∈ table.symbols ↔ table.contains symbol = true := Table.mem_names

end CallSchema
