/-!
Tables in the order of their names. A table holds at most one value for a name, and its entries
stand in the order of the names' texts, character by character, so that two tables with the same
bindings are the same table.
-/
namespace CallSchema

/-- Names are told apart, and put in order, by their text alone. -/
class Named (κ : Type) where
  text : κ → String
  text_injective : ∀ {a b : κ}, text a = text b → a = b

instance : Named String := ⟨id, fun same => same⟩

/-- Bindings of names to values, in the order of the names. -/
structure Table (κ : Type) [Named κ] (β : Type) where
  entries : List (κ × β)
  sorted : entries.Pairwise fun a b => Named.text a.1 < Named.text b.1

namespace Table
variable {κ β γ : Type} [Named κ]

instance [DecidableEq κ] [DecidableEq β] : DecidableEq (Table κ β) := fun a b =>
  if same : a.entries = b.entries then
    .isTrue (by cases a; cases b; cases same; rfl)
  else
    .isFalse fun equal => same (congrArg entries equal)

/-- The table without entries. -/
def empty : Table κ β := ⟨[], .nil⟩

instance : Inhabited (Table κ β) := ⟨empty⟩

/-- Puts an entry at its place in a sorted list; an entry of the same name gives way. -/
def place (name : κ) (value : β) : List (κ × β) → List (κ × β)
  | [] => [(name, value)]
  | entry :: rest =>
    if Named.text name < Named.text entry.1 then (name, value) :: entry :: rest
    else if Named.text name = Named.text entry.1 then (name, value) :: rest
    else entry :: place name value rest

/-- Nothing but the placed entry is new. -/
theorem mem_place {name : κ} {value : β} {entries : List (κ × β)} {entry : κ × β}
    (member : entry ∈ place name value entries) : entry = (name, value) ∨ entry ∈ entries := by
  induction entries with
  | nil => exact .inl (List.mem_singleton.mp member)
  | cons head rest ih =>
    rw [place] at member
    split at member
    · rcases List.mem_cons.mp member with same | member
      · exact .inl same
      · exact .inr member
    · split at member
      · rcases List.mem_cons.mp member with same | member
        · exact .inl same
        · exact .inr (List.mem_cons_of_mem _ member)
      · rcases List.mem_cons.mp member with same | member
        · exact .inr (same ▸ List.mem_cons_self ..)
        · rcases ih member with same | member
          · exact .inl same
          · exact .inr (List.mem_cons_of_mem _ member)

/-- Placing keeps the order of the names. -/
theorem sorted_place (name : κ) (value : β) {entries : List (κ × β)}
    (sorted : entries.Pairwise fun a b => Named.text a.1 < Named.text b.1) :
    (place name value entries).Pairwise fun a b => Named.text a.1 < Named.text b.1 := by
  induction entries with
  | nil => exact List.pairwise_singleton ..
  | cons head rest ih =>
    have above := (List.pairwise_cons.mp sorted).1
    have tail := (List.pairwise_cons.mp sorted).2
    rw [place]
    split
    · rename_i before
      refine List.pairwise_cons.mpr ⟨fun entry member => ?_, sorted⟩
      rcases List.mem_cons.mp member with same | member
      · exact same ▸ before
      · exact String.lt_trans before (above entry member)
    · split
      · rename_i same
        exact List.pairwise_cons.mpr ⟨fun entry member => same ▸ above entry member, tail⟩
      · rename_i notBefore different
        refine List.pairwise_cons.mpr ⟨fun entry member => ?_, ih tail⟩
        rcases mem_place member with same | member
        · refine same ▸ String.not_le.mp fun le => ?_
          exact different (String.le_antisymm le (String.not_lt.mp notBefore))
        · exact above entry member

/-- Binds a name, in place of its earlier value if it has one. -/
def insert (table : Table κ β) (name : κ) (value : β) : Table κ β :=
  ⟨place name value table.entries, sorted_place name value table.sorted⟩

/-- The table of a list of bindings; of two for one name the later counts. -/
def ofList (bindings : List (κ × β)) : Table κ β :=
  bindings.foldl (fun table binding => table.insert binding.1 binding.2) empty

/-- The value bound to a name. -/
def find? (table : Table κ β) (name : κ) : Option β :=
  (table.entries.find? fun entry => Named.text entry.1 == Named.text name).map Prod.snd

/-- Whether a name is bound. -/
def contains (table : Table κ β) (name : κ) : Bool := (table.find? name).isSome

/-- Forgets a name. -/
def erase (table : Table κ β) (name : κ) : Table κ β :=
  ⟨table.entries.filter fun entry => Named.text entry.1 != Named.text name,
    table.sorted.filter _⟩

/-- The bound names, in order. -/
def names (table : Table κ β) : List κ := table.entries.map Prod.fst

/-- The bound values, in the order of their names. -/
def values (table : Table κ β) : List β := table.entries.map Prod.snd

/-- The number of bound names. -/
def size (table : Table κ β) : Nat := table.entries.length

end Table
end CallSchema
