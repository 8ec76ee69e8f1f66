/-!
Lists of named values in the order in which they were given. A name occurs once; naming it again
changes its value and keeps its place.
-/
namespace CallSchema

/-- Named values in the order given, each name once. -/
structure Listing (β : Type) where
  entries : List (String × β)
  distinct : (entries.map Prod.fst).Nodup

namespace Listing
variable {β : Type}

instance [DecidableEq β] : DecidableEq (Listing β) := fun a b =>
  if same : a.entries = b.entries then
    .isTrue (by cases a; cases b; cases same; rfl)
  else
    .isFalse fun equal => same (congrArg entries equal)

/-- The listing without entries. -/
def empty : Listing β := ⟨[], .nil⟩

instance : Inhabited (Listing β) := ⟨empty⟩

/-- Gives a name its new value where it stands, or adds it at the end. -/
def assign (name : String) (value : β) : List (String × β) → List (String × β)
  | [] => [(name, value)]
  | entry :: rest =>
    if entry.1 = name then (name, value) :: rest else entry :: assign name value rest

/-- Assigning adds no name but its own. -/
theorem mem_assign {name other : String} {value : β} {entries : List (String × β)}
    (member : other ∈ (assign name value entries).map Prod.fst) :
    other = name ∨ other ∈ entries.map Prod.fst := by
  induction entries with
  | nil => exact .inl (List.mem_singleton.mp member)
  | cons head rest ih =>
    rw [assign] at member
    split at member
    · rcases List.mem_cons.mp member with same | member
      · exact .inl same
      · exact .inr (List.mem_cons_of_mem _ member)
    · rcases List.mem_cons.mp member with same | member
      · exact .inr (same ▸ List.mem_cons_self ..)
      · rcases ih member with same | member
        · exact .inl same
        · exact .inr (List.mem_cons_of_mem _ member)

/-- Assigning keeps every name single. -/
theorem distinct_assign (name : String) (value : β) {entries : List (String × β)}
    (distinct : (entries.map Prod.fst).Nodup) :
    ((assign name value entries).map Prod.fst).Nodup := by
  induction entries with
  | nil => exact List.nodup_cons.mpr ⟨List.not_mem_nil, .nil⟩
  | cons head rest ih =>
    have fresh := (List.nodup_cons.mp distinct).1
    have tail := (List.nodup_cons.mp distinct).2
    rw [assign]
    split
    · rename_i same
      exact List.nodup_cons.mpr ⟨same ▸ fresh, tail⟩
    · rename_i different
      refine List.nodup_cons.mpr ⟨fun member => ?_, ih tail⟩
      rcases mem_assign member with same | member
      · exact different same
      · exact fresh member

/-- Names a value, at the name's place if it has one and last otherwise. -/
def set (listing : Listing β) (name : String) (value : β) : Listing β :=
  ⟨assign name value listing.entries, distinct_assign name value listing.distinct⟩

/-- The listing of a list of named values; of two for one name the later value counts. -/
def ofList (named : List (String × β)) : Listing β :=
  named.foldl (fun listing entry => listing.set entry.1 entry.2) empty

/-- The value of a name. -/
def find? (listing : Listing β) (name : String) : Option β :=
  (listing.entries.find? fun entry => entry.1 == name).map Prod.snd

/-- Whether a name occurs. -/
def contains (listing : Listing β) (name : String) : Bool := (listing.find? name).isSome

/-- Removes a name and keeps the order of the rest. -/
def erase (listing : Listing β) (name : String) : Listing β :=
  ⟨listing.entries.filter fun entry => entry.1 != name,
    listing.distinct.sublist ((List.filter_sublist (l := listing.entries)).map Prod.fst)⟩

/-- The values, in order. -/
def values (listing : Listing β) : List β := listing.entries.map Prod.snd

/-- Whether two listings give the same names the same values, in any order. -/
def sameEntries [DecidableEq β] (a b : Listing β) : Bool :=
  a.entries.length == b.entries.length &&
    a.entries.all fun entry => b.find? entry.1 == some entry.2

end Listing
end CallSchema
