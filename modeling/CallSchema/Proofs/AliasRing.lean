import CallSchema.Consistency
import CallSchema.Proofs.Members
import CallSchema.Proofs.Walk

/-!
Rings of aliases, said without the walk that finds them: a name leads into a ring exactly if its
aliases never lead out of the width's names. All widths together report each such name once, in the
order of widths and names (`rings_ordered`, `exists_ring_iff`), and each width reports what it would
report alone (`aliasRings_filter`).
-/
namespace CallSchema
open Walk

namespace AliasTable
variable {aliases : AliasTable} {symbol last : Symbol}

/-- Only the names of a table have an edge. -/
theorem counted (aliases : AliasTable) :
    ∀ symbol, (aliases.find? symbol).isSome → symbol ∈ aliases.names :=
  fun _ bound => Table.mem_names.mpr bound

theorem walk_eq_stops_iff :
    walk aliases symbol = .stops last ↔ EndsAt aliases.find? symbol last := by
  rw [walk, ← Table.length_names]
  exact start_eq_stops_iff (counted aliases)

theorem walk_eq_closes_iff : (∃ trail target, walk aliases symbol = .closes trail target) ↔
    NeverEnds aliases.find? symbol := by
  rw [walk, ← Table.length_names]
  exact start_eq_closes_iff (counted aliases)

/-- A ring is found from a symbol exactly if its aliases never lead out of the table. -/
theorem ring?_isSome_iff (width : AddressWidth) :
    (ring? aliases width symbol).isSome ↔ NeverEnds aliases.find? symbol := by
  rw [← walk_eq_closes_iff, ring?]
  cases walk aliases symbol <;> simp

/-- A ring names the width and the symbol that it was found from. -/
theorem ring?_eq_some {width : AddressWidth} {ring : AliasCycle}
    (found : ring? aliases width symbol = some ring) :
    ring.width = width ∧ ring.start = symbol := by
  rw [ring?] at found
  split at found
  · contradiction
  · cases found
    exact ⟨rfl, rfl⟩

/-- The walks from all names end exactly if the aliases make no ring. -/
theorem acyclic_iff :
    Acyclic aliases.find? ↔ ∀ name, ¬ NeverEnds aliases.find? name :=
  Walk.acyclic_iff (counted aliases)

end AliasTable

/-! ### All widths -/

/-- The rings of all widths, before they are findings. -/
def rings (highLevel : Table AddressWidth AliasTable) : List AliasCycle :=
  highLevel.entries.flatMap fun (width, aliases) => aliases.names.filterMap (aliases.ring? width)

theorem aliasRings_eq (highLevel : Table AddressWidth AliasTable) :
    aliasRings highLevel = (rings highLevel).map .cycle :=
  List.map_flatMap.symm

/-- The order of rings: that of widths and, in one width, that of the names they are found from. -/
def AliasCycle.Before (a b : AliasCycle) : Prop :=
  a.width.name < b.width.name ∨ a.width = b.width ∧ a.start.name < b.start.name

/-- No two rings stand before each other. -/
theorem AliasCycle.Before.asymm {a b : AliasCycle} (first : a.Before b) : ¬ b.Before a := by
  rintro (earlier | ⟨same, earlier⟩)
  · rcases first with before | ⟨same, -⟩
    · exact String.lt_asymm before earlier
    · exact String.lt_irrefl _ (same ▸ earlier)
  · rcases first with before | ⟨-, before⟩
    · exact String.lt_irrefl _ (same ▸ before)
    · exact String.lt_asymm before earlier

variable {highLevel : Table AddressWidth AliasTable} {width : AddressWidth} {name : Symbol}

theorem mem_rings {ring : AliasCycle} : ring ∈ rings highLevel ↔
    ∃ aliases, highLevel.find? ring.width = some aliases ∧
      aliases.ring? ring.width ring.start = some ring := by
  simp only [rings, List.mem_flatMap, List.mem_filterMap, Table.find?_eq_some_iff]
  constructor
  · rintro ⟨⟨width, aliases⟩, listed, name, _, found⟩
    obtain ⟨rfl, rfl⟩ := AliasTable.ring?_eq_some found
    exact ⟨aliases, listed, found⟩
  · rintro ⟨aliases, listed, found⟩
    have never := (AliasTable.ring?_isSome_iff _).mp (Option.isSome_iff_exists.mpr ⟨ring, found⟩)
    have named : ring.start ∈ aliases.names := AliasTable.counted aliases _ (never _ .refl)
    exact ⟨(ring.width, aliases), listed, ring.start, named, found⟩

/-- From each name of each width whose aliases never lead out of the width a ring is found, and from
no other. -/
theorem exists_ring_iff : (∃ ring ∈ rings highLevel, ring.width = width ∧ ring.start = name) ↔
    ∃ aliases, highLevel.find? width = some aliases ∧ NeverEnds aliases.find? name := by
  constructor
  · rintro ⟨ring, member, rfl, rfl⟩
    obtain ⟨aliases, bound, found⟩ := mem_rings.mp member
    exact ⟨aliases, bound,
      (AliasTable.ring?_isSome_iff _).mp (Option.isSome_iff_exists.mpr ⟨ring, found⟩)⟩
  · rintro ⟨aliases, bound, never⟩
    obtain ⟨ring, found⟩ :=
      Option.isSome_iff_exists.mp ((AliasTable.ring?_isSome_iff width).mpr never)
    obtain ⟨rfl, rfl⟩ := AliasTable.ring?_eq_some found
    exact ⟨ring, mem_rings.mpr ⟨aliases, bound, found⟩, rfl, rfl⟩

/-- The rings stand in order, so none is found twice from one name of one width. -/
theorem rings_ordered (highLevel : Table AddressWidth AliasTable) :
    (rings highLevel).Pairwise AliasCycle.Before := by
  refine List.pairwise_flatMap.mpr ⟨?_, ?_⟩
  · rintro ⟨width, aliases⟩ _
    refine List.pairwise_filterMap.mpr (aliases.names_sorted.imp ?_)
    intro first second before a foundA b foundB
    obtain ⟨rfl, rfl⟩ := AliasTable.ring?_eq_some foundA
    obtain ⟨same, rfl⟩ := AliasTable.ring?_eq_some foundB
    exact .inr ⟨same.symm, before⟩
  · refine highLevel.sorted.imp ?_
    rintro ⟨width, aliases⟩ ⟨wider, others⟩ before a memberA b memberB
    obtain ⟨_, _, foundA⟩ := List.mem_filterMap.mp memberA
    obtain ⟨_, _, foundB⟩ := List.mem_filterMap.mp memberB
    rw [AliasCycle.Before, (AliasTable.ring?_eq_some foundA).1, (AliasTable.ring?_eq_some foundB).1]
    exact .inl before

/-- No ring is found exactly if the aliases of no width make one. -/
theorem rings_eq_nil_iff : rings highLevel = [] ↔
    ∀ width aliases, highLevel.find? width = some aliases → Acyclic aliases.find? := by
  rw [List.eq_nil_iff_forall_not_mem]
  constructor
  · intro none width aliases bound
    refine AliasTable.acyclic_iff.mpr fun name never => ?_
    obtain ⟨ring, member, _⟩ := exists_ring_iff.mpr ⟨aliases, bound, never⟩
    exact none ring member
  · intro acyclic ring member
    obtain ⟨aliases, bound, never⟩ := exists_ring_iff.mp ⟨ring, member, rfl, rfl⟩
    exact AliasTable.acyclic_iff.mp (acyclic _ _ bound) _ never

/-! ### One width among others -/

/-- The width that a ring was found in; other findings belong to no width. -/
def Finding.width? : Finding → Option AddressWidth
  | .symbols .. => none
  | .cycle ring => some ring.width

/-- What is found in the aliases of a width names that width. -/
theorem filter_width_found (width other : AddressWidth) (aliases : AliasTable) :
    ((aliases.names.filterMap (aliases.ring? other)).map Finding.cycle).filter
        (fun finding => finding.width? = some width) =
      if other = width then (aliases.names.filterMap (aliases.ring? other)).map .cycle else [] := by
  have named : ∀ finding ∈ (aliases.names.filterMap (aliases.ring? other)).map Finding.cycle,
      finding.width? = some other := by
    intro finding member
    obtain ⟨ring, listed, rfl⟩ := List.mem_map.mp member
    obtain ⟨_, _, found⟩ := List.mem_filterMap.mp listed
    exact congrArg some (AliasTable.ring?_eq_some found).1
  split
  · rename_i same
    refine List.filter_eq_self.mpr fun finding member => ?_
    simp [named finding member, same]
  · rename_i different
    refine List.filter_eq_nil_iff.mpr fun finding member => ?_
    simp [named finding member, different]

/-- What is found in a width is what would be found in that width alone. -/
theorem aliasRings_filter {aliases : AliasTable} (bound : highLevel.find? width = some aliases) :
    (aliasRings highLevel).filter (fun finding => finding.width? = some width) =
      aliasRings (.ofList [(width, aliases)]) := by
  obtain ⟨before, after, split⟩ := List.append_of_mem (Table.find?_eq_some_iff.mp bound)
  have sorted := highLevel.sorted
  rw [split, List.pairwise_append, List.pairwise_cons] at sorted
  obtain ⟨-, ⟨later, -⟩, earlier⟩ := sorted
  have others : ∀ entry, entry ∈ before ∨ entry ∈ after → entry.1 ≠ width := by
    rintro entry (member | member) rfl
    · exact String.lt_irrefl _ (earlier entry member (_, aliases) List.mem_cons_self)
    · exact String.lt_irrefl _ (later entry member)
  have alone : aliasRings (.ofList [(width, aliases)]) =
      (aliases.names.filterMap (aliases.ring? width)).map .cycle := List.append_nil _
  rw [aliasRings, split, List.filter_flatMap, List.flatMap_append, List.flatMap_cons, alone]
  simp only [filter_width_found]
  rw [List.flatMap_eq_nil_iff.mpr fun entry member => if_neg (others entry (.inl member)),
    List.flatMap_eq_nil_iff.mpr fun entry member => if_neg (others entry (.inr member)),
    if_pos trivial, List.nil_append, List.append_nil]

/-- From no name of a width two rings are found. -/
theorem ring_unique {first second : AliasCycle} (a : first ∈ rings highLevel)
    (b : second ∈ rings highLevel) (width : first.width = second.width)
    (start : first.start = second.start) : first = second := by
  obtain ⟨aliases, bound, found⟩ := mem_rings.mp a
  obtain ⟨others, boundOthers, foundOther⟩ := mem_rings.mp b
  rw [width] at bound found
  rw [start] at found
  obtain rfl : aliases = others := Option.some.inj (bound.symm.trans boundOthers)
  exact Option.some.inj (found.symm.trans foundOther)

/-- The aliases of the width never lead out of its names from this name on. -/
def NeverLeaves (highLevel : Table AddressWidth AliasTable) (width : AddressWidth)
    (name : Symbol) : Prop :=
  ∃ aliases, highLevel.find? width = some aliases ∧
    ∀ reached, Reaches aliases.find? name reached → aliases.contains reached

/-- **Rings are found completely, once for each name and width by width.** The findings are rings in
the order of widths and names; there is exactly one for each name of a width from which targets
never lead out of the width's names, and no other. Those of one width are what is found in that width
alone, and there are none exactly if no width has a closed walk of aliases. -/
theorem aliasRings_exact (highLevel : Table AddressWidth AliasTable) :
    (∃ rings : List AliasCycle, aliasRings highLevel = rings.map .cycle ∧
      rings.Pairwise AliasCycle.Before ∧
      (∀ width name, NeverLeaves highLevel width name →
        ∃! ring, ring ∈ rings ∧ ring.width = width ∧ ring.start = name) ∧
      ∀ ring ∈ rings, NeverLeaves highLevel ring.width ring.start) ∧
    (∀ width aliases, highLevel.find? width = some aliases →
      (aliasRings highLevel).filter (fun finding => finding.width? = some width) =
        aliasRings (.ofList [(width, aliases)])) ∧
    (aliasRings highLevel = [] ↔
      ∀ width aliases, highLevel.find? width = some aliases →
        ∀ name, ¬ Relation.TransGen (Edge aliases.find?) name name) := by
  refine ⟨⟨rings highLevel, aliasRings_eq highLevel, rings_ordered highLevel, ?_, ?_⟩,
    fun _ _ => aliasRings_filter, ?_⟩
  · intro width name never
    obtain ⟨ring, member, rfl, rfl⟩ := exists_ring_iff.mpr never
    refine ⟨ring, ⟨member, rfl, rfl⟩, ?_⟩
    rintro other ⟨listed, width, start⟩
    exact ring_unique listed member width start
  · exact fun ring member => exists_ring_iff.mp ⟨ring, member, rfl, rfl⟩
  · rw [aliasRings_eq, List.map_eq_nil_iff]
    exact rings_eq_nil_iff

end CallSchema
