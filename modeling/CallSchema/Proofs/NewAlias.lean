import CallSchema.Proofs.Consistency
import CallSchema.Proofs.Resolution
import CallSchema.Session

/-!
One alias more. A new name of a width is one edge more for its walks, from a node that had none
(`Walk.Extended`). Walks that did not stop there go on as they did. Those that stopped there go on
to the new target, and so into a ring if the target led back to the name or into a ring already. The
search for a backing type prefers backing types and structures to aliases, so it never takes the new
edge on a way that it had found before.
-/
namespace CallSchema
open Relation Walk

/-! ### One edge more -/

namespace Walk
variable {α : Type} {next other : α → Option α} {node target a b last : α}

/-- The other edges are the same, and one more that leaves a node which no edge left. -/
structure Extended (next other : α → Option α) (node target : α) : Prop where
  fresh : next node = none
  added : other node = some target
  kept : ∀ passed, passed ≠ node → other passed = next passed

namespace Extended

/-- The edges that were there are still there. -/
theorem edge (extended : Extended next other node target) (edge : next a = some b) :
    other a = some b := by
  have different : a ≠ node := by
    rintro rfl
    exact absurd (extended.fresh.symm.trans edge) (by simp)
  exact (extended.kept a different).trans edge

theorem reaches (extended : Extended next other node target) (reaches : Reaches next a b) :
    Reaches other a b := by
  induction reaches with
  | refl => exact .refl
  | tail _ edge ih => exact ih.tail (extended.edge edge)

/-- Walks that never end do not come to the node, so they go on as they did. -/
theorem agree (extended : Extended next other node target) (never : NeverEnds next a) (passed : α)
    (reaches : Reaches next a passed) : other passed = next passed := by
  obtain ⟨following, edge⟩ := Option.isSome_iff_exists.mp (never passed reaches)
  exact (extended.edge edge).trans edge.symm

/-- Walks that end elsewhere still end there. -/
theorem endsAt (extended : Extended next other node target) (ends : EndsAt next a last)
    (different : last ≠ node) : EndsAt other a last :=
  ⟨extended.reaches ends.1, (extended.kept last different).trans ends.2⟩

/-- With one edge more a walk never ends if it never did, or if it ended where the edge begins and
the edge leads back to there or to where walks never ended. -/
theorem neverEnds_iff (extended : Extended next other node target) : NeverEnds other a ↔
    NeverEnds next a ∨
      EndsAt next a node ∧ (EndsAt next target node ∨ NeverEnds next target) := by
  have joins (ends : EndsAt next a node) : Reaches other a target :=
    (extended.reaches ends.1).tail extended.added
  constructor
  · intro never
    rcases endsAt_or_neverEnds next a with ⟨last, ends⟩ | before
    · by_cases same : last = node
      · subst same
        refine .inr ⟨ends, ?_⟩
        rcases endsAt_or_neverEnds next target with ⟨final, ends'⟩ | before
        · by_cases back : final = last
          · exact .inl (back ▸ ends')
          · have reached := extended.endsAt ends' back
            exact absurd never (EndsAt.not_neverEnds ⟨(joins ends).trans reached.1, reached.2⟩)
        · exact .inr before
      · exact absurd never (extended.endsAt ends same).not_neverEnds
    · exact .inl before
  · rintro (never | ⟨ends, back | never⟩)
    · exact (neverEnds_congr (extended.agree never)).mpr never
    · exact neverEnds_of_ring (joins ends) (.tail' (extended.reaches back.1) extended.added)
    · exact .of_reaches (joins ends) ((neverEnds_congr (extended.agree never)).mpr never)

end Extended
end Walk

/-! ### Walks along aliases -/

namespace AliasTable
variable {aliases others : AliasTable} {name target start : Symbol} {width : AddressWidth}

/-- A new name is an edge more. -/
theorem extended_insert (fresh : ¬ aliases.contains name) :
    Extended aliases.find? (aliases.insert name target).find? name target where
  fresh := Table.find?_eq_none_iff.mpr fresh
  added := Table.find?_insert_self
  kept _ different := Table.find?_insert_of_ne different.symm

/-- Where two widths have the same targets for all names that a walk passes, the same ring is found
in both. -/
theorem ring?_congr (agree : ∀ passed, Reaches aliases.find? start passed →
    others.find? passed = aliases.find? passed) :
    others.ring? width start = aliases.ring? width start := by
  have walks : others.walk start = aliases.walk start := by
    rw [walk, walk, ← Table.length_names, ← Table.length_names]
    exact onward_congr (counted aliases) (counted others) agree (.start _ _ start)
      (.start _ _ start) List.not_mem_nil
  rw [ring?, ring?, walks]

end AliasTable

/-! ### The document with the alias -/

namespace Document
variable {document : Document} {width other : AddressWidth} {aliases : AliasTable}
  {name target start : Symbol}

/-- The document with an alias more in a width that has the aliases given. -/
def withAlias (document : Document) (width : AddressWidth) (aliases : AliasTable)
    (name target : Symbol) : Document :=
  { document with highLevel := document.highLevel.insert width (aliases.insert name target) }

theorem edit?_setAlias (supported : document.aliases? width = some aliases) (name target : Symbol) :
    document.edit? (.setAlias width name target) =
      some (document.withAlias width aliases name target) := by
  have found : document.highLevel.find? width = some aliases := supported
  rw [edit?, Table.change, found]
  rfl

theorem aliases?_withAlias : (document.withAlias width aliases name target).aliases? width =
    some (aliases.insert name target) := Table.find?_insert_self

theorem aliases?_withAlias_of_ne (different : other ≠ width) :
    (document.withAlias width aliases name target).aliases? other = document.aliases? other :=
  Table.find?_insert_of_ne different.symm

/-- A report tells just the rings that are found in the widths. -/
theorem cycle_mem_findings_iff {ring : AliasCycle} :
    .cycle ring ∈ document.validate.findings ↔ ring ∈ rings document.highLevel := by
  rw [findings_eq, List.mem_append, List.mem_map, List.mem_map]
  simp

/-- Rings that were found are still found. -/
theorem mem_rings_withAlias (supported : document.aliases? width = some aliases)
    (fresh : ¬ aliases.contains name) {ring : AliasCycle}
    (found : ring ∈ rings document.highLevel) :
    ring ∈ rings (document.withAlias width aliases name target).highLevel := by
  obtain ⟨own, bound, found⟩ := mem_rings.mp found
  rw [mem_rings]
  by_cases same : ring.width = width
  · rw [same] at bound
    obtain rfl : aliases = own := Option.some.inj (supported.symm.trans bound)
    refine ⟨aliases.insert name target, same ▸ aliases?_withAlias, ?_⟩
    have never := (AliasTable.ring?_isSome_iff _).mp (Option.isSome_iff_exists.mpr ⟨ring, found⟩)
    rw [AliasTable.ring?_congr ((AliasTable.extended_insert fresh).agree never), found]
  · exact ⟨own, (aliases?_withAlias_of_ne same).trans bound, found⟩

/-- They are found in the same order, with new ones in between. -/
theorem rings_sublist_withAlias (supported : document.aliases? width = some aliases)
    (fresh : ¬ aliases.contains name) :
    (rings document.highLevel).Sublist
      (rings (document.withAlias width aliases name target).highLevel) := by
  have antisymm : Std.Antisymm AliasCycle.Before :=
    ⟨fun _ _ first second => absurd second first.asymm⟩
  have irrefl : Std.Irrefl AliasCycle.Before := ⟨fun _ before => before.asymm before⟩
  refine List.sublist_of_subperm_of_pairwise ?_ (rings_ordered _) (rings_ordered _)
  exact List.subperm_of_subset (rings_ordered _).nodup fun _ => mem_rings_withAlias supported fresh

/-- From a name a ring is found that was not there before exactly if the walk from it stopped at the
new alias, and the walk from its target stops there too or came into a ring already. -/
theorem exists_new_ring_iff (supported : document.aliases? width = some aliases)
    (fresh : ¬ aliases.contains name) :
    (∃ ring, ring.width = width ∧ ring.start = start ∧
        ring ∈ rings (document.withAlias width aliases name target).highLevel ∧
        ring ∉ rings document.highLevel) ↔
      EndsAt aliases.find? start name ∧
        (EndsAt aliases.find? target name ∨ NeverEnds aliases.find? target) := by
  have extended : Extended aliases.find? (aliases.insert name target).find? name target :=
    AliasTable.extended_insert fresh
  have now : (∃ ring ∈ rings (document.withAlias width aliases name target).highLevel,
      ring.width = width ∧ ring.start = start) ↔
        NeverEnds (aliases.insert name target).find? start := by
    rw [exists_ring_iff]
    constructor
    · rintro ⟨own, bound, never⟩
      exact Option.some.inj (bound.symm.trans aliases?_withAlias) ▸ never
    · exact fun never => ⟨_, aliases?_withAlias, never⟩
  constructor
  · rintro ⟨ring, sameWidth, sameStart, found, notBefore⟩
    rcases extended.neverEnds_iff.mp (now.mp ⟨ring, found, sameWidth, sameStart⟩) with
      never | joined
    · obtain ⟨earlier, listed, ownWidth, ownStart⟩ :=
        exists_ring_iff.mpr ⟨aliases, supported, never⟩
      have kept : earlier ∈ rings (document.withAlias width aliases name target).highLevel :=
        mem_rings_withAlias supported fresh listed
      have same : ring = earlier :=
        ring_unique found kept (sameWidth.trans ownWidth.symm) (sameStart.trans ownStart.symm)
      exact absurd (same ▸ listed) notBefore
    · exact joined
  · rintro joined
    obtain ⟨ring, found, sameWidth, sameStart⟩ := now.mpr (extended.neverEnds_iff.mpr (.inr joined))
    refine ⟨ring, sameWidth, sameStart, found, fun listed => ?_⟩
    obtain ⟨own, bound, never⟩ := exists_ring_iff.mp ⟨ring, listed, sameWidth, sameStart⟩
    obtain rfl : aliases = own := Option.some.inj (supported.symm.trans bound)
    exact joined.1.not_neverEnds never

/-- The rings that belong to another width are told by the aliases of that width. -/
theorem filter_width_findings (width : AddressWidth) :
    document.validate.findings.filter (fun finding => finding.width? = some width) =
      match document.aliases? width with
      | none => []
      | some aliases => aliasRings (.ofList [(width, aliases)]) := by
  have named : (nameFindings document.references document.definitions).filter
      (fun finding => finding.width? = some width) = [] := by
    refine List.filter_eq_nil_iff.mpr fun finding listed => ?_
    rw [Definitions.nameFindings_eq] at listed
    obtain ⟨kind, -, rfl⟩ := List.mem_map.mp listed
    exact Bool.false_ne_true
  rw [validate, List.filter_append, named, List.nil_append]
  cases bound : document.aliases? width with
  | some aliases => exact aliasRings_filter bound
  | none =>
    refine List.filter_eq_nil_iff.mpr fun finding listed => ?_
    rw [aliasRings_eq] at listed
    obtain ⟨ring, found, rfl⟩ := List.mem_map.mp listed
    obtain ⟨own, present, -⟩ := mem_rings.mp found
    intro same
    obtain rfl : ring.width = width := Option.some.inj (of_decide_eq_true same)
    exact absurd (bound.symm.trans present) (by simp)

end Document

namespace Resolver
variable {document : Document} {width : AddressWidth} {aliases : AliasTable}
  {name target symbol basic : Symbol}

/-- What stood for a backing type still does. On its way the alias is not taken: a name that is only
an alias would have been the end of it. -/
theorem basicType_withAlias (supported : document.aliases? width = some aliases)
    (fresh : ¬ aliases.contains name)
    (bound : (document.withAlias width aliases name target).aliases? width =
      some (aliases.insert name target))
    (stands : basicType ⟨document, width, aliases, supported⟩ symbol = .ok basic) :
    basicType ⟨document.withAlias width aliases name target, width, aliases.insert name target,
      bound⟩ symbol = .ok basic := by
  obtain ⟨ends, backed⟩ := basicType_eq_ok_iff.mp stands
  refine basicType_eq_ok_iff.mpr ⟨(endsAt_congr fun passed reaches => ?_).mpr ends, backed⟩
  by_cases backedHere : document.backing.contains passed
  · rw [next_backing backedHere, next_backing backedHere]
  by_cases structured : document.structures.contains passed
  · rw [next_structure backedHere structured, next_structure backedHere structured]
  rw [next_alias backedHere structured, next_alias backedHere structured]
  refine Table.find?_insert_of_ne ?_
  rintro rfl
  -- else the search would have stopped at the name, which is no backing type
  have stops : next ⟨document, width, aliases, supported⟩ name = none :=
    (next_alias backedHere structured).trans (Table.find?_eq_none_iff.mpr fresh)
  have last := (ends.of_reaches reaches).unique (.here stops)
  exact backedHere (last ▸ backed)

end Resolver

namespace Document

/-- **A new alias changes what it should and nothing else.** A width takes an alias under a name
that it does not have yet. The rings that were told are told as before, in their order. A ring is
told anew from a name exactly if that is the new alias or the walk from it used to stop there, and
the walk from the new target used to stop there as well or came into a ring. What is told of other
widths stays the same, and each symbol that stood for a backing type in the width stands for it
still. -/
theorem setAlias_exact (document : Document) (width : AddressWidth) (aliases : AliasTable)
    (supported : document.aliases? width = some aliases) (name target : Symbol)
    (fresh : ¬ aliases.contains name) :
    ∃ edited, document.edit? (.setAlias width name target) = some edited ∧
      (document.validate.ofKind .aliasCycle).Sublist (edited.validate.ofKind .aliasCycle) ∧
      (∀ start, (∃ ring, ring.width = width ∧ ring.start = start ∧
          .cycle ring ∈ edited.validate.findings ∧ .cycle ring ∉ document.validate.findings) ↔
        (start = name ∨ aliases.walk start = .stops name) ∧
          (aliases.walk target = .stops name ∨ ∃ ring, aliases.ring? width target = some ring)) ∧
      (∀ other, other ≠ width →
        edited.validate.findings.filter (fun finding => finding.width? = some other) =
          document.validate.findings.filter (fun finding => finding.width? = some other)) ∧
      ∃ bound : edited.aliases? width = some (aliases.insert name target), ∀ symbol basic,
        Resolver.basicType ⟨document, width, aliases, supported⟩ symbol = .ok basic →
          Resolver.basicType ⟨edited, width, aliases.insert name target, bound⟩ symbol =
            .ok basic := by
  refine ⟨_, edit?_setAlias supported name target, ?_, fun start => ?_, fun other different => ?_,
    aliases?_withAlias, fun _ _ => Resolver.basicType_withAlias supported fresh aliases?_withAlias⟩
  · rw [ofKind_aliasCycle, ofKind_aliasCycle]
    exact (rings_sublist_withAlias supported fresh).map _
  · have stopped : EndsAt aliases.find? start name ↔
        start = name ∨ aliases.walk start = .stops name := by
      rw [AliasTable.walk_eq_stops_iff, eq_comm]
      refine (or_iff_right_of_imp ?_).symm
      rintro rfl
      exact .here (Table.find?_eq_none_iff.mpr fresh)
    simp only [cycle_mem_findings_iff]
    rw [exists_new_ring_iff supported fresh, stopped, ← Option.isSome_iff_exists,
      AliasTable.ring?_isSome_iff]
    exact and_congr_right fun _ => or_congr_left AliasTable.walk_eq_stops_iff.symm
  · rw [filter_width_findings, filter_width_findings, aliases?_withAlias_of_ne different]

/-- A width with a chain of aliases that leads out of it, and another width with a ring. -/
def chained : Document where
  modules := .empty
  structures := .ofList [(⟨"POINT"⟩, .ofList [("x", ⟨⟨"LONG"⟩, some 0⟩)])]
  highLevel := .ofList [
    (⟨"AddressWidth32Bit"⟩, .ofList [(⟨"A"⟩, ⟨"B"⟩), (⟨"B"⟩, ⟨"A"⟩)]),
    (⟨"AddressWidth64Bit"⟩, .ofList [(⟨"A"⟩, ⟨"B"⟩), (⟨"BOOL"⟩, ⟨"LONG"⟩), (⟨"TAIL"⟩, ⟨"A"⟩)])]
  backing := .ofList [(⟨"LONG"⟩, .int 4)]

/-- The aliases of the width with the chain. -/
def chainedAliases : AliasTable :=
  .ofList [(⟨"A"⟩, ⟨"B"⟩), (⟨"BOOL"⟩, ⟨"LONG"⟩), (⟨"TAIL"⟩, ⟨"A"⟩)]

/-- An alias that leads from the end of the chain into its middle makes a ring, which is found from
the end of the chain and from its beginning. -/
theorem chained_closed :
    chained.aliases? ⟨"AddressWidth64Bit"⟩ = some chainedAliases ∧
    ¬ chainedAliases.contains ⟨"B"⟩ ∧
    ∃ edited, chained.edit? (.setAlias ⟨"AddressWidth64Bit"⟩ ⟨"B"⟩ ⟨"A"⟩) = some edited ∧
      (∀ start ∈ [⟨"B"⟩, ⟨"TAIL"⟩], ∃ ring, ring.width = ⟨"AddressWidth64Bit"⟩ ∧
        ring.start = start ∧ .cycle ring ∈ edited.validate.findings ∧
          .cycle ring ∉ chained.validate.findings) := by
  have supported : chained.aliases? ⟨"AddressWidth64Bit"⟩ = some chainedAliases := by decide
  have fresh : ¬ chainedAliases.contains ⟨"B"⟩ := by decide
  obtain ⟨edited, made, -, told, -⟩ := setAlias_exact chained ⟨"AddressWidth64Bit"⟩ chainedAliases
    supported ⟨"B"⟩ ⟨"A"⟩ fresh
  have walks : chainedAliases.walk ⟨"TAIL"⟩ = .stops ⟨"B"⟩ ∧
      chainedAliases.walk ⟨"A"⟩ = .stops ⟨"B"⟩ := by decide
  refine ⟨supported, fresh, edited, made, fun start listed => (told start).mpr ⟨?_, .inl walks.2⟩⟩
  rcases List.mem_pair.mp listed with rfl | rfl
  · exact .inl rfl
  · exact .inr walks.1

end Document
end CallSchema
