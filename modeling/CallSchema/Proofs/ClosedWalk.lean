import CallSchema.Proofs.AliasRing
import CallSchema.Proofs.Result

/-!
The course of a walk that comes back on itself: first nodes that are on no ring, then the nodes of
one ring, each once, up to the edge that leads back to the first of them. `exists_course` says so of
any list of nodes that follow each other along edges, `onward_closes` that a walk which closes keeps
such a list, and `ring_exact` what the rings of aliases tell from there.
-/
namespace CallSchema
open Relation Walk

namespace Walk
variable {α : Type} {next : α → Option α} {a b target : α}

/-! ### Nodes on rings -/

/-- Edges lead from the node back to it. -/
def OnRing (next : α → Option α) (node : α) : Prop := TransGen (Edge next) node node

/-- Edges lead from one node to the other and back again. -/
def SameRing (next : α → Option α) (a b : α) : Prop :=
  TransGen (Edge next) a b ∧ TransGen (Edge next) b a

theorem SameRing.onRing (same : SameRing next a b) : OnRing next b := same.2.trans same.1

/-- A ring cannot be left: from wherever its nodes lead to, edges lead back to them. -/
theorem OnRing.back (ring : OnRing next a) (leads : Reaches next a b) :
    TransGen (Edge next) b a := by
  induction leads with
  | refl => exact ring
  | tail _ edge ih =>
    obtain ⟨following, first, rest⟩ := TransGen.head'_iff.mp ih
    obtain rfl := edge_unique edge first
    exact TransGen.trans_right rest ring

/-! ### Nodes that follow each other -/

/-- Where the last of some nodes leads back to the first, edges from these lead to no other node. -/
theorem mem_of_reaches {rest : List α}
    (linked : (target :: rest ++ [target]).IsChain (Edge next)) (leads : Reaches next target b) :
    b ∈ target :: rest := by
  have followed := List.isChain_cons_append_singleton_iff_forall₂.mp linked
  induction leads with
  | refl => exact List.mem_cons_self
  | tail _ edge ih =>
    obtain ⟨following, listed, found⟩ := exists_of_mem_forall₂ followed ih
    obtain rfl := edge_unique edge found
    rcases List.mem_append.mp listed with later | back
    · exact List.mem_cons_of_mem _ later
    · exact List.mem_singleton.mp back ▸ List.mem_cons_self

/-- Different nodes that follow each other along edges, the last of which leads back to one of them,
are the way to a ring, over nodes that are on none, and the whole ring after it. -/
theorem exists_course {nodes : List α} (linked : (nodes ++ [target]).IsChain (Edge next))
    (distinct : nodes.Nodup) (back : target ∈ nodes) :
    ∃ way rest, nodes = way ++ target :: rest ∧ (∀ node ∈ way, ¬ OnRing next node) ∧
      ∀ node, node ∈ target :: rest ↔ SameRing next target node := by
  obtain ⟨way, rest, rfl⟩ := List.append_of_mem back
  have ordered := (linked.imp fun _ _ edge => TransGen.single edge).pairwise
  rw [List.append_assoc, List.pairwise_append] at ordered
  obtain ⟨-, round, before⟩ := ordered
  rw [List.append_assoc] at linked
  have closed : (target :: rest ++ [target]).IsChain (Edge next) := linked.right_of_append
  obtain ⟨onward, inner⟩ := List.pairwise_cons.mp round
  have members (node : α) : node ∈ target :: rest ↔ SameRing next target node := by
    constructor
    · intro member
      have ring : TransGen (Edge next) target target := onward target (by simp)
      rcases List.mem_cons.mp member with rfl | later
      · exact ⟨ring, ring⟩
      · exact ⟨onward node (List.mem_append_left _ later),
          (List.pairwise_append.mp inner).2.2 node later target (by simp)⟩
    · exact fun same => mem_of_reaches closed same.1.to_reflTransGen
  refine ⟨way, rest, rfl, fun node member ring => ?_, members⟩
  -- a node of the way that were on a ring would be listed again as a node of this one
  have leads := before node member target (by simp)
  have again := (members node).mpr ⟨ring.back leads.to_reflTransGen, leads⟩
  exact List.disjoint_of_nodup_append distinct member again

/-- From a node on a ring there is no way to go before the ring. -/
theorem way_eq_nil {node : α} {way rest : List α}
    (begins : (way ++ target :: rest).head? = some node)
    (offRing : ∀ passed ∈ way, ¬ OnRing next passed) (ring : OnRing next node) :
    way = [] ∧ target = node := by
  cases way with
  | nil => exact ⟨rfl, Option.some.inj begins⟩
  | cons first others =>
    obtain rfl : first = node := Option.some.inj begins
    exact absurd ring (offRing first List.mem_cons_self)

/-! ### Walks that close -/

section
variable [DecidableEq α] {nodes trail walked : List α} {steps : Nat} {current node : α}

/-- A walk that closes has come over the nodes that it keeps, the ones it began with among them, and
meets one of them again. -/
theorem onward_closes (counted : ∀ node, (next node).isSome → node ∈ nodes)
    (track : Trail next nodes steps trail current) (fresh : current ∉ trail)
    (closes : onward next steps trail current = .closes walked target) :
    (∃ left, Trail next nodes left walked target) ∧ target ∈ walked ∧
      current :: trail <:+ walked := by
  induction steps generalizing trail current with
  | zero => exact absurd (track.steps_pos counted) (Nat.lt_irrefl 0)
  | succ steps ih =>
    rw [onward] at closes
    split at closes
    · cases closes
    · rename_i following edge
      have longer := track.extend fresh edge
      split at closes
      · rename_i passed
        cases closes
        exact ⟨⟨steps, longer⟩, passed, List.suffix_rfl⟩
      · rename_i unpassed
        obtain ⟨kept, back, suffix⟩ := ih longer unpassed closes
        exact ⟨kept, back, (List.suffix_cons _ _).trans suffix⟩

end

end Walk

/-! ### Rings of aliases -/

/-- What a ring tells is how the walk from its start along the aliases goes. -/
structure AliasTable.Closes (aliases : AliasTable) (ring : AliasCycle) : Prop where
  begins : ring.chain.head? = some ring.start
  linked : ring.chain.IsChain fun name target => aliases.find? name = some target
  distinct : ring.chain.dropLast.Nodup
  ends : ring.chain.getLast? = some ring.target
  back : ring.target ∈ ring.chain.dropLast
  /-- The target is the first name of the chain that is on a ring. -/
  entry : OnRing aliases.find? ring.target ∧ ∃ way rest, ring.chain = way ++ ring.target :: rest ∧
    ∀ name ∈ way, ¬ OnRing aliases.find? name
  source_last : ring.chain.dropLast.getLast? = some ring.source
  source_onRing : SameRing aliases.find? ring.target ring.source
  closing : aliases.find? ring.source = some ring.target
  at_least : 2 ≤ ring.chain.length
  at_most : ring.chain.length ≤ aliases.size + 1
  /-- From a name on a ring the chain is that ring. -/
  whole : OnRing aliases.find? ring.start → ring.target = ring.start ∧
    ∃ members, ring.chain = members ++ [ring.start] ∧ members.Nodup ∧
      ∀ name, name ∈ members ↔ SameRing aliases.find? ring.start name

namespace AliasTable
variable {aliases : AliasTable}

/-- The chain of a ring tells how the walk goes if it ends with the target, and its other names are
different ones that aliases lead through from the start to the source, the target among them. -/
theorem closes_of_chain {ring : AliasCycle} {names : List Symbol}
    (chain : ring.chain = names ++ [ring.target]) (begins : names.head? = some ring.start)
    (linked : ring.chain.IsChain (Edge aliases.find?)) (distinct : names.Nodup)
    (back : ring.target ∈ names) (last : names.getLast? = some ring.source)
    (bound : names.length ≤ aliases.size) : aliases.Closes ring := by
  rw [chain] at linked
  have front : ring.chain.dropLast = names := by rw [chain, List.dropLast_concat]
  have closing : Edge aliases.find? ring.source ring.target :=
    (List.isChain_append.mp linked).2.2 _ last _ rfl
  obtain ⟨way, rest, course, offRing, members⟩ := exists_course linked distinct back
  have onRing : OnRing aliases.find? ring.target :=
    ((members ring.target).mp List.mem_cons_self).onRing
  have source_listed : ring.source ∈ ring.target :: rest := by
    rw [course, List.getLast?_append_cons] at last
    exact List.mem_of_getLast? last
  exact {
    begins := by rw [chain, List.head?_append, begins]; rfl
    linked := chain ▸ linked
    distinct := front ▸ distinct
    ends := by rw [chain, List.getLast?_concat]
    back := front ▸ back
    entry := ⟨onRing, way, rest ++ [ring.target], by simp [chain, course], offRing⟩
    source_last := front ▸ last
    source_onRing := (members ring.source).mp source_listed
    closing
    at_least := by
      have := List.length_pos_of_mem back
      rw [chain, List.length_append, List.length_singleton]
      omega
    at_most := by
      rw [chain, List.length_append, List.length_singleton]
      omega
    whole := by
      intro startOnRing
      rw [course] at begins
      obtain ⟨rfl, same⟩ := way_eq_nil begins offRing startOnRing
      rw [List.nil_append] at course
      exact ⟨same, names, same ▸ chain, distinct, same ▸ course ▸ members⟩ }

/-- A ring that is found tells how the walk goes. -/
theorem closes_of_ring? {width : AddressWidth} {start : Symbol} {ring : AliasCycle}
    (found : aliases.ring? width start = some ring) : aliases.Closes ring := by
  rw [ring?] at found
  split at found
  · cases found
  · rename_i walked target closes
    cases found
    rw [walk, ← Table.length_names, Walk.start] at closes
    obtain ⟨⟨left, track⟩, back, before, suffix⟩ := onward_closes (counted aliases)
      (.start aliases.find? aliases.names start) List.not_mem_nil closes
    have bound := track.length_le (counted aliases)
    refine closes_of_chain List.reverse_cons ?_ (List.isChain_reverse.mpr track.linked)
      (List.nodup_reverse.mpr track.distinct) (List.mem_reverse.mpr back) ?_ ?_
    · rw [List.head?_reverse, ← suffix, List.getLast?_concat]
    · obtain ⟨source, earlier, rfl⟩ := List.exists_cons_of_ne_nil (List.ne_nil_of_mem back)
      rw [List.getLast?_reverse]
      rfl
    · rwa [List.length_reverse, ← Table.length_names]

/-- **The course of a walk along aliases is told exactly.** No ring is found from a name exactly if
targets lead from it to a name that is no alias. Else the chain that is told begins with the name,
goes from each name to its target, and ends with the first name on a ring when it comes to that a
second time; from a name on a ring it is this ring. -/
theorem ring_exact (aliases : AliasTable) (width : AddressWidth) (start : Symbol) :
    (aliases.ring? width start = none ↔
      ∃ reached, Reaches aliases.find? start reached ∧ ¬ aliases.contains reached) ∧
    ∀ ring, aliases.ring? width start = some ring →
      ring.width = width ∧ ring.start = start ∧ aliases.Closes ring := by
  constructor
  · rw [← Option.not_isSome_iff_eq_none, ring?_isSome_iff, NeverEnds, not_forall]
    exact exists_congr fun reached => Classical.not_imp
  · intro ring found
    obtain ⟨sameWidth, sameStart⟩ := ring?_eq_some found
    exact ⟨sameWidth, sameStart, closes_of_ring? found⟩

end AliasTable
end CallSchema
