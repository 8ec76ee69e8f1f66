import CallSchema.Consistency
import Mathlib.Data.List.Chain
import Mathlib.Logic.Relation

/-!
Walks along edges of which at most one leaves each node. From a node the edges either lead to one
node without an edge (`EndsAt`) or never run out (`NeverEnds`), and on finitely many edges the
second means that a closed walk is entered. `Trail` is what a search along the edges keeps from one
step to the next; it bounds the steps by the nodes that have an edge. `onward_outcome` says that a
walk finds out which of the two is the case.
-/
namespace CallSchema.Walk
open Relation
variable {α : Type} {next other : α → Option α} {a b c node last : α}

/-- The edge that leaves a node. -/
def Edge (next : α → Option α) (a b : α) : Prop := next a = some b

/-- Some edges, perhaps none, lead from one node to another. -/
abbrev Reaches (next : α → Option α) (a b : α) : Prop := ReflTransGen (Edge next) a b

/-- The edges from a node lead to a last one, which no edge leaves. -/
def EndsAt (next : α → Option α) (node last : α) : Prop := Reaches next node last ∧ next last = none

/-- An edge leaves every node that the edges from a node lead to. -/
def NeverEnds (next : α → Option α) (node : α) : Prop :=
  ∀ reached, Reaches next node reached → (next reached).isSome

/-- No walk of one edge or more comes back to where it began. -/
def Acyclic (next : α → Option α) : Prop := ∀ node, ¬ TransGen (Edge next) node node

/-! ### Where the edges lead -/

theorem edge_unique (first : Edge next a b) (second : Edge next a c) : b = c :=
  Option.some.inj (first.symm.trans second)

/-- A node without an edge ends the walk at once. -/
theorem EndsAt.here (none : next node = none) : EndsAt next node node := ⟨.refl, none⟩

theorem EndsAt.step (edge : next a = some b) (ends : EndsAt next b last) : EndsAt next a last :=
  ⟨.head edge ends.1, ends.2⟩

/-- Every walk from the node is a part of the one that ends. -/
theorem EndsAt.of_reaches (ends : EndsAt next a last) (reaches : Reaches next a b) :
    EndsAt next b last := by
  refine ⟨?_, ends.2⟩
  induction reaches with
  | refl => exact ends.1
  | @tail b c _ edge ih =>
    rcases ih.cases_head with rfl | ⟨d, first, rest⟩
    · exact absurd (ends.2.symm.trans edge) (by simp)
    · exact edge_unique first edge ▸ rest

theorem EndsAt.unique (first : EndsAt next node a) (second : EndsAt next node b) : a = b := by
  rcases (first.of_reaches second.1).1.cases_head with same | ⟨c, edge, _⟩
  · exact same.symm
  · exact absurd (second.2.symm.trans edge) (by simp)

theorem EndsAt.not_neverEnds (ends : EndsAt next node last) : ¬ NeverEnds next node := by
  intro never
  simpa [ends.2] using never last ends.1

/-- A walk that ends passes no node twice. -/
theorem EndsAt.no_ring (ends : EndsAt next node last) : ¬ TransGen (Edge next) node node := by
  obtain ⟨reaches, none⟩ := ends
  induction reaches using ReflTransGen.head_induction_on with
  | refl =>
    intro ring
    obtain ⟨target, edge, _⟩ := TransGen.head'_iff.mp ring
    exact absurd (none.symm.trans edge) (by simp)
  | head edge _ ih =>
    -- the ring may as well be entered one edge later
    intro ring
    obtain ⟨target, first, rest⟩ := TransGen.head'_iff.mp ring
    obtain rfl := edge_unique edge first
    exact ih (TransGen.tail' rest edge)

theorem endsAt_or_neverEnds (next : α → Option α) (node : α) :
    (∃ last, EndsAt next node last) ∨ NeverEnds next node := by
  by_cases never : NeverEnds next node
  · exact .inr never
  · simp only [NeverEnds, not_forall, Option.not_isSome_iff_eq_none] at never
    obtain ⟨last, reaches, none⟩ := never
    exact .inl ⟨last, reaches, none⟩

/-- Edges that lead into a ring never run out. -/
theorem neverEnds_of_ring (reaches : Reaches next a b) (ring : TransGen (Edge next) b b) :
    NeverEnds next a := by
  rcases endsAt_or_neverEnds next a with ⟨last, ends⟩ | never
  · exact absurd ring (ends.of_reaches reaches).no_ring
  · exact never

theorem NeverEnds.step (edge : next a = some b) (never : NeverEnds next b) : NeverEnds next a := by
  intro reached reaches
  rcases reaches.cases_head with rfl | ⟨c, first, rest⟩
  · simp [edge]
  · exact never reached (edge_unique first edge ▸ rest)

/-- What leads to edges that never run out never runs out of edges itself. -/
theorem NeverEnds.of_reaches (reaches : Reaches next a b) (never : NeverEnds next b) :
    NeverEnds next a := by
  induction reaches using ReflTransGen.head_induction_on with
  | refl => exact never
  | head edge _ ih => exact ih.step edge

/-! ### Edges that agree where a walk passes -/

/-- Where two kinds of edges agree on all that one of them reaches, the other reaches the same. -/
theorem reaches_congr (agree : ∀ passed, Reaches next a passed → other passed = next passed) :
    Reaches other a b ↔ Reaches next a b := by
  constructor
  · intro reaches
    induction reaches with
    | refl => exact .refl
    | tail _ edge ih => exact ih.tail ((agree _ ih).symm.trans edge)
  · intro reaches
    induction reaches with
    | refl => exact .refl
    | tail before edge ih => exact ih.tail ((agree _ before).trans edge)

theorem endsAt_congr (agree : ∀ passed, Reaches next a passed → other passed = next passed) :
    EndsAt other a last ↔ EndsAt next a last := by
  rw [EndsAt, EndsAt, reaches_congr agree]
  exact and_congr_right fun reaches => by rw [agree last reaches]

theorem neverEnds_congr (agree : ∀ passed, Reaches next a passed → other passed = next passed) :
    NeverEnds other a ↔ NeverEnds next a := by
  simp only [NeverEnds, reaches_congr agree]
  exact forall_congr' fun reached => forall_congr' fun reaches => by rw [agree reached reaches]

/-! ### Searches along the edges -/

/-- What a search keeps that has come from the trail's nodes, latest first, to the current node:
each node leads to the one before it in the list, none is passed twice, and the steps left and those
made outnumber the nodes with an edge. -/
structure Trail (next : α → Option α) (nodes : List α) (steps : Nat) (trail : List α)
    (current : α) : Prop where
  linked : (current :: trail).IsChain fun later earlier => Edge next earlier later
  distinct : trail.Nodup
  enough : nodes.length < steps + trail.length

namespace Trail
variable {nodes trail : List α} {steps : Nat} {current target : α}

/-- A search begins with no trail. -/
theorem start (next : α → Option α) (nodes : List α) (node : α) :
    Trail next nodes (nodes.length + 1) [] node :=
  ⟨.singleton node, .nil, Nat.lt_succ_self _⟩

/-- One edge further the search keeps the same, one node longer and with one step less. -/
theorem extend (track : Trail next nodes (steps + 1) trail current) (fresh : current ∉ trail)
    (edge : next current = some target) : Trail next nodes steps (current :: trail) target where
  linked := .cons_cons edge track.linked
  distinct := List.nodup_cons.mpr ⟨fresh, track.distinct⟩
  enough := by
    have := track.enough
    simp only [List.length_cons]
    omega

/-- Each node of the trail leads to the current one. -/
theorem leads (track : Trail next nodes steps trail current) {passed : α}
    (member : passed ∈ trail) : TransGen (Edge next) passed current := by
  have linked := track.linked
  clear track
  induction trail generalizing current with
  | nil => exact absurd member List.not_mem_nil
  | cons head rest ih =>
    obtain ⟨edge, linked⟩ := List.isChain_cons_cons.mp linked
    rcases List.mem_cons.mp member with rfl | member
    · exact .single edge
    · exact (ih member linked).tail edge

/-- Each node of the trail has an edge. -/
theorem has_edge (track : Trail next nodes steps trail current) {passed : α}
    (member : passed ∈ trail) : (next passed).isSome := by
  obtain ⟨target, edge, _⟩ := TransGen.head'_iff.mp (track.leads member)
  rw [edge]
  rfl

/-- A trail has no more nodes than have an edge. -/
theorem length_le (counted : ∀ node, (next node).isSome → node ∈ nodes)
    (track : Trail next nodes steps trail current) : trail.length ≤ nodes.length :=
  track.distinct.length_le_of_subset fun _ member => counted _ (track.has_edge member)

/-- Steps are left as long as all nodes with an edge are counted. -/
theorem steps_pos (counted : ∀ node, (next node).isSome → node ∈ nodes)
    (track : Trail next nodes steps trail current) : 0 < steps := by
  have bound := track.length_le counted
  have := track.enough
  omega

end Trail

/-- What the outcome of a walk from a node says about the edges: either they end, or they lead to a
node from which they come back to it. -/
inductive Outcome (next : α → Option α) (node : α) : Walk α → Prop where
  | stops {last : α} (ends : EndsAt next node last) : Outcome next node (.stops last)
  | closes {trail : List α} {target : α} (reaches : Reaches next node target)
      (ring : TransGen (Edge next) target target) : Outcome next node (.closes trail target)

/-- One edge more in front changes neither where a walk stops nor which ring it enters. -/
theorem Outcome.step {walk : Walk α} (edge : next a = some b) (outcome : Outcome next b walk) :
    Outcome next a walk := by
  cases outcome with
  | stops ends => exact .stops (ends.step edge)
  | closes reaches ring => exact .closes (.head edge reaches) ring

variable [DecidableEq α] {nodes trail : List α} {steps : Nat} {current : α}

/-- A walk finds out whether the edges run out. The induction is on the steps; `Trail` makes sure
that they are not used up. -/
theorem onward_outcome (counted : ∀ node, (next node).isSome → node ∈ nodes)
    (track : Trail next nodes steps trail current) (fresh : current ∉ trail) :
    Outcome next current (onward next steps trail current) := by
  induction steps generalizing trail current with
  | zero => exact absurd (track.steps_pos counted) (Nat.lt_irrefl 0)
  | succ steps ih =>
    rw [onward]
    split
    · rename_i none
      exact .stops (.here none)
    · rename_i target edge
      have longer := track.extend fresh edge
      split
      · rename_i passed
        exact .closes (.single edge) (longer.leads passed)
      · rename_i unpassed
        exact (ih longer unpassed).step edge

/-- A walk with a step for each node that has an edge, and one more, finds out the same. -/
theorem start_outcome (counted : ∀ node, (next node).isSome → node ∈ nodes) (node : α) :
    Outcome next node (start next nodes.length node) :=
  onward_outcome counted (.start next nodes node) List.not_mem_nil

/-- Where two kinds of edges agree on all that one of them reaches, walks along both take the same
course. The induction is on the steps of the one; neither runs out of steps. -/
theorem onward_congr {others : List α} {more : Nat}
    (counted : ∀ node, (next node).isSome → node ∈ nodes)
    (countedToo : ∀ node, (other node).isSome → node ∈ others)
    (agree : ∀ passed, Reaches next current passed → other passed = next passed)
    (track : Trail next nodes steps trail current)
    (trackToo : Trail other others more trail current) (fresh : current ∉ trail) :
    onward other more trail current = onward next steps trail current := by
  induction steps generalizing more trail current with
  | zero => exact absurd (track.steps_pos counted) (Nat.lt_irrefl 0)
  | succ steps ih =>
    cases more with
    | zero => exact absurd (trackToo.steps_pos countedToo) (Nat.lt_irrefl 0)
    | succ more =>
      have here := agree current .refl
      rw [onward, onward, here]
      cases edge : next current with
      | none => rfl
      | some target =>
        dsimp only
        split
        · rfl
        · rename_i unpassed
          exact ih (fun passed reaches => agree passed (.head edge reaches))
            (track.extend fresh edge) (trackToo.extend fresh (here.trans edge)) unpassed

/-- A walk stops exactly where the edges end. -/
theorem start_eq_stops_iff (counted : ∀ node, (next node).isSome → node ∈ nodes) :
    start next nodes.length node = .stops last ↔ EndsAt next node last := by
  have outcome := start_outcome counted node
  generalize start next nodes.length node = walk at outcome ⊢
  cases outcome with
  | stops found =>
    constructor
    · rintro ⟨⟩
      exact found
    · intro ends
      rw [found.unique ends]
  | closes reaches ring =>
    constructor
    · rintro ⟨⟩
    · intro ends
      exact absurd (neverEnds_of_ring reaches ring) ends.not_neverEnds

/-- A walk closes exactly if the edges never run out. -/
theorem start_eq_closes_iff (counted : ∀ node, (next node).isSome → node ∈ nodes) :
    (∃ trail target, start next nodes.length node = .closes trail target) ↔
      NeverEnds next node := by
  have outcome := start_outcome counted node
  generalize start next nodes.length node = walk at outcome ⊢
  cases outcome with
  | stops ends => simpa using ends.not_neverEnds
  | closes reaches ring => simpa using neverEnds_of_ring reaches ring

/-- Finitely many edges that never run out lead into a ring. -/
theorem exists_ring_of_neverEnds (counted : ∀ node, (next node).isSome → node ∈ nodes)
    (never : NeverEnds next node) :
    ∃ target, Reaches next node target ∧ TransGen (Edge next) target target := by
  have outcome := start_outcome counted node
  generalize start next nodes.length node = walk at outcome
  cases outcome with
  | stops ends => exact absurd never ends.not_neverEnds
  | closes reaches ring => exact ⟨_, reaches, ring⟩

/-- Finitely many edges make no ring exactly if the walks from all nodes end. -/
theorem acyclic_iff (counted : ∀ node, (next node).isSome → node ∈ nodes) :
    Acyclic next ↔ ∀ node, ¬ NeverEnds next node := by
  constructor
  · intro acyclic node never
    obtain ⟨target, _, ring⟩ := exists_ring_of_neverEnds counted never
    exact acyclic target ring
  · intro ending node ring
    exact ending node (neverEnds_of_ring .refl ring)

/-! ### Other names for the nodes -/

section
variable {α β : Type} [DecidableEq α] [DecidableEq β] {f : α → β} {next : α → Option α}
  {renamed : β → Option β}

/-- The walk over nodes that have been given other names. -/
def map (f : α → β) : Walk α → Walk β
  | .stops last => .stops (f last)
  | .closes trail target => .closes (trail.map f) (f target)

/-- A walk takes the same course whatever names tell the nodes apart. -/
theorem onward_map (injective : Function.Injective f)
    (edges : ∀ node, renamed (f node) = (next node).map f) (steps : Nat) (trail : List α)
    (current : α) :
    onward renamed steps (trail.map f) (f current) = (onward next steps trail current).map f := by
  induction steps generalizing trail current with
  | zero => rfl
  | succ steps ih =>
    rw [onward, onward, edges]
    cases next current with
    | none => rfl
    | some target =>
      have passed : f target ∈ f current :: trail.map f ↔ target ∈ current :: trail := by
        rw [← List.map_cons, List.mem_map_of_injective injective]
      simp only [Option.map_some, passed]
      split
      · rfl
      · exact ih (current :: trail) target

end

end CallSchema.Walk
