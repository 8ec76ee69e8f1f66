import CallSchema.Resolution.Layout
import Mathlib.Data.List.Basic

/-!
The nodes of a list of parameters by their places. A place counts its way down: its first number
counts parameters, and each further one the fields of the node before it. `nodes` lists all places
with what stands there, each once (`mem_nodesOf`) and in the order of places (`nodesOf_ordered`), in
which a node comes before its fields and these before whatever follows the node.
-/
namespace CallSchema

/-- The node at a place inside a parameter, which itself is at the empty place. -/
def Parameter.at? : Parameter → List Nat → Option Parameter
  | parameter, [] => some parameter
  | parameter, index :: place => parameter.fields[index]?.bind fun field => field.at? place

/-- The node at a place in a list of parameters. -/
def nodeAt? (forest : List Parameter) : List Nat → Option Parameter
  | [] => none
  | index :: place => forest[index]?.bind fun parameter => parameter.at? place

/-- The number of structures around a place. -/
def depthOf (place : List Nat) : Nat := place.length - 1

/-- The order of places, in which a place comes before those inside it. -/
def Precedes (first second : List Nat) : Prop := List.Lex (· < ·) first second

mutual

/-- A parameter and the nodes inside it, with their places inside it. -/
def Parameter.nodes : Parameter → List (List Nat × Parameter)
  | .mk name basicType size offset fields =>
    ([], .mk name basicType size offset fields) :: nodesFrom 0 fields

/-- The nodes of parameters that are counted from a number on, with their places. -/
def nodesFrom (index : Nat) : List Parameter → List (List Nat × Parameter)
  | [] => []
  | parameter :: rest =>
    (parameter.nodes.map fun node => (index :: node.1, node.2)) ++ nodesFrom (index + 1) rest

end

/-- The nodes of a list of parameters with their places. -/
def nodesOf (forest : List Parameter) : List (List Nat × Parameter) := nodesFrom 0 forest

-- A parameter holds a list of parameters, so the recursion goes over both.
mutual

theorem Parameter.mem_nodes : (parameter : Parameter) → ∀ {place node},
    (place, node) ∈ parameter.nodes ↔ parameter.at? place = some node
  | .mk name basicType size offset fields, place, node => by
    rw [Parameter.nodes, List.mem_cons, mem_nodesFrom 0 fields]
    cases place with
    | nil => simp [Parameter.at?, eq_comm]
    | cons index place => simp [Parameter.at?, Parameter.fields, Option.bind_eq_some_iff]

theorem mem_nodesFrom (index : Nat) : (forest : List Parameter) → ∀ {place node},
    (place, node) ∈ nodesFrom index forest ↔ ∃ count inner parameter,
      place = (index + count) :: inner ∧ forest[count]? = some parameter ∧
        parameter.at? inner = some node
  | [], place, node => by simp [nodesFrom]
  | parameter :: rest, place, node => by
    rw [nodesFrom, List.mem_append, List.mem_map, mem_nodesFrom (index + 1) rest]
    constructor
    · rintro (⟨⟨inner, _⟩, listed, same⟩ | ⟨count, inner, holder, rfl, counted, stands⟩)
      · cases same
        exact ⟨0, inner, parameter, rfl, rfl, parameter.mem_nodes.mp listed⟩
      · exact ⟨count + 1, inner, holder, by rw [Nat.add_assoc, Nat.add_comm 1], counted, stands⟩
    · rintro ⟨count, inner, holder, rfl, counted, stands⟩
      cases count with
      | zero =>
        cases counted
        exact .inl ⟨(inner, node), parameter.mem_nodes.mpr stands, rfl⟩
      | succ count =>
        exact .inr ⟨count, inner, holder, by rw [Nat.add_assoc, Nat.add_comm 1], counted, stands⟩

end

section
variable {forest : List Parameter} {place : List Nat} {node : Parameter} {index : Nat}

/-- The nodes that are listed are those that stand somewhere. -/
theorem mem_nodesOf : (place, node) ∈ nodesOf forest ↔ nodeAt? forest place = some node := by
  rw [nodesOf, mem_nodesFrom]
  cases place with
  | nil => simp [nodeAt?]
  | cons index place => simp [nodeAt?, Option.bind_eq_some_iff]

/-- What is counted from a number on is at a place that begins with this number or a later one. -/
theorem exists_place_eq_cons {entry : List Nat × Parameter}
    (listed : entry ∈ nodesFrom index forest) :
    ∃ count inner, entry.1 = count :: inner ∧ index ≤ count := by
  obtain ⟨count, inner, _, same, _⟩ := (mem_nodesFrom index forest).mp listed
  exact ⟨index + count, inner, same, Nat.le_add_right index count⟩

end

mutual

theorem Parameter.nodes_ordered : (parameter : Parameter) →
    parameter.nodes.Pairwise fun first second => Precedes first.1 second.1
  | .mk name basicType size offset fields => by
    rw [Parameter.nodes]
    refine .cons (fun entry listed => ?_) (nodesFrom_ordered 0 fields)
    obtain ⟨count, inner, same, -⟩ := exists_place_eq_cons listed
    rw [same]
    exact .nil

theorem nodesFrom_ordered (index : Nat) : (forest : List Parameter) →
    (nodesFrom index forest).Pairwise fun first second => Precedes first.1 second.1
  | [] => .nil
  | parameter :: rest => by
    rw [nodesFrom, List.pairwise_append, List.pairwise_map]
    refine ⟨parameter.nodes_ordered.imp .cons, nodesFrom_ordered (index + 1) rest, ?_⟩
    intro first listed second later
    obtain ⟨_, _, rfl⟩ := List.mem_map.mp listed
    obtain ⟨count, inner, same, after⟩ := exists_place_eq_cons later
    rw [same]
    exact .rel after

end

/-- The nodes are listed in the order of their places. -/
theorem nodesOf_ordered (forest : List Parameter) :
    (nodesOf forest).Pairwise fun first second => Precedes first.1 second.1 :=
  nodesFrom_ordered 0 forest

end CallSchema
