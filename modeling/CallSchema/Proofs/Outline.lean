import CallSchema.Proofs.Decimal
import CallSchema.Proofs.Lossless
import CallSchema.Proofs.Places
import Mathlib.Data.List.Forall2
import Mathlib.Tactic.MkIffOfInductiveProp

/-!
The lines of a description as an outline. A line stands for an entry: how deep a node is, and what
is shown of it. Three steps lead from the text of a description back to the parameters, and none of
them loses anything. The text is cut into lines at its line breaks (`splitOn_join`), a line tells
its entry by its indent, the first colon and the last blanks (`Entry.Legible.line_inj`), and entries
tell how the nodes are nested by their depths (`outline_inj`). For the first two steps names have to
be such that they do not look like what stands around them (`Entry.Legible`).
-/
namespace CallSchema

/-! ### Cutting texts -/

section
variable {x y s t : List Char} {c : Char}

/-- A text is cut at the first occurrence of a character in one way. -/
theorem cut_first (before : c ∉ x) (beforeToo : c ∉ y) (same : x ++ c :: s = y ++ c :: t) :
    x = y ∧ s = t := by
  rcases List.append_eq_append_iff.mp same with ⟨middle, rfl, cut⟩ | ⟨middle, rfl, cut⟩
  · cases middle with
    | nil => exact ⟨by simp, by simpa using cut⟩
    | cons head middle =>
      cases cut
      exact absurd (by simp) beforeToo
  · cases middle with
    | nil => exact ⟨by simp, by simpa using cut.symm⟩
    | cons head middle =>
      cases cut
      exact absurd (by simp) before

/-- A text is cut at the last occurrence of a character in one way. -/
theorem cut_last (after : c ∉ s) (afterToo : c ∉ t) (same : x ++ c :: s = y ++ c :: t) :
    x = y ∧ s = t := by
  have reversed : s.reverse ++ c :: x.reverse = t.reverse ++ c :: y.reverse := by
    simpa using congrArg List.reverse same
  obtain ⟨tails, heads⟩ := cut_first (by simpa using after) (by simpa using afterToo) reversed
  exact ⟨List.reverse_injective heads, List.reverse_injective tails⟩

/-- The blanks that a text begins with end where something else begins. -/
theorem takeWhile_indent (count : Nat) (other : s.head? ≠ some ' ') :
    (List.replicate count ' ' ++ s).takeWhile (· = ' ') = List.replicate count ' ' ∧
      (List.replicate count ' ' ++ s).dropWhile (· = ' ') = s := by
  have blank : ∀ a ∈ List.replicate count ' ', decide (a = ' ') = true := by
    simp +contextual [List.mem_replicate]
  rw [List.takeWhile_append_of_pos blank, List.dropWhile_append_of_pos blank]
  cases s with
  | nil => simp
  | cons head rest =>
    have stops : head ≠ ' ' := by simpa using other
    simp [stops]

end

/-- Lines that have no line break in them are read back from the text that they make up. -/
theorem splitOn_join {lines : List String} (unbroken : ∀ line ∈ lines, '\n' ∉ line.toList) :
    (String.join (lines.map (· ++ "\n"))).toList.splitOn '\n' =
      lines.map String.toList ++ [[]] := by
  induction lines with
  | nil => rfl
  | cons line rest ih =>
    have opened : (String.join ((line :: rest).map (· ++ "\n"))).toList =
        line.toList ++ '\n' :: (String.join (rest.map (· ++ "\n"))).toList := by
      simp
    rw [opened, List.splitOn_append_cons_self_of_not_mem (unbroken line List.mem_cons_self),
      ih fun line member => unbroken line (List.mem_cons_of_mem _ member)]
    rfl

/-- The digits of a number and what stands before the blank in front of them are told apart. -/
theorem append_natural_inj {a b : String} {m n : Nat} :
    a ++ " " ++ Decimal.natural m = b ++ " " ++ Decimal.natural n ↔ a = b ∧ m = n := by
  refine ⟨fun same => ?_, fun ⟨first, second⟩ => by rw [first, second]⟩
  have unblank (number : Nat) : ' ' ∉ (Decimal.natural number).toList :=
    Decimal.not_mem_natural (by decide)
  have parts : a.toList ++ ' ' :: (Decimal.natural m).toList =
      b.toList ++ ' ' :: (Decimal.natural n).toList := by
    simpa using congrArg String.toList same
  obtain ⟨texts, digits⟩ := cut_last (unblank m) (unblank n) parts
  refine ⟨String.toList_inj.mp texts, Option.some.inj ?_⟩
  rw [← Decimal.read?_natural m, ← Decimal.read?_natural n, digits]

/-! ### Lines -/

/-- What a line of a description tells: how many structures are around a node, and what is shown of
the node itself. -/
structure Entry where
  depth : Nat
  name : String
  basicType : Symbol
  size : UInt64
  offset : UInt64
  deriving DecidableEq

/-- A node as an entry at a depth. -/
def Parameter.entry (depth : Nat) : Parameter → Entry
  | .mk name basicType size offset _ => ⟨depth, name, basicType, size, offset⟩

theorem Parameter.depth_entry (node : Parameter) (depth : Nat) :
    (node.entry depth).depth = depth := by
  cases node
  rfl

namespace Entry

/-- What a line says of a node before its numbers. -/
def opening (entry : Entry) : String := entry.name ++ ": " ++ entry.basicType.name

/-- What a line says of a node, after its indent. Outside all structures, no offset is told. -/
def told (entry : Entry) : String :=
  entry.opening ++ " (size " ++ Decimal.natural entry.size.toNat ++
    (if entry.depth = 0 then "" else ", offset " ++ Decimal.natural entry.offset.toNat) ++ ")"

/-- The line of an entry: two blanks for each structure around the node, and what is said of it. -/
def line (entry : Entry) : String :=
  String.ofList (List.replicate (2 * entry.depth) ' ') ++ entry.told

/-- The entry can be told from its line: the name has no colon and does not look like an indent,
there is no line break, and there is no offset where none is told. -/
@[mk_iff legible_iff_parts]
structure Legible (entry : Entry) : Prop where
  unbroken : '\n' ∉ entry.name.toList
  uncut : ':' ∉ entry.name.toList
  flush : entry.name.toList.head? ≠ some ' '
  type_unbroken : '\n' ∉ entry.basicType.name.toList
  unplaced : entry.depth = 0 → entry.offset = 0

instance (entry : Entry) : Decidable entry.Legible :=
  decidable_of_iff _ entry.legible_iff_parts.symm

variable {entry other : Entry}

/-- A legible entry's name and backing type are told by what stands before its numbers. -/
theorem Legible.opening_inj (legible : entry.Legible) (legibleToo : other.Legible)
    (same : entry.opening = other.opening) :
    entry.name = other.name ∧ entry.basicType = other.basicType := by
  have parts : entry.name.toList ++ ':' :: ' ' :: entry.basicType.name.toList =
      other.name.toList ++ ':' :: ' ' :: other.basicType.name.toList := by
    simpa [opening] using congrArg String.toList same
  obtain ⟨names, rest⟩ := cut_first legible.uncut legibleToo.uncut parts
  have types : entry.basicType.name.toList = other.basicType.name.toList := (List.cons.inj rest).2
  exact ⟨String.toList_inj.mp names, Named.text_injective (String.toList_inj.mp types)⟩

theorem told_outside (outside : entry.depth = 0) :
    entry.told = entry.opening ++ " (size" ++ " " ++ Decimal.natural entry.size.toNat ++ ")" := by
  simp [told, outside, String.append_assoc]

theorem told_inside (inside : entry.depth ≠ 0) :
    entry.told = entry.opening ++ " (size" ++ " " ++ Decimal.natural entry.size.toNat ++
      ", offset" ++ " " ++ Decimal.natural entry.offset.toNat ++ ")" := by
  simp [told, inside, String.append_assoc]

/-- At one depth, a legible entry is told by what its line says. -/
theorem Legible.told_inj (legible : entry.Legible) (legibleToo : other.Legible)
    (depths : entry.depth = other.depth) (same : entry.told = other.told) : entry = other := by
  obtain ⟨openings, sizes, offsets⟩ : entry.opening = other.opening ∧
      entry.size = other.size ∧ entry.offset = other.offset := by
    by_cases outside : entry.depth = 0
    · have outsideToo : other.depth = 0 := depths ▸ outside
      rw [told_outside outside, told_outside outsideToo, String.append_left_inj,
        append_natural_inj, String.append_left_inj, UInt64.toNat_inj] at same
      exact ⟨same.1, same.2,
        (legible.unplaced outside).trans (legibleToo.unplaced outsideToo).symm⟩
    · have insideToo : other.depth ≠ 0 := depths ▸ outside
      rw [told_inside outside, told_inside insideToo, String.append_left_inj, append_natural_inj,
        String.append_left_inj, append_natural_inj, String.append_left_inj, UInt64.toNat_inj,
        UInt64.toNat_inj] at same
      exact ⟨same.1.1, same.1.2, same.2⟩
  obtain ⟨names, types⟩ := legible.opening_inj legibleToo openings
  cases entry
  cases other
  simp_all

/-- After its indent, the line of a legible entry begins with something else than a blank. -/
theorem Legible.head?_told (legible : entry.Legible) : entry.told.toList.head? ≠ some ' ' := by
  have flush := legible.flush
  rw [told, opening]
  cases named : entry.name.toList with
  | nil => simp [named]
  | cons head rest => simpa [named] using flush

/-- The blanks that the line of a legible entry begins with are its indent. -/
theorem Legible.line_parts (legible : entry.Legible) :
    entry.line.toList.takeWhile (· = ' ') = List.replicate (2 * entry.depth) ' ' ∧
      entry.line.toList.dropWhile (· = ' ') = entry.told.toList := by
  have indented : entry.line.toList =
      List.replicate (2 * entry.depth) ' ' ++ entry.told.toList := by simp [line]
  rw [indented]
  exact takeWhile_indent _ legible.head?_told

/-- A legible entry is told by its line. -/
theorem Legible.line_inj (legible : entry.Legible) (legibleToo : other.Legible)
    (same : entry.line = other.line) : entry = other := by
  obtain ⟨indent, said⟩ := legible.line_parts
  obtain ⟨indentToo, saidToo⟩ := legibleToo.line_parts
  rw [same] at indent said
  have depths : entry.depth = other.depth := by
    have lengths := congrArg List.length (indent.symm.trans indentToo)
    simp only [List.length_replicate] at lengths
    omega
  exact legible.told_inj legibleToo depths (String.toList_inj.mp (said.symm.trans saidToo))

/-- Legible entries are told by their lines, one after the other. -/
theorem eq_of_lines : {entries others : List Entry} → (∀ entry ∈ entries, entry.Legible) →
    (∀ entry ∈ others, entry.Legible) → entries.map line = others.map line → entries = others
  | [], [], _, _, _ => rfl
  | [], _ :: _, _, _, same => nomatch same
  | _ :: _, [], _, _, same => nomatch same
  | _ :: _, _ :: _, legible, legibleToo, same => by
    rw [List.forall_mem_cons] at legible legibleToo
    rw [List.map_cons, List.map_cons, List.cons.injEq] at same
    rw [legible.1.line_inj legibleToo.1 same.1, eq_of_lines legible.2 legibleToo.2 same.2]

/-- The line of a legible entry has no line break in it. -/
theorem Legible.line_unbroken (legible : entry.Legible) : '\n' ∉ entry.line.toList := by
  have digits (number : Nat) : '\n' ∉ (Decimal.natural number).toList :=
    Decimal.not_mem_natural (by decide)
  rw [line, told, opening]
  split <;> simp [legible.unbroken, legible.type_unbroken, digits, List.mem_replicate]

end Entry

/-! ### Entries -/

mutual

/-- The entries of a parameter: its own, then those of its fields, which are one level deeper. -/
def Parameter.outline (depth : Nat) : Parameter → List Entry
  | .mk name basicType size offset fields =>
    ⟨depth, name, basicType, size, offset⟩ :: outline (depth + 1) fields

/-- The entries of parameters, one after the other. -/
def outline (depth : Nat) : List Parameter → List Entry
  | [] => []
  | parameter :: rest => parameter.outline depth ++ outline depth rest

end

-- A parameter holds a list of parameters, so the recursion goes over both.
mutual

theorem Parameter.lines_eq (depth : Nat) : (parameter : Parameter) →
    parameter.lines depth = (parameter.outline depth).map Entry.line
  | .mk name basicType size offset fields => by
    rw [Parameter.lines, Parameter.outline, List.map_cons, parameterLines_eq (depth + 1) fields]
    simp only [Entry.line, Entry.told, Entry.opening, String.append_assoc]

/-- The lines of a description are those of its entries. -/
theorem parameterLines_eq (depth : Nat) : (forest : List Parameter) →
    parameterLines depth forest = (outline depth forest).map Entry.line
  | [] => rfl
  | parameter :: rest => by
    rw [parameterLines, outline, List.map_append, parameter.lines_eq depth,
      parameterLines_eq depth rest]

end

mutual

theorem Parameter.outline_eq (depth : Nat) : (parameter : Parameter) → parameter.outline depth =
    parameter.nodes.map fun node => node.2.entry (depth + node.1.length)
  | .mk name basicType size offset fields => by
    rw [Parameter.outline, Parameter.nodes, List.map_cons,
      outline_eq_nodesFrom (depth + 1) 0 fields]
    refine congrArg _ (List.map_congr_left fun node listed => ?_)
    obtain ⟨count, inner, same, -⟩ := exists_place_eq_cons listed
    rw [depthOf, same, List.length_cons, Nat.add_sub_cancel, Nat.add_assoc, Nat.add_comm 1]

theorem outline_eq_nodesFrom (depth index : Nat) : (forest : List Parameter) →
    outline depth forest =
      (nodesFrom index forest).map fun node => node.2.entry (depth + depthOf node.1)
  | [] => rfl
  | parameter :: rest => by
    rw [outline, nodesFrom, List.map_append, List.map_map, parameter.outline_eq depth,
      outline_eq_nodesFrom depth (index + 1) rest]
    rfl

end

/-- A description has one entry for each node, in the order of places and with the depth of the
place. -/
theorem outline_eq (forest : List Parameter) :
    outline 0 forest = (nodesOf forest).map fun node => node.2.entry (depthOf node.1) := by
  simp only [outline_eq_nodesFrom 0 0, nodesOf, Nat.zero_add]

/-! ### Nesting -/

/-- What follows the entries at a depth: nothing, or an entry that is less deep. -/
def Shallower (depth : Nat) (rest : List Entry) : Prop := ∀ entry ∈ rest.head?, entry.depth < depth

variable {depth : Nat} {rest more : List Entry}

/-- The fields of a parameter end where the parameters after it begin. -/
theorem Shallower.inside (ends : Shallower depth rest) (forest : List Parameter) :
    Shallower (depth + 1) (outline depth forest ++ rest) := by
  cases forest with
  | nil => exact fun entry leads => Nat.lt_succ_of_lt (ends entry leads)
  | cons parameter others =>
    obtain ⟨name, basicType, size, offset, fields⟩ := parameter
    intro entry leads
    cases leads
    exact Nat.lt_succ_self depth

/-- Where entries at a depth have ended, no parameter at this depth begins. -/
theorem Shallower.not_parameter (ends : Shallower depth rest) (parameter : Parameter)
    (others : List Entry) : rest ≠ parameter.outline depth ++ others := by
  obtain ⟨name, basicType, size, offset, fields⟩ := parameter
  rintro rfl
  exact Nat.lt_irrefl depth (ends _ rfl)

-- What follows is left free, as the entries of fields are followed by those of the next parameter.
mutual

theorem Parameter.outline_inj : (parameter other : Parameter) → ∀ {depth rest more},
    Shallower (depth + 1) rest → Shallower (depth + 1) more →
      parameter.outline depth ++ rest = other.outline depth ++ more →
        parameter = other ∧ rest = more
  | .mk name basicType size offset fields, .mk _ _ _ _ others, depth, rest, more, ends, endsToo,
      same => by
    rw [Parameter.outline, Parameter.outline, List.cons_append, List.cons_append, List.cons.injEq,
      Entry.mk.injEq] at same
    obtain ⟨⟨-, rfl, rfl, rfl, rfl⟩, within⟩ := same
    obtain ⟨rfl, after⟩ := outline_inj fields others ends endsToo within
    exact ⟨rfl, after⟩

/-- Parameters are told by their entries, whatever follows that is less deep. -/
theorem outline_inj : (forest other : List Parameter) → ∀ {depth rest more},
    Shallower depth rest → Shallower depth more →
      outline depth forest ++ rest = outline depth other ++ more → forest = other ∧ rest = more
  | [], [], _, _, _, _, _, same => ⟨rfl, same⟩
  | [], parameter :: others, depth, rest, more, ends, _, same => by
    rw [outline, outline, List.append_assoc] at same
    exact absurd same (ends.not_parameter parameter _)
  | parameter :: others, [], depth, rest, more, _, ends, same => by
    rw [outline, outline, List.append_assoc] at same
    exact absurd same.symm (ends.not_parameter parameter _)
  | parameter :: others, next :: followers, depth, rest, more, ends, endsToo, same => by
    rw [outline, outline, List.append_assoc, List.append_assoc] at same
    obtain ⟨rfl, after⟩ :=
      parameter.outline_inj next (ends.inside others) (endsToo.inside followers) same
    obtain ⟨rfl, last⟩ := outline_inj others followers ends endsToo after
    exact ⟨rfl, last⟩

end

/-- Parameters are told by their entries. -/
theorem eq_of_outline {forest other : List Parameter}
    (same : outline depth forest = outline depth other) : forest = other := by
  have ends : Shallower depth [] := fun entry leads => nomatch leads
  refine (outline_inj forest other ends ends ?_).1
  rw [List.append_nil, List.append_nil, same]

/-! ### Descriptions -/

/-- Each node can be told from its line. -/
def Legible (forest : List Parameter) : Prop :=
  ∀ place node, nodeAt? forest place = some node → (node.entry (depthOf place)).Legible

theorem legible_iff {forest : List Parameter} :
    Legible forest ↔ ∀ entry ∈ outline 0 forest, entry.Legible := by
  rw [outline_eq, List.forall_mem_map]
  exact ⟨fun legible node listed => legible _ _ (mem_nodesOf.mp listed),
    fun legible place node stands => legible (place, node) (mem_nodesOf.mpr stands)⟩

instance (forest : List Parameter) : Decidable (Legible forest) :=
  decidable_of_iff _ legible_iff.symm

/-- What is written for parameters is the text of their lines. -/
theorem output_parameterLines (forest : List Parameter) :
    (Writing.parameterLines 0 forest).output =
      (String.join (((outline 0 forest).map Entry.line).map (· ++ "\n"))).toUTF8 := by
  have writes := Writing.writes_lines (parameterLines 0 forest)
  rw [← parameterLines_eq, Writing.output, Writing.parameterLines, writes.runOn,
    ByteArray.empty_append]

/-- The text of legible parameters is cut into their lines at its line breaks. -/
theorem Legible.splitOn {forest : List Parameter} (legible : Legible forest) :
    (String.join (((outline 0 forest).map Entry.line).map (· ++ "\n"))).toList.splitOn '\n' =
      ((outline 0 forest).map Entry.line).map String.toList ++ [[]] := by
  refine splitOn_join (List.forall_mem_map.mpr fun entry listed => ?_)
  exact (legible_iff.mp legible entry listed).line_unbroken

/-- Legible parameters are told by the text that is written for them. -/
theorem Legible.output_inj {forest other : List Parameter} (legible : Legible forest)
    (legibleToo : Legible other)
    (same : (Writing.parameterLines 0 forest).output = (Writing.parameterLines 0 other).output) :
    forest = other := by
  rw [output_parameterLines, output_parameterLines, String.toUTF8, String.toUTF8,
    String.toByteArray_inj] at same
  have lines := congrArg (fun text : String => text.toList.splitOn '\n') same
  simp only [legible.splitOn, legibleToo.splitOn, List.append_left_inj] at lines
  rw [List.map_inj_right fun _ _ => String.toList_inj.mp] at lines
  exact eq_of_outline
    (Entry.eq_of_lines (legible_iff.mp legible) (legible_iff.mp legibleToo) lines)

/-- **A description is unambiguous.** Where names have no colon and no line break and do not begin
with a blank, backing types have no line break and parameters have no offset, the text of a
description is that of no other such parameters. It has one line for each node, in the order of
places: the line break after each line aside, a line is an indent of two blanks for each structure
around the node, followed by what is said of the node. -/
theorem description_unambiguous (forest : List Parameter) (legible : Legible forest) :
    (∀ other, Legible other →
      ((Writing.parameterLines 0 forest).output = (Writing.parameterLines 0 other).output ↔
        forest = other)) ∧
    ∃ (text : String) (places : List (List Nat)) (lines : List (List Char)),
      (Writing.parameterLines 0 forest).output = text.toUTF8 ∧
      text.toList.splitOn '\n' = lines ++ [[]] ∧
      places.Pairwise Precedes ∧
      (∀ place, place ∈ places ↔ (nodeAt? forest place).isSome) ∧
      List.Forall₂ (fun place line => ∃ node, nodeAt? forest place = some node ∧
        line.takeWhile (· = ' ') = List.replicate (2 * depthOf place) ' ' ∧
        line.dropWhile (· = ' ') = (node.entry (depthOf place)).told.toList) places lines := by
  constructor
  · intro other legibleToo
    exact ⟨legible.output_inj legibleToo, fun same => same ▸ rfl⟩
  · refine ⟨_, (nodesOf forest).map Prod.fst, _, output_parameterLines forest, legible.splitOn,
      List.pairwise_map.mpr (nodesOf_ordered forest), fun place => ?_, ?_⟩
    · simp only [List.mem_map, Prod.exists, exists_and_right, exists_eq_right, mem_nodesOf,
        Option.isSome_iff_exists]
    · rw [outline_eq, List.map_map, List.map_map, List.forall₂_map_left_iff,
        List.forall₂_map_right_iff, List.forall₂_same]
      rintro ⟨place, node⟩ listed
      have stands := mem_nodesOf.mp listed
      have parts := (legible place node stands).line_parts
      rw [node.depth_entry] at parts
      exact ⟨node, stands, parts⟩

/-- A structure of two fields, of which the second has a structure for its type; a name that is
empty, and a backing type that looks like what follows it. -/
def nested : List Parameter :=
  [⟨"lpRect", ⟨"uint32_t"⟩, 4, 0,
    [⟨"", ⟨"LONG (size 4)"⟩, 4, 0, []⟩,
     ⟨"corner", ⟨"uint32_t"⟩, 4, 4, [⟨"y", ⟨"LONG"⟩, 4, 0, []⟩]⟩]⟩]

/-- The same nodes in the same order, nested otherwise. -/
def nestedOtherwise : List Parameter :=
  [⟨"lpRect", ⟨"uint32_t"⟩, 4, 0,
    [⟨"", ⟨"LONG (size 4)"⟩, 4, 0, []⟩,
     ⟨"corner", ⟨"uint32_t"⟩, 4, 4, []⟩,
     ⟨"y", ⟨"LONG"⟩, 4, 0, []⟩]⟩]

/-- They are described by different texts. -/
theorem nested_told_apart :
    Legible nested ∧ Legible nestedOtherwise ∧
      (Writing.parameterLines 0 nested).output ≠
        (Writing.parameterLines 0 nestedOtherwise).output ∧
      parameterLines 0 nested =
        ["lpRect: uint32_t (size 4)", "  : LONG (size 4) (size 4, offset 0)",
         "  corner: uint32_t (size 4, offset 4)", "    y: LONG (size 4, offset 0)"] := by
  have legible : Legible nested := by decide +kernel
  have legibleToo : Legible nestedOtherwise := by decide +kernel
  refine ⟨legible, legibleToo, fun same => ?_, by decide +kernel⟩
  have told := ((description_unambiguous nested legible).1 nestedOtherwise legibleToo).mp same
  simp [nested, nestedOtherwise] at told

end CallSchema
