import CallSchema.Document.Load
import CallSchema.Proofs.Value

/-!
The parts of a document. They are looked for twice: among the keys of a value, and in the tree among
the texts of keys. A key that is a text as a value has just this text in the tree, whatever quotes,
common tags and references it is written with. So a tree has an entry for each part that was found
in its value (`Document.exists_spells_of_key`), and where the check has found all of them reading
misses none (`Document.ofNode_eq_readParts`).
-/
namespace CallSchema
open Yaml (Node Value Source Tag ScalarStyle)

/-! ### Scalars and mappings among values -/

namespace Yaml
variable {value : Value} {text : String} {tag : Option Tag}

/-- A scalar says nothing, a truth value, a number or its own text. -/
theorem scalarValue?_cases {style : ScalarStyle} (said : scalarValue? tag style text = some value) :
    value = .null ∨ (∃ truth, value = .bool truth) ∨ (∃ number, value = .int number) ∨
      (∃ number, value = .float number) ∨ value = .string text := by
  unfold scalarValue? at said
  grind [Option.map_eq_some_iff]

theorem untagged_labelled : (labelled tag value).untagged = value.untagged := by
  rw [labelled]
  cases tag.bind Tag.label? with
  | none => rfl
  | some label => rw [Value.untagged]

theorem labelled_eq_string_iff : labelled tag value = .string text ↔
    tag.bind Tag.label? = none ∧ value = .string text := by
  rw [labelled]
  cases tag.bind Tag.label? <;> simp

/-- A text is the same as no other value. -/
theorem Value.same_string_iff : value.same (.string text) = true ↔ value = .string text := by
  cases value <;> simp [Value.same]

namespace Node.Denotes

/-- What a node refers to denotes what the node does. -/
theorem followed : ∀ {node : Node} {value : Value}, node.Denotes value → node.followed.Denotes value
  | _, _, .reference denotes => by
    rw [Node.followed]
    exact denotes.followed
  | _, _, .scalar said => .scalar said
  | _, _, .sequence each => .sequence each
  | _, _, .mapping keys contents distinct => .mapping keys contents distinct

/-- A node that denotes a mapping is one, and its keys denote the keys of the mapping. -/
theorem exists_entries {pairs : List (Value × Value)} :
    ∀ {node : Node} {value : Value}, node.Denotes value → value.untagged = .mapping pairs →
      ∃ mark tag entries, node.followed = .mapping mark tag entries ∧
        List.Forall₂ Node.Denotes (entries.map Prod.fst) (pairs.map Prod.fst)
  | _, _, .reference denotes, same => by
    rw [Node.followed]
    exact denotes.exists_entries same
  | _, _, .scalar said, same => by
    rw [untagged_labelled] at same
    rcases scalarValue?_cases said with rfl | ⟨_, rfl⟩ | ⟨_, rfl⟩ | ⟨_, rfl⟩ | rfl <;> cases same
  | _, _, .sequence _, same => by
    rw [untagged_labelled] at same
    cases same
  | _, _, .mapping keys _ _, same => by
    rw [untagged_labelled] at same
    cases same
    exact ⟨_, _, _, rfl, keys⟩

/-- A node that denotes a text is a scalar with this text. -/
theorem spells {text : String} : ∀ {node : Node} {value : Value}, node.Denotes value →
    value = .string text → node.spells text = true
  | _, _, .reference denotes, same => by
    rw [Node.spells, Node.followed]
    exact denotes.spells same
  | _, _, .scalar said, same => by
    obtain ⟨-, rfl⟩ := labelled_eq_string_iff.mp same
    rcases scalarValue?_cases said with same | ⟨_, same⟩ | ⟨_, same⟩ | ⟨_, same⟩ | same <;>
      cases same
    exact beq_self_eq_true text
  | _, _, .sequence _, same => by
    obtain ⟨-, same⟩ := labelled_eq_string_iff.mp same
    cases same
  | _, _, .mapping _ _ _, same => by
    obtain ⟨-, same⟩ := labelled_eq_string_iff.mp same
    cases same

end Node.Denotes
end Yaml

/-! ### The check of a value -/

namespace Document
variable {value : Value} {pairs : List (Value × Value)} {part : String}

theorem entries?_eq_none_iff :
    value.entries? = none ↔ ∀ pairs, value.untagged ≠ .mapping pairs := by
  rw [Yaml.Value.entries?]
  cases value.untagged <;> simp

theorem entries?_of_mapping (mapping : value.untagged = .mapping pairs) :
    value.entries? = some pairs := by
  rw [Yaml.Value.entries?, mapping]

/-- The check fails on what is no mapping, and on nothing else for this reason. -/
theorem checkParts_eq_rootNotMapping_iff {found : String} :
    checkParts value = .error (.rootNotMapping found) ↔
      (∀ pairs, value.untagged ≠ .mapping pairs) ∧ found = value.kind := by
  rw [checkParts, ← entries?_eq_none_iff]
  cases value.entries? with
  | none => simp [eq_comm]
  | some pairs =>
    dsimp only
    split <;> simp

/-- The check does not look into the parts. -/
theorem checkParts_ne_malformed {location reason : String} :
    checkParts value ≠ .error (.malformed location reason) := by
  rw [checkParts]
  cases value.entries? with
  | none => simp
  | some pairs =>
    dsimp only
    split <;> simp

/-- A part is defined if its key is among the keys of a mapping. -/
def Defines (pairs : List (Value × Value)) (part : String) : Prop :=
  ∃ content, (.string part, content) ∈ pairs

theorem any_same_iff :
    (pairs.any fun pair => pair.1.same (.string part)) = true ↔ Defines pairs part := by
  simp [Value.same_string_iff, Defines]

/-- The check misses the first part that is not defined. -/
theorem checkParts_eq_missingPart_iff (mapping : value.untagged = .mapping pairs) :
    checkParts value = .error (.missingPart part) ↔
      ¬ Defines pairs part ∧ ∃ before after, partKeys = before ++ part :: after ∧
        ∀ earlier ∈ before, Defines pairs earlier := by
  have searched : partKeys.find? (fun part => !pairs.any fun pair => pair.1.same (.string part)) =
      some part ↔ _ := List.find?_eq_some_iff_append
  simp only [Bool.not_not, any_same_iff, Bool.not_eq_true', ← Bool.not_eq_true] at searched
  rw [← searched, checkParts, entries?_of_mapping mapping]
  dsimp only
  split <;> simp [*]

theorem checkParts_eq_ok_iff (mapping : value.untagged = .mapping pairs) :
    checkParts value = .ok () ↔ ∀ part ∈ partKeys, Defines pairs part := by
  have searched : partKeys.find? (fun part => !pairs.any fun pair => pair.1.same (.string part)) =
      none ↔ _ := List.find?_eq_none
  simp only [Bool.not_eq_true', Bool.not_eq_false, any_same_iff] at searched
  rw [← searched, checkParts, entries?_of_mapping mapping]
  dsimp only
  split <;> simp [*]

/-! ### The same parts in the tree -/

/-- A node that denotes a mapping has an entry for each part of the mapping, under a key that is a
scalar with the text of the part. -/
theorem exists_spells_of_key {node : Node} (denotes : node.Denotes value)
    (mapping : value.untagged = .mapping pairs) :
    ∃ entries, Reading.entries [] .mapping node = .ok entries ∧
      ∀ part, Defines pairs part → ∃ entry ∈ entries, entry.1.spells part = true := by
  obtain ⟨mark, tag, entries, followed, keys⟩ := denotes.exists_entries mapping
  refine ⟨entries, by rw [Reading.entries, followed], fun part ⟨content, listed⟩ => ?_⟩
  obtain ⟨key, member, denoted⟩ := exists_of_mem_forall₂ keys.flip (List.mem_map_of_mem listed)
  obtain ⟨entry, listed, rfl⟩ := List.mem_map.mp member
  exact ⟨entry, listed, denoted.spells rfl⟩

/-- A text that denotes a mapping has a tree that does. -/
theorem exists_root {source : Source} (denotes : source.Denotes value)
    (mapping : value.untagged = .mapping pairs) :
    ∃ root, source.root = some root ∧ root.Denotes value := by
  obtain ⟨-, denotes⟩ := denotes
  cases rooted : source.root with
  | none =>
    rw [rooted] at denotes
    subst denotes
    cases mapping
  | some root =>
    rw [rooted] at denotes
    exact ⟨root, rfl, denotes⟩

/-- What passes the check is a mapping. -/
theorem exists_mapping_of_checked (checked : checkParts value = .ok ()) :
    ∃ pairs, value.untagged = .mapping pairs := by
  by_contra other
  rw [checkParts, entries?_eq_none_iff.mpr fun pairs mapping => other ⟨pairs, mapping⟩] at checked
  cases checked

/-- Where the check has found all parts, reading does not miss one. -/
theorem ofNode_eq_readParts {node : Node} (denotes : node.Denotes value)
    (checked : checkParts value = .ok ()) :
    ofNode node = Reading.entries [] .mapping node >>= readParts node.mark := by
  obtain ⟨pairs, mapping⟩ := exists_mapping_of_checked checked
  obtain ⟨entries, read, spelled⟩ := exists_spells_of_key denotes mapping
  have present :
      partKeys.find? (fun key => !entries.any fun entry => entry.1.spells key) = none := by
    refine List.find?_eq_none.mpr fun part listed => ?_
    have defined := (checkParts_eq_ok_iff mapping).mp checked part listed
    obtain ⟨entry, member, spells⟩ := spelled part defined
    simp only [Bool.not_eq_true', Bool.not_eq_false, List.any_eq_true]
    exact ⟨entry, member, spells⟩
  rw [ofNode, read]
  change (readParts node.mark entries >>= fun document => _) = readParts node.mark entries
  rw [present]
  cases readParts node.mark entries <;> rfl

end Document
end CallSchema
