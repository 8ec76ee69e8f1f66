import CallSchema.Proofs.Parts

/-!
The tiers of loading. A text that denotes no value, a value that is no mapping, a mapping without
one of the parts and a part that does not fit are failures of different kinds, and each is told only
where none of those before it is there, whatever else is wrong (`Document.parse_tiers`). The last
tier keeps to the parts: no reader of a part reports a missing one (`Reading.Spares`).
-/
namespace CallSchema
open Yaml (Node Path Mark Value Source)

/-! ### What readers report -/

namespace Reading
variable {α β : Type} {path : Path} {node : Node}

/-- Whatever a reader finds wrong, it misses no part of a document. -/
def Spares (result : Except Misfit α) : Prop :=
  ∀ misfit, result = .error misfit → ∀ part ∈ Document.partKeys, misfit.problem ≠ .missing part

theorem Spares.ok (value : α) : Spares (.ok value) := nofun

theorem Spares.bind {first : Except Misfit α} {second : α → Except Misfit β} (spares : Spares first)
    (each : ∀ value, Spares (second value)) : Spares (first >>= second) := by
  intro misfit failed
  rcases bind_eq_error_iff.mp failed with failed | ⟨value, -, failed⟩
  · exact spares misfit failed
  · exact each value misfit failed

theorem Spares.map {result : Except Misfit α} (spares : Spares result) (f : α → β) :
    Spares (result.map f) := by
  cases result with
  | error misfit =>
    rintro _ ⟨⟩
    exact spares misfit rfl
  | ok value => exact .ok (f value)

theorem unfit_spares (path : Path) (node : Node) (wanted : Wanted) :
    Spares (unfit path node wanted : Except Misfit α) := by
  rintro _ ⟨⟩ part -
  exact Problem.noConfusion

theorem text_spares (wanted : Wanted) : Spares (text path wanted node) := by
  rw [text]
  split
  · exact .ok _
  · exact unfit_spares path node wanted

theorem entries_spares (wanted : Wanted) : Spares (Reading.entries path wanted node) := by
  rw [Reading.entries]
  split
  · exact .ok _
  · exact .ok _
  · exact unfit_spares path node wanted

theorem symbol_spares (path : Path) (node : Node) : Spares (symbol path node) :=
  (text_spares .string).map Symbol.mk

theorem offset_spares (path : Path) (node : Node) : Spares (offset path node) := by
  rw [offset]
  split
  · split
    · split
      · split
        · exact .ok _
        · exact unfit_spares path node .offset
      · exact unfit_spares path node .offset
    · exact unfit_spares path node .offset
  · exact unfit_spares path node .offset

theorem size_spares (path : Path) (node : Node) : Spares (size path node) := by
  rw [size]
  split
  · exact .ok _
  · exact unfit_spares path node .mapping

section
variable {read : Path → Node → Except Misfit α} (inner : ∀ path node, Spares (read path node))
include inner

theorem optional_spares : Spares (optional (read path) node) := by
  rw [optional]
  split
  · exact .ok none
  · exact (inner path node).map some

theorem named_spares (entries : List (Node × Node)) : Spares (named path read entries) := by
  induction entries with
  | nil => exact .ok []
  | cons entry rest ih =>
    refine (text_spares .string).bind fun name => ?_
    refine (inner (entry.1.step :: path) entry.2).bind fun content => ?_
    exact ih.bind fun others => .ok _

theorem table_spares {κ : Type} [Named κ] (name : String → κ) (path : Path) (node : Node) :
    Spares (table name read path node) :=
  (entries_spares .mapping).bind fun entries => (named_spares inner entries).bind fun _ => .ok _

theorem listing_spares (path : Path) (node : Node) : Spares (listing read path node) :=
  (entries_spares .mapping).bind fun entries => (named_spares inner entries).bind fun _ => .ok _

end

/-- A record misses nothing by itself; what it reports is about a key, a repeated field or what a
field holds. -/
theorem fields_spares {mark : Mark} {field? : String → Option String}
    {take : String → Path → Node → α → Except Misfit α}
    (inner : ∀ field path node record, Spares (take field path node record)) {taken : List String}
    {record : α} (entries : List (Node × Node)) :
    Spares (fields path mark field? take taken record entries) := by
  induction entries generalizing taken record with
  | nil => exact .ok record
  | cons entry rest ih =>
    refine (text_spares .fieldName).bind fun name => ?_
    split
    · exact ih
    · rename_i field _
      split
      · rintro _ ⟨⟩ part -
        exact Problem.noConfusion
      · exact (inner field (entry.1.step :: path) entry.2 record).bind fun _ => ih

theorem signature_spares (path : Path) (node : Node) : Spares (signature path node) :=
  (entries_spares .signature).bind <| fields_spares fun _ _ _ _ =>
    (optional_spares (listing_spares symbol_spares)).bind fun _ => .ok _

/-- A field may miss its type, which is no part of a document. -/
theorem field_spares (path : Path) (node : Node) : Spares (field path node) := by
  refine (entries_spares .field).bind fun entries => ?_
  refine .bind (fields_spares ?_ entries) fun parts => ?_
  · intro part path node parts
    split
    · exact (symbol_spares path node).bind fun _ => .ok _
    · exact (optional_spares offset_spares).bind fun _ => .ok _
  · split
    · exact .ok _
    · rintro _ ⟨⟩ part listed same
      cases same
      exact absurd listed (by decide)

theorem part_spares {κ : Type} [Named κ] {read : Path → Node → Except Misfit (Table κ α)}
    (inner : ∀ path node, Spares (read path node)) : Spares (part read path node) :=
  (optional_spares inner).bind fun _ => .ok _

end Reading

/-! ### Documents -/

namespace Document
open Reading
variable {origin text : String} {value : Value} {pairs : List (Value × Value)} {root : Node}

theorem readPart_spares (key : String) (path : Path) (node : Node) (document : Document) :
    Spares (readPart key path node document) := by
  rw [readPart]
  split
  · exact (part_spares (table_spares (table_spares signature_spares id) id)).bind fun _ => .ok _
  · split
    · exact (part_spares (table_spares (listing_spares field_spares) Symbol.mk)).bind fun _ => .ok _
    · split
      · exact (part_spares (table_spares (table_spares symbol_spares Symbol.mk)
          AddressWidth.mk)).bind fun _ => .ok _
      · exact (part_spares (table_spares size_spares Symbol.mk)).bind fun _ => .ok _

/-- After the check, reading misses no part. -/
theorem ofNode_spares (denotes : root.Denotes value) (checked : checkParts value = .ok ()) :
    Spares (ofNode root) := by
  rw [ofNode_eq_readParts denotes checked]
  exact (entries_spares .mapping).bind (fields_spares readPart_spares)

theorem parse_of_not_denotes (unsaid : ¬ ∃ value, (Source.ofText text).Denotes value) :
    ∃ reason, parse origin text = .error (.invalid origin reason) := by
  rw [parse, ofSource]
  cases read : (Source.ofText text).value with
  | error fault => exact ⟨fault.message, rfl⟩
  | ok value => exact absurd ⟨value, Source.value_eq_ok_iff.mp read⟩ unsaid

section
variable (denotes : (Source.ofText text).Denotes value)
include denotes

/-- A value that fails the check fails to load for the same reason. -/
theorem parse_of_checkParts {error : StructuralError} (failed : checkParts value = .error error) :
    parse origin text = .error (.structural error) := by
  simp only [parse, ofSource, Source.value_eq_ok_iff.mpr denotes, failed]

/-- A value that passes the check is loaded as what its tree is read as. -/
theorem parse_of_ofNode (checked : checkParts value = .ok ()) :
    parse origin text = (ofNode ((Source.ofText text).root.getD .missing)).mapError fun misfit =>
      .structural (.malformed misfit.mark.text misfit.message) := by
  simp only [parse, ofSource, Source.value_eq_ok_iff.mpr denotes, checked]
  cases ofNode ((Source.ofText text).root.getD .missing) <;> rfl

theorem parse_ne_invalid {path reason : String} :
    parse origin text ≠ .error (.invalid path reason) := by
  cases checked : checkParts value with
  | error error => simp [parse_of_checkParts denotes checked]
  | ok _ =>
    rw [parse_of_ofNode denotes checked]
    cases ofNode ((Source.ofText text).root.getD .missing) <;> simp [Except.mapError]

/-- Failures of the check are told as they are, and those of reading in other words. -/
theorem parse_eq_structural_iff {error : StructuralError}
    (shape : ∀ location reason, error ≠ .malformed location reason) :
    parse origin text = .error (.structural error) ↔ checkParts value = .error error := by
  cases checked : checkParts value with
  | error other => simp [parse_of_checkParts denotes checked]
  | ok _ =>
    rw [parse_of_ofNode denotes checked]
    cases ofNode ((Source.ofText text).root.getD .missing) with
    | error misfit =>
      simpa [Except.mapError, eq_comm] using shape misfit.mark.text misfit.message
    | ok document => simp [Except.mapError]

/-- What is malformed was found after the check, by reading the tree. -/
theorem parse_eq_malformed_iff {location reason : String} :
    parse origin text = .error (.structural (.malformed location reason)) ↔
      checkParts value = .ok () ∧
        ∃ misfit, ofNode ((Source.ofText text).root.getD .missing) = .error misfit ∧
          location = misfit.mark.text ∧ reason = misfit.message := by
  cases checked : checkParts value with
  | error other =>
    have shape : other ≠ .malformed location reason := by
      rintro rfl
      exact checkParts_ne_malformed checked
    simp [parse_of_checkParts denotes checked, shape]
  | ok _ =>
    rw [parse_of_ofNode denotes checked]
    cases ofNode ((Source.ofText text).root.getD .missing) with
    | error misfit => simp [Except.mapError, eq_comm]
    | ok document => simp [Except.mapError]

theorem checkParts_eq_ok_iff_of_denotes : checkParts value = .ok () ↔
    (∃ document, parse origin text = .ok document) ∨ ∃ location reason,
      parse origin text = .error (.structural (.malformed location reason)) := by
  simp only [parse_eq_malformed_iff denotes]
  cases checked : checkParts value with
  | error other => simp [parse_of_checkParts denotes checked]
  | ok _ =>
    rw [parse_of_ofNode denotes checked]
    cases ofNode ((Source.ofText text).root.getD .missing) <;> simp [Except.mapError]

end

/-- **Failures of loading come in tiers.** A text is invalid exactly if it denotes no value. The
value is no mapping, tags aside, exactly if that is what is told. In a mapping the first part that
is not defined is told as missing, and none if all are defined; only then is there a document or
something malformed. What is malformed is never that a part is missing: the tree has an entry for
each part that is defined, and where all are, to read the tree is to read the parts that its entries
give. -/
theorem parse_tiers (origin text : String) :
    ((∃ reason, parse origin text = .error (.invalid origin reason)) ↔
      ¬ ∃ value, (Source.ofText text).Denotes value) ∧
    ∀ value, (Source.ofText text).Denotes value →
      (∀ found, parse origin text = .error (.structural (.rootNotMapping found)) ↔
        (∀ pairs, value.untagged ≠ .mapping pairs) ∧ found = value.kind) ∧
      ∀ pairs, value.untagged = .mapping pairs →
        (∀ part, parse origin text = .error (.structural (.missingPart part)) ↔
          ¬ Defines pairs part ∧ ∃ before after, partKeys = before ++ part :: after ∧
            ∀ earlier ∈ before, Defines pairs earlier) ∧
        ((∀ part ∈ partKeys, Defines pairs part) ↔
          (∃ document, parse origin text = .ok document) ∨ ∃ location reason,
            parse origin text = .error (.structural (.malformed location reason))) ∧
        ∃ root entries, (Source.ofText text).root = some root ∧
          Reading.entries [] .mapping root = .ok entries ∧
          (∀ part, Defines pairs part → ∃ entry ∈ entries, entry.1.spells part = true) ∧
          ((∀ part ∈ partKeys, Defines pairs part) →
            ofNode root = Reading.entries [] .mapping root >>= readParts root.mark) ∧
          ∀ location reason,
            parse origin text = .error (.structural (.malformed location reason)) →
            ∃ misfit, ofNode root = .error misfit ∧ location = misfit.mark.text ∧
              reason = misfit.message ∧ ∀ part ∈ partKeys, misfit.problem ≠ .missing part := by
  refine ⟨⟨?_, parse_of_not_denotes⟩, fun value denotes => ⟨fun found => ?_, fun pairs mapping =>
    ⟨fun part => ?_, ?_, ?_⟩⟩⟩
  · rintro ⟨reason, invalid⟩ ⟨value, denotes⟩
    exact parse_ne_invalid denotes invalid
  · rw [← checkParts_eq_rootNotMapping_iff]
    exact parse_eq_structural_iff denotes fun _ _ => nofun
  · rw [← checkParts_eq_missingPart_iff mapping]
    exact parse_eq_structural_iff denotes fun _ _ => nofun
  · rw [← checkParts_eq_ok_iff mapping, checkParts_eq_ok_iff_of_denotes denotes]
  · obtain ⟨root, rooted, denoted⟩ := exists_root denotes mapping
    obtain ⟨entries, read, spelled⟩ := exists_spells_of_key denoted mapping
    refine ⟨root, entries, rooted, read, spelled, fun defined => ?_,
      fun location reason malformed => ?_⟩
    · exact ofNode_eq_readParts denoted ((checkParts_eq_ok_iff mapping).mpr defined)
    · obtain ⟨checked, misfit, failed, place, told⟩ :=
        (parse_eq_malformed_iff denotes).mp malformed
      rw [rooted, Option.getD_some] at failed
      exact ⟨misfit, failed, place, told, ofNode_spares denoted checked misfit failed⟩

-- The first two parts do not fit, and the key of the third has a tag of its own.
example :
    (match parse inMemory "Modules: 7\n\"Structures\": [7]\n!own HighLevelParameterTypes: ~\n" with
      | .error error => error.message
      | .ok _ => "") = "required partition 'HighLevelParameterTypes' is undefined" := by
  decide +kernel

end Document
end CallSchema
