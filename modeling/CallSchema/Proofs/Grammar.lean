import CallSchema.Document.Load
import CallSchema.Proofs.Parts

/-!
The trees that are documents, said without reading them. The grammar asks for mappings, records and
scalars at each place; what counts as nothing and what as an offset is left to `Conventions`, since
a scalar may say one thing as a value and another where a document is read. `Agrees` ties a reader
to the trees that it accepts, one lemma for each reader, and `parse_isOk_iff` says that the texts
that are documents are those whose tree is in the grammar.
-/
namespace CallSchema
open Yaml (Node Path Mark Tag Source)

/-! ### The grammar -/

namespace Yaml.Node

/-- The text of a node that is a scalar. -/
def text? (node : Node) : Option String :=
  match node.followed with
  | .scalar _ _ _ text => some text
  | _ => none

/-- The entries of a node where a mapping is wanted; what is completely empty has none. -/
def entries? (node : Node) : Option (List (Node × Node)) :=
  match node.followed with
  | .mapping _ _ entries => some entries
  | .scalar _ _ .plain "" => some []
  | _ => none

end Yaml.Node

/-- Which nodes say that there is nothing, and which say an offset. -/
structure Conventions where
  isNothing : Node → Bool
  isOffset : Node → Bool

namespace Conventions

/-- Documents take what is empty or a spelling of nothing for nothing if it has no tag, and such a
spelling if it has the common tag. An offset is written without a minus sign, in a plain scalar or,
with the common tag, in a literal one. -/
def ofDocuments : Conventions where
  isNothing node :=
    match node.followed with
    | .scalar _ none .plain text => text.isEmpty || Yaml.Plain.isNull text
    | .scalar _ (some tag) .plain text => tag == Tag.null && Yaml.Plain.isNull text
    | _ => false
  isOffset node :=
    match node.followed with
    | .scalar _ tag style text =>
      (style == .plain || style == .literal && tag == some Tag.int) &&
        (Yaml.Plain.natural? text.toList).any (· < UInt64.size)
    | _ => false

/-- Tags aside, a plain scalar says nothing by its spelling, or by being empty if it has no tag, and
an offset if it is a whole number from zero to what 64 bits hold. -/
def tagsAside : Conventions where
  isNothing node :=
    match node.followed with
    | .scalar _ tag .plain text => Yaml.Plain.isNull text || (text.isEmpty && tag.isNone)
    | _ => false
  isOffset node :=
    match node.followed with
    | .scalar _ _ .plain text =>
      match Yaml.Plain.whole text.toList with
      | .fits number => decide (0 ≤ number ∧ number < UInt64.size)
      | _ => false
    | _ => false

end Conventions

namespace Grammar

/-- A scalar, whatever it says. -/
def Scalar (node : Node) : Prop := node.text?.isSome = true

/-- A mapping from scalars to nodes of one shape. -/
def Mapping (shape : Node → Prop) (node : Node) : Prop :=
  ∃ entries ∈ node.entries?, ∀ entry ∈ entries, Scalar entry.1 ∧ shape entry.2

/-- A mapping from scalars whose entries together are as asked. -/
def Record (parts : List (Node × Node) → Prop) (node : Node) : Prop :=
  ∃ entries ∈ node.entries?, (∀ entry ∈ entries, Scalar entry.1) ∧ parts entries

/-- What stands under one of the keys. -/
def valuesAt (keys : List String) (entries : List (Node × Node)) : List Node :=
  (entries.filter fun entry => entry.1.text?.any keys.contains).map Prod.snd

/-- One node of a shape at most. -/
def AtMostOne (shape : Node → Prop) (nodes : List Node) : Prop :=
  nodes.length ≤ 1 ∧ ∀ node ∈ nodes, shape node

/-- One node of a shape and no other. -/
def ExactlyOne (shape : Node → Prop) (nodes : List Node) : Prop :=
  nodes.length = 1 ∧ ∀ node ∈ nodes, shape node

variable (conventions : Conventions)

/-- Nothing, or a node of a shape. -/
def Optional (shape : Node → Prop) (node : Node) : Prop :=
  conventions.isNothing node = true ∨ shape node

/-- A function: its parameters are a mapping from scalars to scalars, if there are any. -/
def Signature : Node → Prop :=
  Record fun entries =>
    AtMostOne (Optional conventions (Mapping Scalar)) (valuesAt ["Parameters"] entries)

/-- A field: it has a type, and perhaps an offset. -/
def Field : Node → Prop :=
  Record fun entries =>
    ExactlyOne Scalar (valuesAt ["type", "Type"] entries) ∧
    AtMostOne (Optional conventions (conventions.isOffset · = true))
      (valuesAt ["offset", "Offset"] entries)

/-- A part of a document: it is there once at most, and is nothing or a mapping. -/
def Part (key : String) (shape : Node → Prop) (entries : List (Node × Node)) : Prop :=
  AtMostOne (Optional conventions (Mapping shape)) (valuesAt [key] entries)

/-- A document. Modules, structures and widths are mappings; the size of a backing type is any
node. -/
def Document : Node → Prop :=
  Record fun entries =>
    Part conventions "Modules" (Mapping (Signature conventions)) entries ∧
    Part conventions "Structures" (Mapping (Field conventions)) entries ∧
    Part conventions "HighLevelParameterTypes" (Mapping Scalar) entries ∧
    Part conventions "BackingParameterTypes" (fun _ => True) entries

section Decidable
variable {shape : Node → Prop} [DecidablePred shape] {parts : List (Node × Node) → Prop}
  [DecidablePred parts]

instance : DecidablePred Scalar := fun _ => inferInstanceAs (Decidable (_ = true))

instance : DecidablePred (Mapping shape) := fun node =>
  inferInstanceAs (Decidable (∃ entries ∈ node.entries?, _))

instance : DecidablePred (Record parts) := fun node =>
  inferInstanceAs (Decidable (∃ entries ∈ node.entries?, _))

instance : DecidablePred (AtMostOne shape) := fun _ => inferInstanceAs (Decidable (_ ∧ _))

instance : DecidablePred (ExactlyOne shape) := fun _ => inferInstanceAs (Decidable (_ ∧ _))

instance : DecidablePred (Optional conventions shape) := fun _ => inferInstanceAs (Decidable (_ ∨ _))

instance : DecidablePred (Signature conventions) :=
  inferInstanceAs (DecidablePred (Record _))

instance : DecidablePred (Field conventions) :=
  inferInstanceAs (DecidablePred (Record _))

instance {key : String} : DecidablePred (Part conventions key shape) := fun _ =>
  inferInstanceAs (Decidable (AtMostOne _ _))

instance : DecidablePred (Document conventions) :=
  inferInstanceAs (DecidablePred (Record _))

end Decidable

end Grammar
/-! ### Readers of scalars and mappings -/

namespace Reading
open Grammar
variable {α β : Type} {path : Path} {wanted : Wanted} {node : Node} {name : String}
  {entries : List (Node × Node)} {shape : Node → Prop}

theorem text_eq_ok_iff : text path wanted node = .ok name ↔ node.text? = some name := by
  rw [text, Yaml.Node.text?]
  generalize node.followed = followed
  cases followed <;> simp [unfit]

theorem text_isOk_iff : (∃ name, text path wanted node = .ok name) ↔ Scalar node := by
  simp only [text_eq_ok_iff]
  exact Option.isSome_iff_exists.symm

theorem entries_eq_ok_iff :
    Reading.entries path wanted node = .ok entries ↔ node.entries? = some entries := by
  rw [Reading.entries, Yaml.Node.entries?]
  generalize node.followed = followed
  split <;> simp_all [unfit]

theorem isAbsent_eq (node : Node) : isAbsent node = Conventions.ofDocuments.isNothing node := by
  simp only [isAbsent, Conventions.ofDocuments]
  generalize node.followed = followed
  split
  · rename_i tag text
    cases tag <;> rfl
  · rename_i other
    split <;> simp_all

/-- A reader accepts a node, wherever it stands, exactly if the node has a shape. -/
def Agrees (read : Path → Node → Except Misfit α) (shape : Node → Prop) (node : Node) : Prop :=
  ∀ path, (∃ result, read path node = .ok result) ↔ shape node

theorem symbol_agrees (node : Node) : Agrees symbol Scalar node := by
  intro path
  rw [← @text_isOk_iff path .string]
  simp [symbol, exceptMap_eq_ok_iff]

theorem optional_agrees {read : Path → Node → Except Misfit α} (inner : Agrees read shape node) :
    Agrees (fun path => optional (read path)) (Optional .ofDocuments shape) node := by
  intro path
  rw [Optional, ← inner path, ← isAbsent_eq]
  by_cases absent : isAbsent node <;> simp [optional, absent, exceptMap_eq_ok_iff]

theorem named_isOk_iff {read : Path → Node → Except Misfit α}
    (inner : ∀ entry ∈ entries, Agrees read shape entry.2) :
    (∃ result, named path read entries = .ok result) ↔
      ∀ entry ∈ entries, Scalar entry.1 ∧ shape entry.2 := by
  induction entries with
  | nil => simp [named]
  | cons head rest ih =>
    obtain ⟨key, value⟩ := head
    have later := ih fun entry member => inner entry (List.mem_cons_of_mem _ member)
    have here := inner (key, value) List.mem_cons_self (key.step :: path)
    rw [List.forall_mem_cons, ← later, ← here, ← @text_isOk_iff path .string]
    simp [named, bind_isOk_iff, Pure.pure, Except.pure, and_assoc]

/-- The entries of a mapping are read if the node is one. -/
theorem entries_named_isOk_iff {read : Path → Node → Except Misfit α} (path : Path)
    (inner : ∀ entries ∈ node.entries?, ∀ entry ∈ entries, Agrees read shape entry.2) :
    (∃ entries, Reading.entries path .mapping node = .ok entries ∧
        ∃ result, named path read entries = .ok result) ↔ Mapping shape node := by
  rw [Mapping]
  refine exists_congr fun entries => ?_
  rw [entries_eq_ok_iff]
  exact and_congr_right fun given => named_isOk_iff (inner entries given)

theorem table_agrees {κ : Type} [Named κ] {toName : String → κ}
    {read : Path → Node → Except Misfit α}
    (inner : ∀ entries ∈ node.entries?, ∀ entry ∈ entries, Agrees read shape entry.2) :
    Agrees (table toName read) (Mapping shape) node := by
  intro path
  rw [← entries_named_isOk_iff path inner]
  simp [table, bind_isOk_iff, Pure.pure, Except.pure]

theorem listing_agrees {read : Path → Node → Except Misfit α}
    (inner : ∀ entries ∈ node.entries?, ∀ entry ∈ entries, Agrees read shape entry.2) :
    Agrees (listing read) (Mapping shape) node := by
  intro path
  rw [← entries_named_isOk_iff path inner]
  simp [listing, bind_isOk_iff, Pure.pure, Except.pure]

theorem offset_agrees (node : Node) :
    Agrees offset (Conventions.ofDocuments.isOffset · = true) node := by
  intro path
  simp only [offset, Conventions.ofDocuments]
  generalize node.followed = followed
  cases followed with
  | scalar mark tag style text =>
    by_cases written : style = .plain ∨ style = .literal ∧ tag = some Tag.int
    · cases natural : Yaml.Plain.natural? text.toList with
      | none => simp [written, natural, unfit]
      | some number => by_cases fits : number < UInt64.size <;> simp [written, natural, fits, unfit]
    · simp [written, unfit]
  | _ => simp [unfit]

/-- The size of a backing type is any value, and a readable node is one. -/
theorem size_agrees (readable : node.Readable) : Agrees size (fun _ => True) node := by
  intro path
  obtain ⟨value, denotes⟩ := readable
  simp [size, Yaml.Node.value_eq_ok_iff.mpr denotes]

/-! ### Readers of records -/

/-- What is given for a field of a record. -/
def given (field? : String → Option String) (field : String) (entries : List (Node × Node)) :
    List Node :=
  (entries.filter fun entry => entry.1.text?.bind field? == some field).map Prod.snd

variable {field? : String → Option String} {mark : Mark} {taken : List String} {record : α}
  {take : String → Path → Node → α → Except Misfit α} {accepts : String → Node → Prop}

theorem given_cons (field : String) (key value : Node) (rest : List (Node × Node)) :
    given field? field ((key, value) :: rest) =
      if key.text?.bind field? = some field then value :: given field? field rest
      else given field? field rest := by
  by_cases same : key.text?.bind field? = some field <;> simp [given, same]

theorem atMostOne_cons {head : Node} {rest : List Node} :
    AtMostOne shape (head :: rest) ↔ rest = [] ∧ shape head := by
  cases rest <;> simp [AtMostOne]

/-- What is asked of the fields, once one more is given: that this one is not given again. -/
theorem forall_given_cons_iff {field : String} {key value : Node} {rest : List (Node × Node)}
    (known : key.text?.bind field? = some field) (fresh : field ∉ taken) :
    (∀ other, (other ∈ taken → given field? other ((key, value) :: rest) = []) ∧
        AtMostOne (accepts other) (given field? other ((key, value) :: rest))) ↔
      accepts field value ∧
        ∀ other, (other ∈ field :: taken → given field? other rest = []) ∧
          AtMostOne (accepts other) (given field? other rest) := by
  have given_own : given field? field ((key, value) :: rest) = value :: given field? field rest := by
    rw [given_cons, if_pos known]
  have given_other {other : String} (different : other ≠ field) :
      given field? other ((key, value) :: rest) = given field? other rest := by
    rw [given_cons, if_neg fun same => different (Option.some.inj (same.symm.trans known))]
  constructor
  · intro all
    have own := (all field).2
    rw [given_own, atMostOne_cons] at own
    refine ⟨own.2, fun other => ?_⟩
    by_cases same : other = field
    · subst same
      exact ⟨fun _ => own.1, by simp [own.1, AtMostOne]⟩
    · have others := all other
      rw [given_other same] at others
      exact ⟨fun member => others.1 ((List.mem_cons.mp member).resolve_left same), others.2⟩
  · rintro ⟨accepted, all⟩ other
    by_cases same : other = field
    · subst same
      refine ⟨fun member => absurd member fresh, ?_⟩
      rw [given_own, atMostOne_cons]
      exact ⟨(all other).1 List.mem_cons_self, accepted⟩
    · rw [given_other same]
      exact ⟨fun member => (all other).1 (List.mem_cons_of_mem _ member), (all other).2⟩

/-- A record is read if all keys are scalars, each field is given once at most and was not given
before, and what is given for it is accepted. The induction is on the entries; a field that is given
joins those given before. -/
theorem fields_isOk_iff (accepts : String → Node → Prop)
    (inner : ∀ entry ∈ entries, ∀ field, entry.1.text?.bind field? = some field → ∀ record,
      Agrees (fun path node => take field path node record) (accepts field) entry.2) :
    (∃ result, fields path mark field? take taken record entries = .ok result) ↔
      (∀ entry ∈ entries, Scalar entry.1) ∧
        ∀ field, (field ∈ taken → given field? field entries = []) ∧
          AtMostOne (accepts field) (given field? field entries) := by
  induction entries generalizing taken record with
  | nil => simp [fields, given, AtMostOne]
  | cons head rest ih =>
    obtain ⟨key, value⟩ := head
    have later {taken : List String} {record : α} := @ih taken record fun entry member =>
      inner entry (List.mem_cons_of_mem _ member)
    rw [List.forall_mem_cons, fields, bind_isOk_iff]
    simp only [text_eq_ok_iff]
    cases named : key.text? with
    | none => simp [Scalar, named]
    | some name =>
      cases known : field? name with
      | none => simp [Scalar, given_cons, named, known, later]
      | some field =>
        have bound : key.text?.bind field? = some field := by simp [named, known]
        by_cases again : field ∈ taken
        · apply iff_of_false
          · simp [known, again]
          · rintro ⟨-, all⟩
            have none := (all field).1 again
            rw [given_cons, if_pos bound] at none
            cases none
        · have here := inner (key, value) List.mem_cons_self field bound record (key.step :: path)
          rw [forall_given_cons_iff bound again, ← here, and_left_comm]
          simp [Scalar, named, known, again, bind_isOk_iff, later]

/-- What is read has something just if the record had it before or a field that brings it is
given. -/
theorem fields_has_iff (has : α → Prop) (field : String) {result : α}
    (takes : ∀ other path node record result, take other path node record = .ok result →
      (has result ↔ has record ∨ other = field))
    (read : fields path mark field? take taken record entries = .ok result) :
    has result ↔ has record ∨ given field? field entries ≠ [] := by
  induction entries generalizing taken record with
  | nil =>
    cases read
    simp [given]
  | cons head rest ih =>
    obtain ⟨key, value⟩ := head
    rw [fields, bind_eq_ok_iff] at read
    obtain ⟨name, named, read⟩ := read
    rw [text_eq_ok_iff] at named
    rw [given_cons, named, Option.bind_some]
    split at read
    · rename_i unknown
      simp [ih read, unknown]
    · rename_i other known
      split at read
      · cases read
      · obtain ⟨grown, taken, read⟩ := bind_eq_ok_iff.mp read
        rw [ih read, takes _ _ _ _ _ taken, known]
        by_cases same : other = field <;> simp [same]

theorem given_eq_valuesAt {field : String} (keys : List String)
    (spelled : ∀ name, field? name = some field ↔ name ∈ keys) :
    given field? field entries = valuesAt keys entries := by
  refine congrArg (List.map Prod.snd) (List.filter_congr fun entry _ => ?_)
  cases entry.1.text? with
  | none => rfl
  | some name =>
    rw [Bool.eq_iff_iff]
    simp [spelled]

theorem given_eq_nil {field : String} (unknown : ∀ name, field? name ≠ some field) :
    given field? field entries = [] := by
  have none : ∀ entry ∈ entries, ¬ (entry.1.text?.bind field? == some field) = true := by
    intro entry _
    cases entry.1.text? <;> simp [unknown]
  rw [given, List.filter_eq_nil_iff.mpr none, List.map_nil]

/-- A record of some fields is read if all keys are scalars, each field is given once at most, and
what is given for it is accepted. -/
theorem record_isOk_iff (accepts : String → Node → Prop) (names : List String)
    (known : ∀ name field, field? name = some field → field ∈ names)
    (inner : ∀ entry ∈ entries, ∀ field, entry.1.text?.bind field? = some field → ∀ record,
      Agrees (fun path node => take field path node record) (accepts field) entry.2) :
    (∃ result, fields path mark field? take [] record entries = .ok result) ↔
      (∀ entry ∈ entries, Scalar entry.1) ∧
        ∀ field ∈ names, AtMostOne (accepts field) (given field? field entries) := by
  rw [fields_isOk_iff accepts inner]
  refine and_congr_right fun _ => ⟨fun all field _ => (all field).2, fun all field => ?_⟩
  refine ⟨fun member => absurd member List.not_mem_nil, ?_⟩
  by_cases listed : field ∈ names
  · exact all field listed
  · rw [given_eq_nil fun name same => listed (known name field same)]
    simp [AtMostOne]

theorem exactlyOne_iff {nodes : List Node} :
    ExactlyOne shape nodes ↔ AtMostOne shape nodes ∧ nodes ≠ [] := by
  cases nodes with
  | nil => simp [ExactlyOne]
  | cons head rest => cases rest <;> simp [ExactlyOne, AtMostOne]

/-! ### Readers of documents -/

theorem signature_agrees (node : Node) :
    Agrees signature (Grammar.Signature .ofDocuments) node := by
  intro path
  let shape : Node → Prop := Optional .ofDocuments (Mapping Scalar)
  have parameters (node : Node) : Agrees (fun path => optional (listing symbol path)) shape node :=
    optional_agrees (listing_agrees fun _ _ entry _ => symbol_agrees entry.2)
  rw [signature, bind_isOk_iff, Grammar.Signature, Record]
  refine exists_congr fun entries => ?_
  rw [entries_eq_ok_iff]
  refine and_congr_right fun _ => ?_
  rw [record_isOk_iff (fun _ => shape) ["Parameters"], List.forall_mem_singleton,
    given_eq_valuesAt ["Parameters"]]
  · intro name
    simp
  · intro name field
    simp +contextual
  · intro entry _ field _ record path
    simp [bind_isOk_iff, Pure.pure, Except.pure, ← parameters entry.2 path]

theorem mem_fieldPart? (name part : String) (known : fieldPart? name = some part) :
    part ∈ ["type", "offset"] := by
  unfold fieldPart? at known
  split at known
  · simp_all
  · split at known <;> simp_all

theorem fieldPart?_eq_type_iff (name : String) :
    fieldPart? name = some "type" ↔ name ∈ ["type", "Type"] := by
  unfold fieldPart?
  split
  · simp_all
  · split <;> simp_all

theorem fieldPart?_eq_offset_iff (name : String) :
    fieldPart? name = some "offset" ↔ name ∈ ["offset", "Offset"] := by
  unfold fieldPart?
  split
  · rename_i type
    rcases (by simpa using type : name = "type" ∨ name = "Type") with rfl | rfl <;> decide
  · split <;> simp_all

/-- Reads the type or the offset of a field. -/
def takePart (part : String) (path : Path) (node : Node)
    (parts : Option Symbol × Option UInt64) : Except Misfit (Option Symbol × Option UInt64) := do
  if part == "type" then return (some (← symbol path node), parts.2)
  else return (parts.1, ← optional (offset path) node)

/-- The shape of a field's type or offset. -/
def partShape (part : String) : Node → Prop :=
  if part = "type" then Scalar
  else Optional .ofDocuments (Conventions.ofDocuments.isOffset · = true)

theorem takePart_agrees (part : String) (parts : Option Symbol × Option UInt64) (node : Node) :
    Agrees (fun path node => takePart part path node parts) (partShape part) node := by
  intro path
  by_cases type : part = "type"
  · simp [takePart, partShape, type, bind_isOk_iff, Pure.pure, Except.pure,
      ← symbol_agrees node path]
  · simp [takePart, partShape, type, bind_isOk_iff, Pure.pure, Except.pure,
      ← optional_agrees (offset_agrees node) path]

theorem takePart_hasType {part : String} {parts result : Option Symbol × Option UInt64}
    (read : takePart part path node parts = .ok result) :
    result.1.isSome = true ↔ parts.1.isSome = true ∨ part = "type" := by
  by_cases type : part = "type"
  · simp only [takePart, type, BEq.rfl, if_true, bind_eq_ok_iff] at read
    obtain ⟨_, _, ⟨⟩⟩ := read
    simp [type]
  · simp only [takePart, beq_eq_false_iff_ne.mpr type, Bool.false_eq_true, if_false,
      bind_eq_ok_iff] at read
    obtain ⟨_, _, ⟨⟩⟩ := read
    simp [type]

/-- A field is read if its parts are and the type is among them. -/
theorem field_isOk_iff : (∃ result, field path node = .ok result) ↔
    ∃ entries, Reading.entries path .field node = .ok entries ∧
      (∃ parts, fields path node.mark fieldPart? takePart [] (none, none) entries = .ok parts) ∧
        given fieldPart? "type" entries ≠ [] := by
  have unfolded : field path node = (do
      let entries ← Reading.entries path .field node
      let parts ← fields path node.mark fieldPart? takePart [] (none, none) entries
      parts.1.elim (.error ⟨path, node.mark, .missing "type"⟩) fun type =>
        .ok ⟨type, parts.2⟩) := by
    refine bind_congr fun entries => bind_congr fun parts => ?_
    cases parts.1 <;> rfl
  rw [unfolded, bind_isOk_iff]
  refine exists_congr fun entries => and_congr_right fun _ => ?_
  rw [bind_isOk_iff, ← exists_and_right]
  refine exists_congr fun parts => and_congr_right fun read => ?_
  have typed := fields_has_iff (fun parts : Option Symbol × Option UInt64 => parts.1.isSome = true)
    "type" (fun _ _ _ _ _ => takePart_hasType) read
  rw [Option.isSome_none, Bool.false_eq_true, false_or] at typed
  rw [← typed]
  cases parts.1 <;> simp

theorem field_agrees (node : Node) : Agrees field (Grammar.Field .ofDocuments) node := by
  intro path
  rw [field_isOk_iff, Grammar.Field, Record]
  refine exists_congr fun entries => ?_
  rw [entries_eq_ok_iff]
  refine and_congr_right fun _ => ?_
  rw [record_isOk_iff partShape ["type", "offset"] mem_fieldPart? fun entry _ part _ parts =>
    takePart_agrees part parts entry.2]
  have type : given fieldPart? "type" entries = _ :=
    given_eq_valuesAt ["type", "Type"] fieldPart?_eq_type_iff
  have offset : given fieldPart? "offset" entries = _ :=
    given_eq_valuesAt ["offset", "Offset"] fieldPart?_eq_offset_iff
  simp [type, offset, exactlyOne_iff, partShape]
  tauto

theorem part_agrees {κ β : Type} [Named κ] {read : Path → Node → Except Misfit (Table κ β)}
    (inner : Agrees read shape node) : Agrees (part read) (Optional .ofDocuments shape) node := by
  intro path
  rw [← optional_agrees inner path]
  simp [part, bind_isOk_iff, Pure.pure, Except.pure]

end Reading

/-! ### Readable trees -/

namespace Yaml.Node

/-- What is in a readable mapping is readable. -/
theorem readable_of_entries {node : Node} {entries : List (Node × Node)} (readable : node.Readable)
    (given : entries ∈ node.entries?) {entry : Node × Node} (member : entry ∈ entries) :
    entry.2.Readable := by
  obtain ⟨value, denotes⟩ := readable
  have followed := denotes.followed
  rw [entries?] at given
  split at given
  · rename_i mapping
    cases given
    rw [mapping] at followed
    cases followed with
    | mapping _ contents _ =>
      obtain ⟨content, -, denoted⟩ := exists_of_mem_forall₂ contents (List.mem_map_of_mem member)
      exact ⟨content, denoted⟩
  · cases given
    exact absurd member List.not_mem_nil
  · cases given

end Yaml.Node

/-! ### Documents -/

namespace Document
open Grammar Reading
variable {node : Node} {entries : List (Node × Node)}

/-- What is in a part of a document under a name. -/
def contentShape (key : String) : Node → Prop :=
  if key = modulesKey then Mapping (Grammar.Signature .ofDocuments)
  else if key = structuresKey then Mapping (Grammar.Field .ofDocuments)
  else if key = highLevelKey then Mapping Scalar
  else fun _ => True

/-- A part is read if it is nothing or a mapping with the content of the part. -/
theorem readPart_agrees (key : String) (document : Document) (readable : node.Readable) :
    Agrees (fun path node => readPart key path node document)
      (Optional .ofDocuments (Mapping (contentShape key))) node := by
  intro path
  have modules : Agrees (part (table id (table id signature))) _ node :=
    part_agrees (table_agrees fun _ _ entry _ =>
      table_agrees fun _ _ entry _ => signature_agrees entry.2)
  have structures : Agrees (part (table Symbol.mk (listing Reading.field))) _ node :=
    part_agrees (table_agrees fun _ _ entry _ =>
      listing_agrees fun _ _ entry _ => field_agrees entry.2)
  have highLevel : Agrees (part (table AddressWidth.mk (table Symbol.mk symbol))) _ node :=
    part_agrees (table_agrees fun _ _ entry _ =>
      table_agrees fun _ _ entry _ => symbol_agrees entry.2)
  have backing : Agrees (part (table Symbol.mk size)) _ node :=
    part_agrees (table_agrees fun _ given _ member =>
      size_agrees (Yaml.Node.readable_of_entries readable given member))
  by_cases first : key = modulesKey
  · simp only [readPart, contentShape, beq_iff_eq, if_pos first, bind_isOk_iff, ← modules path]
    simp [Pure.pure, Except.pure]
  by_cases second : key = structuresKey
  · simp only [readPart, contentShape, beq_iff_eq, if_neg first, if_pos second, bind_isOk_iff,
      ← structures path]
    simp [Pure.pure, Except.pure]
  by_cases third : key = highLevelKey
  · simp only [readPart, contentShape, beq_iff_eq, if_neg first, if_neg second, if_pos third,
      bind_isOk_iff, ← highLevel path]
    simp [Pure.pure, Except.pure]
  · simp only [readPart, contentShape, beq_iff_eq, if_neg first, if_neg second, if_neg third,
      bind_isOk_iff, ← backing path]
    simp [Pure.pure, Except.pure]

/-- The parts of a readable tree are read exactly if it is in the grammar. -/
theorem readParts_isOk_iff (readable : node.Readable) :
    (∃ document, Reading.entries [] .mapping node >>= readParts node.mark = .ok document) ↔
      Grammar.Document .ofDocuments node := by
  rw [bind_isOk_iff, Grammar.Document, Record]
  refine exists_congr fun entries => ?_
  rw [entries_eq_ok_iff]
  refine and_congr_right fun listed => ?_
  have spelled (key : String) (part : key ∈ partKeys) :
      given (fun name => if partKeys.contains name then some name else none) key entries =
        valuesAt [key] entries := by
    apply given_eq_valuesAt
    intro name
    by_cases same : name = key
    · simp [same, part]
    · simp [same]
  rw [readParts,
    record_isOk_iff (fun key => Optional .ofDocuments (Mapping (contentShape key))) partKeys]
  · refine and_congr_right fun _ => ?_
    rw [forall₂_congr fun key part => by rw [spelled key part]]
    simp [partKeys, Grammar.Part, contentShape, modulesKey, structuresKey, highLevelKey, backingKey]
  · intro name key known
    split at known
    · rename_i part
      cases known
      exact List.contains_iff_mem.mp part
    · cases known
  · intro entry member key _ document
    exact readPart_agrees key document (Yaml.Node.readable_of_entries readable listed member)

/-- **The texts that are documents.** A text that reads as a value, with all parts there, is a
document exactly if its tree is in the grammar. -/
theorem parse_isOk_iff (origin text : String) (value : Yaml.Value)
    (reads : (Source.ofText text).value = .ok value) (checked : checkParts value = .ok ()) :
    (∃ document, parse origin text = .ok document) ↔
      ∃ root ∈ (Source.ofText text).root, Grammar.Document .ofDocuments root := by
  obtain ⟨pairs, mapping⟩ := exists_mapping_of_checked checked
  obtain ⟨root, rooted, denotes⟩ := exists_root (Source.value_eq_ok_iff.mp reads) mapping
  have accepted := readParts_isOk_iff ⟨value, denotes⟩
  rw [← ofNode_eq_readParts denotes checked] at accepted
  rw [parse, ofSource, reads, rooted]
  simp only [checked, Option.getD_some, Option.mem_some_iff, exists_eq_left', ← accepted]
  cases ofNode root <;> simp

/-- A document with references, tags, unknown keys, numbers for names and a size that is none. -/
def tagged : String :=
  "Modules:\n  user32.dll: &shared\n    MoveWindow:\n      Parameters: !list\n        hWnd: HWND\n" ++
  "        1: ~\n      Remark: [any]\n    GetFocus: !none\n  gdi32.dll: *shared\n" ++
  "Structures:\n  POINT:\n    x:\n      Type: LONG\n      offset: !octets 0x10\n" ++
  "HighLevelParameterTypes: ~\nBackingParameterTypes:\n  LONG: [4]\n"

/-- It is in the grammar, and a document. -/
theorem tagged_parses : ∃ value, (Source.ofText tagged).value = .ok value ∧
    checkParts value = .ok () ∧ ∃ document, parse inMemory tagged = .ok document := by
  obtain ⟨value, reads, checked⟩ : ∃ value, (Source.ofText tagged).value = .ok value ∧
      checkParts value = .ok () := by decide +kernel
  exact ⟨value, reads, checked,
    (parse_isOk_iff inMemory tagged value reads checked).mpr (by decide +kernel)⟩

/-- A spelling of nothing under a tag of the document's own, in place of a part. -/
def taggedNothing : String :=
  "Modules: ! ~\nStructures:\nHighLevelParameterTypes:\nBackingParameterTypes:\n"

/-- A whole number with a minus sign in place of an offset. -/
def negativeZero : String :=
  "Modules:\nStructures:\n  S:\n    f:\n      type: T\n      offset: -0\n" ++
  "HighLevelParameterTypes:\nBackingParameterTypes:\n"

/-- A literal scalar under the common tag of whole numbers in place of an offset. -/
def literalOffset : String :=
  "Modules:\nStructures:\n  S:\n    f:\n      type: T\n      offset: !!int |-\n        4\n" ++
  "HighLevelParameterTypes:\nBackingParameterTypes:\n"

/-- Tags cannot be left aside. A spelling of nothing is not nothing under a tag of the document's
own, zero with a minus sign is no offset although it is a whole number that fits, and a literal
scalar is an offset under the tag of whole numbers. -/
theorem tagsAside_misjudges :
    ((∃ value, (Source.ofText taggedNothing).value = .ok value ∧ checkParts value = .ok ()) ∧
      (∃ root ∈ (Source.ofText taggedNothing).root, Grammar.Document .tagsAside root) ∧
      ¬ ∃ document, parse inMemory taggedNothing = .ok document) ∧
    ((∃ value, (Source.ofText negativeZero).value = .ok value ∧ checkParts value = .ok ()) ∧
      (∃ root ∈ (Source.ofText negativeZero).root, Grammar.Document .tagsAside root) ∧
      ¬ ∃ document, parse inMemory negativeZero = .ok document) ∧
    ((∃ value, (Source.ofText literalOffset).value = .ok value ∧ checkParts value = .ok ()) ∧
      (¬ ∃ root ∈ (Source.ofText literalOffset).root, Grammar.Document .tagsAside root) ∧
      ∃ document, parse inMemory literalOffset = .ok document) := by
  decide +kernel

end Document

end CallSchema
