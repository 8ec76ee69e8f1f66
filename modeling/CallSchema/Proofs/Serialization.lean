import CallSchema.Document.Load
import CallSchema.Document.Serialized
import CallSchema.Proofs.Decimal
import CallSchema.Proofs.Members
import CallSchema.Proofs.Value

/-!
Documents read back from their JSON. A JSON value is seen as a tree, with strings and names in
quotes (`Json.node`); where its nodes are written and how deep a text may go does not matter here.
What the tree means without a shape is `Json.Means`, and what a reader of documents gets out of it
is `Reading.Reads`; each part of a document has a lemma for either. The two meet at the whole
document, which is read back as it was.
-/
namespace CallSchema
open Yaml (Node Path Mark Source)

/-! ### Entries under one name -/

/-- Two entries have one name, and what stands there is related. -/
def SameName {α β : Type} (related : α → β → Prop) (a : String × α) (b : String × β) : Prop :=
  a.1 = b.1 ∧ related a.2 b.2

section SameName
variable {α β : Type} {related : α → β → Prop} {entries : List (String × α)}

theorem SameName.of_related {a : α} {b : β} (name : String) (found : related a b) :
    SameName related (name, a) (name, b) := ⟨rfl, found⟩

theorem names_eq {others : List (String × β)}
    (each : List.Forall₂ (SameName related) entries others) :
    entries.map Prod.fst = others.map Prod.fst := by
  induction each with
  | nil => rfl
  | cons first _ ih => rw [List.map_cons, List.map_cons, first.1, ih]

theorem exists_sameName (inner : ∀ entry ∈ entries, ∃ other, related entry.2 other) :
    ∃ others, List.Forall₂ (SameName related) entries others := by
  apply exists_forall₂
  intro entry member
  obtain ⟨other, found⟩ := inner entry member
  exact ⟨(entry.1, other), .of_related entry.1 found⟩

end SameName

/-! ### JSON values as trees -/

namespace Json

/-- A scalar without quotes. -/
def bare (text : String) : Node := .scalar default none .plain text

/-- A scalar in quotes. -/
def quoted (text : String) : Node := .scalar default none .doubleQuoted text

mutual

/-- A JSON value as a tree. -/
def node : Json → Node
  | .null => bare "null"
  | .bool value => bare (if value then "true" else "false")
  | .int number => bare (Decimal.integer number)
  | .float number => bare (floatText number)
  | .string text => quoted text
  | .array items => .sequence default none (itemNodes items)
  | .object fields => .mapping default none (fieldNodes fields)

/-- Items as trees. -/
def itemNodes : List Json → List Node
  | [] => []
  | item :: rest => item.node :: itemNodes rest

/-- Fields as entries of a mapping. -/
def fieldNodes : List (String × Json) → List (Node × Node)
  | [] => []
  | (name, value) :: rest => (quoted name, value.node) :: fieldNodes rest

end

/-! ### What a tree means without a shape -/

/-- A JSON value, seen as a tree, is read as a value. -/
def Means (json : Json) (value : Yaml.Value) : Prop := ∀ path, json.node.value path = .ok value

/-- The document of a text that is a JSON value. -/
def source (json : Json) : Source := ⟨some json.node, true⟩

theorem source_value {json : Json} {value : Yaml.Value} (meant : json.Means value) :
    json.source.value = .ok value := by
  simp only [Source.value, source, meant [], if_true]

theorem means_null : Json.null.Means .null := fun _ => rfl

theorem means_bool (value : Bool) : (Json.bool value).Means (.bool value) := by
  intro path
  cases value <;> rfl

theorem means_int {number : Int} (lower : -(Nat.pow 2 63 : Int) ≤ number)
    (upper : number < Nat.pow 2 64) : (Json.int number).Means (.int number) := by
  intro path
  have meaning := Yaml.Plain.meaning_eq_int (Yaml.Plain.whole_integer lower upper)
  rw [node, bare, Node.value, Yaml.scalarValue?, meaning]
  rfl

theorem means_word (number : UInt64) : (word number).Means (.int number.toNat) := by
  have upper : number.toNat < Nat.pow 2 64 := number.toNat_lt
  apply means_int
  · omega
  · exact Int.ofNat_lt.mpr upper

theorem means_string (text : String) : (Json.string text).Means (.string text) := fun _ => rfl

theorem means_iff {json : Json} {value : Yaml.Value} :
    json.Means value ↔ json.node.Denotes value :=
  ⟨fun meant => Node.value_eq_ok_iff.mp (meant []),
    fun denotes _ => Node.value_eq_ok_iff.mpr denotes⟩

theorem means_array {items : List Json} {values : List Yaml.Value}
    (each : List.Forall₂ Means items values) : (Json.array items).Means (.sequence values) := by
  have denoted : List.Forall₂ Node.Denotes (itemNodes items) values := by
    induction each with
    | nil => exact .nil
    | cons first _ ih => exact .cons (means_iff.mp first) ih
  exact means_iff.mpr (.sequence denoted)

/-- Names are told apart as values as they are as texts. -/
theorem distinct_strings {names : List String} (distinct : names.Nodup) :
    Yaml.Distinct (names.map .string) := by
  refine List.pairwise_map.mpr (distinct.imp fun different => ?_)
  simpa [Yaml.Value.same] using different.symm

/-- The keys of fields are read as their names, and what stands there as what it means. -/
theorem denotes_fieldNodes {fields : List (String × Json)}
    {contents : List (String × Yaml.Value)}
    (each : List.Forall₂ (SameName Means) fields contents) :
    List.Forall₂ Node.Denotes ((fieldNodes fields).map Prod.fst)
        ((fields.map Prod.fst).map .string) ∧
      List.Forall₂ Node.Denotes ((fieldNodes fields).map Prod.snd) (contents.map Prod.snd) := by
  induction each with
  | nil => exact ⟨.nil, .nil⟩
  | cons first _ ih => exact ⟨.cons (.scalar rfl) ih.1, .cons (means_iff.mp first.2) ih.2⟩

theorem means_object {fields : List (String × Json)} {contents : List (String × Yaml.Value)}
    (distinct : (fields.map Prod.fst).Nodup)
    (each : List.Forall₂ (SameName Means) fields contents) :
    (Json.object fields).Means
      (.mapping (contents.map fun content => (.string content.1, content.2))) := by
  obtain ⟨keys, values⟩ := denotes_fieldNodes each
  have apart := distinct_strings distinct
  rw [names_eq each, List.map_map] at keys apart
  refine means_iff.mpr (.mapping ?_ ?_ ?_)
  · rw [List.map_map]
    exact keys
  · rw [List.map_map]
    exact values
  · rw [List.map_map]
    exact apart

/-- An object with distinct names means some mapping if all its fields mean something. -/
theorem exists_means_object {fields : List (String × Json)}
    (distinct : (fields.map Prod.fst).Nodup)
    (inner : ∀ field ∈ fields, ∃ value, field.2.Means value) :
    ∃ value, (Json.object fields).Means value := by
  obtain ⟨contents, each⟩ := exists_sameName inner
  exact ⟨_, means_object distinct each⟩

end Json

/-! ### Sizes -/

/-- Values that JSON holds as they are: no floating-point numbers, no tags, whole numbers that fit
64 bits with a sign or without, and mappings of distinct names. -/
inductive Yaml.Value.Serial : Yaml.Value → Prop
  | null : Serial .null
  | bool (value : Bool) : Serial (.bool value)
  | int {number : Int} (lower : -(Nat.pow 2 63 : Int) ≤ number) (upper : number < Nat.pow 2 64) :
    Serial (.int number)
  | string (text : String) : Serial (.string text)
  | sequence {items : List Yaml.Value} (inner : ∀ item ∈ items, Serial item) :
    Serial (.sequence items)
  | mapping {fields : List (String × Yaml.Value)} (distinct : (fields.map Prod.fst).Nodup)
    (inner : ∀ field ∈ fields, Serial field.2) :
    Serial (.mapping (fields.map fun field => (.string field.1, field.2)))

namespace Yaml.Value
variable {items : List Yaml.Value} {jsons : List Json} {contents : List (String × Yaml.Value)}
  {fields : List (String × Json)}

/-- A value becomes a JSON value, and is what that means. -/
def KeptAs (value : Yaml.Value) (json : Json) : Prop :=
  value.toJson? = some json ∧ json.Means value

theorem jsonItems?_eq (each : List.Forall₂ KeptAs items jsons) : jsonItems? items = some jsons := by
  induction each with
  | nil => rfl
  | cons first _ ih => rw [jsonItems?, first.1, ih]

theorem jsonFields?_eq (each : List.Forall₂ (SameName KeptAs) contents fields) :
    jsonFields? (contents.map fun content => (.string content.1, content.2)) = some fields := by
  induction each with
  | nil => rfl
  | cons first _ ih =>
    obtain ⟨named, kept⟩ := first
    rw [List.map_cons, jsonFields?, jsonKey?, kept.1, ih, named]

/-- Entries are what the fields mean that they become. -/
theorem means_of_keptAs (each : List.Forall₂ (SameName KeptAs) contents fields) :
    List.Forall₂ (SameName Json.Means) fields contents := by
  apply List.Forall₂.flip
  exact each.imp fun _ _ kept => ⟨kept.1.symm, kept.2.2⟩

theorem keptAs_array (each : List.Forall₂ KeptAs items jsons) :
    (sequence items).KeptAs (.array jsons) := by
  constructor
  · rw [toJson?, jsonItems?_eq each, Option.map_some]
  · apply Json.means_array
    exact List.Forall₂.flip (each.imp fun _ _ kept => kept.2)

theorem keptAs_object (distinct : (contents.map Prod.fst).Nodup)
    (each : List.Forall₂ (SameName KeptAs) contents fields) :
    (mapping (contents.map fun content => (.string content.1, content.2))).KeptAs
      (.object fields) := by
  constructor
  · rw [toJson?, jsonFields?_eq each, Option.map_some]
  · apply Json.means_object
    · rw [← names_eq each]
      exact distinct
    · exact means_of_keptAs each

/-- Such a value becomes a JSON value and is read back from it. The induction is on how the value is
built; what is in a collection is kept piece by piece. -/
theorem Serial.exists_keptAs {value : Yaml.Value} (serial : value.Serial) :
    ∃ json, value.KeptAs json := by
  induction serial with
  | null => exact ⟨.null, rfl, Json.means_null⟩
  | bool value => exact ⟨.bool value, rfl, Json.means_bool value⟩
  | int lower upper => exact ⟨.int _, rfl, Json.means_int lower upper⟩
  | string text => exact ⟨.string text, rfl, Json.means_string text⟩
  | sequence _ ih =>
    obtain ⟨jsons, each⟩ := exists_forall₂ ih
    exact ⟨.array jsons, keptAs_array each⟩
  | mapping distinct _ ih =>
    obtain ⟨fields, each⟩ := exists_sameName ih
    exact ⟨.object fields, keptAs_object distinct each⟩

end Yaml.Value

/-! ### Parts of a document without their shape -/

namespace Json
variable {β κ : Type} [Named κ] {toJson : β → Json}

theorem exists_means_symbol (name : Symbol) : ∃ value, name.toJson.Means value :=
  ⟨_, means_string name.name⟩

theorem exists_means_table (inner : ∀ content, ∃ value, (toJson content).Means value)
    (table : Table κ β) : ∃ value, (table.toJson toJson).Means value := by
  apply exists_means_object
  · simpa [Function.comp_def] using table.texts_nodup
  · intro field member
    obtain ⟨entry, _, rfl⟩ := List.mem_map.mp member
    exact inner entry.2

theorem exists_means_listing (inner : ∀ content, ∃ value, (toJson content).Means value)
    (listing : Listing β) : ∃ value, (listing.toJson toJson).Means value := by
  apply exists_means_object
  · simpa [Function.comp_def] using listing.distinct
  · intro field member
    obtain ⟨entry, _, rfl⟩ := List.mem_map.mp member
    exact inner entry.2

theorem exists_means_signature (function : Signature) : ∃ value, function.toJson.Means value := by
  obtain ⟨parameters⟩ := function
  cases parameters with
  | none => exact exists_means_object .nil (by simp)
  | some parameters =>
    have known := exists_means_listing exists_means_symbol parameters
    exact exists_means_object (by simp) (by simpa using known)

theorem exists_means_field (part : Field) : ∃ value, part.toJson.Means value := by
  obtain ⟨type, offset⟩ := part
  cases offset with
  | none => exact exists_means_object (by simp) (by simpa using exists_means_symbol type)
  | some number =>
    have known : ∃ value, (word number).Means value := ⟨_, means_word number⟩
    exact exists_means_object (by simp) (by simpa using ⟨exists_means_symbol type, known⟩)

end Json

/-! ### What readers get -/

namespace Reading
variable {α β κ : Type} [Named κ] {json : Json} {path : Path} {fields : List (String × Json)}

/-- A reader gets something out of a JSON value, seen as a tree. -/
def Reads (read : Path → Node → Except Misfit α) (json : Json) (result : α) : Prop :=
  ∀ path, read path json.node = .ok result

theorem reads_symbol (name : Symbol) : Reads symbol name.toJson name := fun _ => rfl

theorem reads_offset (number : UInt64) : Reads offset (.word number) number := by
  intro path
  have said := Yaml.Plain.natural?_natural number.toNat
  have fits : number.toNat < UInt64.size := number.toNat_lt
  simp [offset, Json.word, Json.node, Json.bare, Yaml.Node.followed, Decimal.integer, said, fits]

theorem reads_size {value : Yaml.Value} (meant : json.Means value) : Reads size json value := by
  intro path
  rw [size, meant path]

/-- What is there is read as something that is there. -/
theorem reads_optional {read : Path → Node → Except Misfit α} {result : α}
    (present : isAbsent json.node = false) (reads : Reads read json result) :
    Reads (fun path => optional (read path)) json (some result) := by
  intro path
  simp [optional, present, reads path, Except.map]

theorem named_fieldNodes {read : Path → Node → Except Misfit β} {entries : List (String × β)}
    (each : List.Forall₂ (SameName (Reads read)) fields entries) :
    named path read (Json.fieldNodes fields) = .ok entries := by
  induction each with
  | nil => rfl
  | @cons field entry rest others first _ ih =>
    obtain ⟨name, json⟩ := field
    obtain ⟨_, content⟩ := entry
    obtain ⟨rfl, reads⟩ := first
    rw [Json.fieldNodes, named, reads, ih]
    rfl

theorem entries_object (path : Path) (wanted : Wanted) (fields : List (String × Json)) :
    Reading.entries path wanted (Json.object fields).node = .ok (Json.fieldNodes fields) := rfl

theorem isAbsent_object (fields : List (String × Json)) :
    isAbsent (Json.object fields).node = false := rfl

/-- The entries of a listing are read back in their order. -/
theorem reads_listing {read : Path → Node → Except Misfit β} {values : Listing β}
    (each : List.Forall₂ (SameName (Reads read)) fields values.entries) :
    Reads (listing read) (.object fields) values := by
  intro path
  have bindings : named path read (Json.fieldNodes fields) = .ok values.entries :=
    named_fieldNodes each
  simp only [listing, entries_object, bindings, Bind.bind, Except.bind, Pure.pure, Except.pure,
    Listing.ofList_entries]

/-- The entries of a table are read back under their names. -/
theorem reads_table {toName : String → κ} (spells : ∀ name : κ, toName (Named.text name) = name)
    {read : Path → Node → Except Misfit β} {values : Table κ β}
    (each : List.Forall₂ (SameName (Reads read)) fields
      (values.entries.map fun entry => (Named.text entry.1, entry.2))) :
    Reads (table toName read) (.object fields) values := by
  intro path
  have bindings : named path read (Json.fieldNodes fields) = .ok _ := named_fieldNodes each
  have renamed : (values.entries.map fun entry => (Named.text entry.1, entry.2)).map
      (fun binding => (toName binding.1, binding.2)) = values.entries := by
    simp [Function.comp_def, spells]
  simp only [table, entries_object, bindings, Bind.bind, Except.bind, Pure.pure, Except.pure,
    renamed, Table.ofList_entries]

section Uniform
variable {toJson : β → Json} {read : Path → Node → Except Misfit β}

theorem reads_listing_toJson (inner : ∀ value, Reads read (toJson value) value)
    (values : Listing β) : Reads (listing read) (values.toJson toJson) values := by
  apply reads_listing
  rw [List.forall₂_map_left_iff, List.forall₂_same]
  exact fun entry _ => ⟨rfl, inner entry.2⟩

theorem reads_table_toJson {toName : String → κ}
    (spells : ∀ name : κ, toName (Named.text name) = name)
    (inner : ∀ value, Reads read (toJson value) value) (values : Table κ β) :
    Reads (table toName read) (values.toJson toJson) values := by
  apply reads_table spells
  rw [List.forall₂_map_left_iff, List.forall₂_map_right_iff, List.forall₂_same]
  exact fun entry _ => ⟨rfl, inner entry.2⟩

end Uniform

/-- A record is read by taking its first field, if that was not given before, and reading on. -/
theorem fields_fieldNodes_cons {field? : String → Option String}
    {take : String → Path → Node → α → Except Misfit α} {taken : List String} {mark : Mark}
    {record next result : α} {name field : String} (known : field? name = some field)
    (fresh : taken.contains field = false)
    (taking : take field (.key name :: path) json.node record = .ok next)
    (remaining : Reading.fields path mark field? take (field :: taken) next
      (Json.fieldNodes fields) = .ok result) :
    Reading.fields path mark field? take taken record (Json.fieldNodes ((name, json) :: fields)) =
      .ok result := by
  have spelled : text path .fieldName (Json.quoted name) = .ok name := rfl
  have step : (Json.quoted name).step = .key name := rfl
  rw [Json.fieldNodes, Reading.fields, spelled]
  simp only [Bind.bind, Except.bind, known, fresh, step, taking]
  exact remaining

theorem reads_signature (function : Signature) : Reads signature function.toJson function := by
  intro path
  obtain ⟨parameters⟩ := function
  cases parameters with
  | none => rfl
  | some parameters =>
    have read := reads_optional (isAbsent_object _)
      (reads_listing_toJson reads_symbol parameters) (.key "Parameters" :: path)
    refine bind_eq_ok_iff.mpr ⟨_, entries_object .., fields_fieldNodes_cons rfl rfl ?_ rfl⟩
    exact bind_eq_ok_iff.mpr ⟨some parameters, read, rfl⟩

/-- Digits are no spelling of nothing. -/
theorem isAbsent_word (number : UInt64) : isAbsent (Json.word number).node = false := by
  have said := Yaml.Plain.whole_natural number.toNat_lt
  have notNull := Yaml.Plain.isNull_eq_false said
  have notEmpty := Yaml.Plain.ne_of_whole said "" (by decide)
  simp [isAbsent, Json.word, Json.node, Json.bare, Yaml.Node.followed, Decimal.integer, notNull,
    notEmpty]

theorem reads_field (part : Field) : Reads field part.toJson part := by
  intro path
  obtain ⟨type, offset⟩ := part
  cases offset with
  | none => rfl
  | some number =>
    have read := reads_optional (isAbsent_word number) (reads_offset number)
      (.key "offset" :: path)
    refine bind_eq_ok_iff.mpr ⟨_, entries_object .., bind_eq_ok_iff.mpr
      ⟨(some type, some number), fields_fieldNodes_cons rfl rfl rfl ?_, rfl⟩⟩
    refine fields_fieldNodes_cons rfl rfl ?_ rfl
    exact bind_eq_ok_iff.mpr ⟨some number, read, rfl⟩

theorem reads_part {read : Path → Node → Except Misfit (Table κ β)} {values : Table κ β}
    (present : isAbsent json.node = false) (reads : Reads read json values) :
    Reads (part read) json values := by
  intro path
  exact bind_eq_ok_iff.mpr ⟨some values, reads_optional present reads path, rfl⟩

end Reading

/-! ### Documents -/

namespace Document
open Reading
variable {document : Document} {backing : Json}

/-- The JSON of a document, given that of its backing types. -/
def jsonOf (document : Document) (backing : Json) : Json :=
  .object [
    ("Modules", document.modules.toJson (Table.toJson Signature.toJson)),
    ("Structures", document.structures.toJson (Listing.toJson Field.toJson)),
    ("HighLevelParameterTypes", document.highLevel.toJson (Table.toJson Symbol.toJson)),
    ("BackingParameterTypes", backing)]

/-- Each part of a document is read back, so the document is. -/
theorem ofNode_jsonOf (present : isAbsent backing.node = false)
    (sizes : Reads (table Symbol.mk size) backing document.backing) :
    ofNode (jsonOf document backing).node = .ok document := by
  have modules : Reads (part (table id (table id signature))) _ document.modules :=
    reads_part (isAbsent_object _) (reads_table_toJson (fun _ => rfl)
      (reads_table_toJson (fun _ => rfl) reads_signature) document.modules)
  have structures : Reads (part (table Symbol.mk (listing field))) _ document.structures :=
    reads_part (isAbsent_object _) (reads_table_toJson (fun _ => rfl)
      (reads_listing_toJson reads_field) document.structures)
  have highLevel :
      Reads (part (table AddressWidth.mk (table Symbol.mk symbol))) _ document.highLevel :=
    reads_part (isAbsent_object _) (reads_table_toJson (fun _ => rfl)
      (reads_table_toJson (fun _ => rfl) reads_symbol) document.highLevel)
  have backing := reads_part present sizes
  refine bind_eq_ok_iff.mpr ⟨_, entries_object .., bind_eq_ok_iff.mpr ⟨document, ?_, rfl⟩⟩
  refine fields_fieldNodes_cons rfl rfl (bind_eq_ok_iff.mpr ⟨_, modules _, rfl⟩) ?_
  refine fields_fieldNodes_cons rfl rfl (bind_eq_ok_iff.mpr ⟨_, structures _, rfl⟩) ?_
  refine fields_fieldNodes_cons rfl rfl (bind_eq_ok_iff.mpr ⟨_, highLevel _, rfl⟩) ?_
  exact fields_fieldNodes_cons rfl rfl (bind_eq_ok_iff.mpr ⟨_, backing _, rfl⟩) rfl

/-- Without a shape, the JSON of a document means a mapping with all parts. -/
theorem exists_value_jsonOf (meant : ∃ value, backing.Means value) :
    ∃ value, (jsonOf document backing).Means value ∧ checkParts value = .ok () := by
  obtain ⟨modules, meansModules⟩ :=
    Json.exists_means_table (Json.exists_means_table Json.exists_means_signature) document.modules
  obtain ⟨structures, meansStructures⟩ :=
    Json.exists_means_table (Json.exists_means_listing Json.exists_means_field) document.structures
  obtain ⟨highLevel, meansHighLevel⟩ :=
    Json.exists_means_table (Json.exists_means_table Json.exists_means_symbol) document.highLevel
  obtain ⟨sizes, meansSizes⟩ := meant
  let contents : List (String × Yaml.Value) :=
    [("Modules", modules), ("Structures", structures), ("HighLevelParameterTypes", highLevel),
      ("BackingParameterTypes", sizes)]
  have each : List.Forall₂ (SameName Json.Means) _ contents :=
    .cons (.of_related _ meansModules) <| .cons (.of_related _ meansStructures) <|
      .cons (.of_related _ meansHighLevel) <| .cons (.of_related _ meansSizes) .nil
  exact ⟨_, Json.means_object (by simp) each, rfl⟩

/-- Backing types become fields one by one. -/
theorem mapM_sizes {entries : List (Symbol × Yaml.Value)} {fields : List (String × Json)}
    (each : List.Forall₂ (SameName Yaml.Value.KeptAs)
      (entries.map fun entry => (entry.1.name, entry.2)) fields) :
    entries.mapM (fun entry => entry.2.toJson?.map fun size => (entry.1.name, size)) =
      some fields := by
  induction entries generalizing fields with
  | nil =>
    cases each
    rfl
  | cons entry rest ih =>
    cases each with
    | @cons _ field _ others first remaining =>
      obtain ⟨name, json⟩ := field
      obtain ⟨rfl, kept⟩ := first
      have size : entry.2.toJson? = some json := kept.1
      simp [List.mapM_cons, size, ih remaining]

/-- **Serialization loses nothing.** A document with sizes that JSON holds becomes a JSON value, and
the tree of that value is read back as the same document. -/
theorem ofSource_toJson (origin : String) (document : Document)
    (serial : ∀ size ∈ document.backing.values, size.Serial) :
    ∃ json, document.toJson? = some json ∧ ofSource origin json.source = .ok document := by
  let contents := document.backing.entries.map fun entry => (entry.1.name, entry.2)
  have kept : ∀ content ∈ contents, ∃ json, content.2.KeptAs json := by
    intro content member
    obtain ⟨entry, listed, rfl⟩ := List.mem_map.mp member
    exact (serial entry.2 (List.mem_map.mpr ⟨entry, listed, rfl⟩)).exists_keptAs
  obtain ⟨fields, each⟩ := exists_sameName kept
  have written : document.toJson? = some (jsonOf document (.object fields)) := by
    simp only [toJson?, backingJson?, mapM_sizes each]
    rfl
  have means := Yaml.Value.means_of_keptAs each
  have distinct : (fields.map Prod.fst).Nodup := by
    rw [← names_eq each, List.map_map]
    exact document.backing.texts_nodup
  have sizes : Reads (table Symbol.mk size) (.object fields) document.backing :=
    reads_table (fun _ => rfl) (means.imp fun _ _ field => ⟨field.1, reads_size field.2⟩)
  obtain ⟨value, meant, checked⟩ :
      ∃ value, (jsonOf document (.object fields)).Means value ∧ checkParts value = .ok () :=
    exists_value_jsonOf ⟨_, Json.means_object distinct means⟩
  have read : ofNode (jsonOf document (.object fields)).node = .ok document :=
    ofNode_jsonOf (isAbsent_object fields) sizes
  refine ⟨_, written, ?_⟩
  rw [ofSource, Json.source_value meant]
  simp only [checked, Json.source, Option.getD_some, read]

/-- A document of names that would say something else without quotes, with functions that give no
parameters, an empty list and two, with and without an offset, and with sizes of all kinds. -/
def misnamed : Document where
  modules := .ofList [("null", .ofList [("", ⟨none⟩), ("1", ⟨some .empty⟩),
    ("~", ⟨some (.ofList [("true", ⟨"~"⟩), ("0x10", ⟨""⟩)])⟩)])]
  structures := .ofList [(⟨"-.inf"⟩, .ofList [("type", ⟨⟨"010"⟩, none⟩),
    ("offset", ⟨⟨"null"⟩, some 18446744073709551615⟩)])]
  highLevel := .ofList [(⟨""⟩, .ofList [(⟨"~"⟩, ⟨"false"⟩)])]
  backing := ⟨[(⟨"4"⟩, .mapping [(.string "", .int (-9223372036854775808)),
    (.string "~", .sequence [.null, .bool true, .string "4"])]), (⟨"LONG"⟩, .int 4)], by decide⟩

/-- It is restored from its JSON. -/
theorem misnamed_restored : (∀ size ∈ misnamed.backing.values, size.Serial) ∧
    ∃ json, misnamed.toJson? = some json ∧ ofSource inMemory json.source = .ok misnamed := by
  have number : (Yaml.Value.int 4).Serial := .int (by decide) (by decide)
  have items : (Yaml.Value.sequence [.null, .bool true, .string "4"]).Serial := by
    apply Yaml.Value.Serial.sequence
    simp [Yaml.Value.Serial.null, Yaml.Value.Serial.bool, Yaml.Value.Serial.string]
  have least : (Yaml.Value.int (-9223372036854775808)).Serial := .int (by decide) (by decide)
  have mapping := @Yaml.Value.Serial.mapping [("", .int (-9223372036854775808)),
    ("~", .sequence [.null, .bool true, .string "4"])] (by decide) (by simp [least, items])
  have serial : ∀ size ∈ misnamed.backing.values, size.Serial := by
    intro size member
    rcases List.mem_cons.mp member with rfl | member
    · exact mapping
    · rw [List.mem_singleton.mp member]
      exact number
  exact ⟨serial, ofSource_toJson inMemory misnamed serial⟩

end Document

end CallSchema
