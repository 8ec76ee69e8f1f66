import CallSchema.Proofs.Describe

/-!
What is read back from JSON output. A finding and a parameter with its fields are each told by
their JSON value, and a value is told by its text; so the output of a command in JSON gives back the
findings or the parameters that it was written for. Reasons for having no document, and for having
no answer, are told under names of their own and are never taken for either.
-/
namespace CallSchema

/-! ### Values -/

theorem Json.word_inj {a b : UInt64} : word a = word b ↔ a = b := by
  rw [word, word, Json.int.injEq, Int.ofNat_inj, UInt64.toNat_inj]

theorem FindingKind.name_inj {a b : FindingKind} : a.name = b.name ↔ a = b := by
  cases a <;> cases b <;> simp [name]

namespace Finding

theorem symbolsJson_inj {symbols others : List Symbol} :
    symbolsJson symbols = symbolsJson others ↔ symbols = others := by
  rw [symbolsJson, symbolsJson, Json.array.injEq, List.map_inj_right]
  intro a b same
  exact Named.text_injective (Json.string.inj same)

/-- A finding is told by its JSON; the category tells a ring from symbols of one kind. -/
theorem eq_of_toJson {finding other : Finding} (same : finding.toJson = other.toJson) :
    finding = other := by
  cases finding with
  | symbols kind set =>
    cases other with
    | symbols kind' set' =>
      simp only [toJson, Json.object.injEq, List.cons.injEq, Prod.mk.injEq, Json.string.injEq,
        FindingKind.name_inj, symbolsJson_inj, true_and, and_true] at same
      obtain ⟨rfl, members⟩ := same
      have sets : set = set' := by
        cases set
        cases members
        rfl
      rw [sets]
    | cycle ring => simp [toJson] at same
  | cycle ring =>
    cases other with
    | symbols kind set => simp [toJson] at same
    | cycle ring' =>
      obtain ⟨⟨width⟩, ⟨start⟩, ⟨source⟩, ⟨target⟩, chain⟩ := ring
      obtain ⟨⟨width'⟩, ⟨start'⟩, ⟨source'⟩, ⟨target'⟩, chain'⟩ := ring'
      simp only [toJson, Json.object.injEq, List.cons.injEq, Prod.mk.injEq, Json.string.injEq,
        symbolsJson_inj, true_and, and_true] at same
      obtain ⟨rfl, rfl, rfl, rfl, rfl⟩ := same
      rfl

end Finding

/-- A report on the document of a path is told by its JSON, in the order of its findings. -/
theorem Report.toJson_inj {report other : Report} {path : String} :
    report.toJson path = other.toJson path ↔ report = other := by
  refine ⟨fun same => ?_, fun same => same ▸ rfl⟩
  obtain ⟨findings⟩ := report
  obtain ⟨others⟩ := other
  simp only [toJson, Json.object.injEq, List.cons.injEq, Prod.mk.injEq, Json.array.injEq,
    List.map_inj_right (fun _ _ => Finding.eq_of_toJson), true_and, and_true] at same
  rw [same.2]

-- Parameters hold lists of parameters, so the recursion goes over both.
mutual

/-- A parameter is told by its JSON, with its fields and theirs. -/
theorem Parameter.eq_of_toJson : (parameter other : Parameter) →
    parameter.toJson = other.toJson → parameter = other
  | .mk name ⟨basic⟩ size offset fields, .mk name' ⟨basic'⟩ size' offset' fields', same => by
    simp only [Parameter.toJson, Json.object.injEq, List.cons.injEq, Prod.mk.injEq,
      Json.string.injEq, Json.word_inj, Json.array.injEq, true_and, and_true] at same
    obtain ⟨named, based, sized, placed, within⟩ := same
    rw [named, based, sized, placed, eq_of_parametersJson fields fields' within]

theorem eq_of_parametersJson : (parameters others : List Parameter) →
    parametersJson parameters = parametersJson others → parameters = others
  | [], [], _ => rfl
  | [], _ :: _, same => nomatch same
  | _ :: _, [], same => nomatch same
  | parameter :: rest, other :: others, same => by
    rw [parametersJson, parametersJson, List.cons.injEq] at same
    rw [parameter.eq_of_toJson other same.1, eq_of_parametersJson rest others same.2]

end

/-- Findings are not told under the name of a reason for having no document. -/
theorem Report.toJson_ne_loadError (report : Report) (path detail : String) :
    report.toJson path ≠ .object (Writing.loadErrorFields path detail) := by
  simp [toJson, Writing.loadErrorFields]

/-! ### Output -/

/-- Values without fractions are told apart by what is written for them. -/
theorem Json.Whole.pretty_inj {value other : Json} (whole : value.Whole) (wholeToo : other.Whole) :
    value.pretty = other.pretty ↔ value = other := by
  refine ⟨fun same => ?_, fun same => same ▸ rfl⟩
  exact (JsonText.isText_pretty whole).unique (same ▸ JsonText.isText_pretty wholeToo)

namespace Writing
variable {α β : Type} {computation : Writing α} {other : Writing β} {value told : Json}
  {query : Query} {path : String} {content : FileContent}

/-- What a computation leaves on a place of its own with room for anything. -/
def output (computation : Writing α) : ByteArray := (computation.runOn {}).2.written

/-- The computation writes one JSON value, in which there is no number with a fraction. -/
structure Tells (computation : Writing α) (value : Json) : Prop where
  whole : value.Whole
  writes : ∃ result, Writes computation (value.pretty ++ "\n") result

/-- Computations that tell values have the same output exactly if they tell the same value. -/
theorem Tells.output_eq_iff (tells : Tells computation value) (tellsToo : Tells other told) :
    computation.output = other.output ↔ value = told := by
  obtain ⟨_, writes⟩ := tells.writes
  obtain ⟨_, writesToo⟩ := tellsToo.writes
  rw [output, output, writes.runOn, writesToo.runOn, ByteArray.append_right_inj]
  rw [String.toUTF8, String.toUTF8, String.toByteArray_inj, String.append_left_inj,
    tells.whole.pretty_inj tellsToo.whole]

theorem tells_report (path : String) (report : Report) :
    Tells (Writing.report .json path report) (report.toJson path) :=
  ⟨report.whole_toJson path, _, writes_json _⟩

theorem tells_loadError (path detail : String) :
    Tells (loadError .json path detail) (.object (loadErrorFields path detail)) :=
  ⟨whole_loadErrorFields path detail, _, writes_json _⟩

theorem tells_parameters (parameters : List Parameter) :
    Tells (Writing.parameters .json parameters) (.array (parametersJson parameters)) :=
  ⟨.array (whole_parametersJson parameters), _, writes_json _⟩

theorem tells_unresolved (query : Query) (reason : String) :
    Tells (unresolved .json query reason) (.object (unresolvedFields query reason)) :=
  ⟨whole_unresolvedFields query reason, _, writes_json _⟩

theorem tells_check {document : Document} (loaded : Document.load path content = .ok document) :
    Tells (checkDocument path content .json) (document.validate.toJson path) :=
  ⟨document.validate.whole_toJson path, _, writes_check_json loaded⟩

theorem tells_check_error {error : LoadError} (failed : Document.load path content = .error error) :
    Tells (checkDocument path content .json) (.object (loadErrorFields path error.message)) :=
  ⟨whole_loadErrorFields path error.message, _, writes_check_json_error failed⟩

theorem tells_describe {parameters : List Parameter}
    (answered : query.answer path content = .ok parameters) :
    Tells (describeFunction query path content .json) (.array (parametersJson parameters)) :=
  ⟨.array (whole_parametersJson parameters), _, writes_describe_json answered⟩

/-- Without an answer, a description tells an object, whatever the reason. -/
theorem exists_tells_describe {failure : Failure}
    (answered : query.answer path content = .error failure) :
    ∃ fields, Tells (describeFunction query path content .json) (.object fields) := by
  cases loaded : Document.load path content with
  | error error =>
    rw [describeFunction_eq_checkDocument query .json loaded]
    exact ⟨_, tells_check_error loaded⟩
  | ok document =>
    obtain ⟨reason, rfl⟩ :=
      Document.describe_error ((query.answer_of_loaded loaded).symm.trans answered)
    exact ⟨_, whole_unresolvedFields query reason.message, _,
      writes_describe_json_unresolved answered⟩

/-- Parameters are told apart by what is written for them. -/
theorem output_parameters_eq_iff {parameters others : List Parameter}
    (tells : Tells computation (.array (parametersJson parameters)))
    (tellsToo : Tells other (.array (parametersJson others))) :
    computation.output = other.output ↔ parameters = others := by
  rw [tells.output_eq_iff tellsToo, Json.array.injEq]
  exact ⟨eq_of_parametersJson parameters others, congrArg parametersJson⟩

/-- Parameters are told apart from an object by what is written for them. -/
theorem output_parameters_ne {parameters : List Parameter} {fields : List (String × Json)}
    (tells : Tells computation (.array (parametersJson parameters)))
    (tellsToo : Tells other (.object fields)) : computation.output ≠ other.output :=
  fun same => nomatch (tells.output_eq_iff tellsToo).mp same

end Writing

/-- **JSON output loses nothing.** For the document of a path, findings are told apart by what is
written for them, and from every reason for having no document; parameters are told apart by what is
written for them, and from every reason for having no answer or no document. So a check writes the
same as one that has findings only if it finds the same, and a description writes the same as one
that has an answer only if that is its answer. -/
theorem json_lossless (path : String) :
    (∀ findings others : List Finding,
      (Writing.report .json path ⟨findings⟩).output = (Writing.report .json path ⟨others⟩).output ↔
        findings = others) ∧
    (∀ (findings : List Finding) (detail : String),
      (Writing.report .json path ⟨findings⟩).output ≠
        (Writing.loadError .json path detail).output) ∧
    (∀ parameters others : List Parameter,
      (Writing.parameters .json parameters).output = (Writing.parameters .json others).output ↔
        parameters = others) ∧
    (∀ (parameters : List Parameter) (query : Query) (reason : String),
      (Writing.parameters .json parameters).output ≠
        (Writing.unresolved .json query reason).output) ∧
    (∀ (parameters : List Parameter) (detail : String),
      (Writing.parameters .json parameters).output ≠
        (Writing.loadError .json path detail).output) ∧
    (∀ content document, Document.load path content = .ok document → ∀ other,
      (checkDocument path content .json).output = (checkDocument path other .json).output ↔
        ∃ found, Document.load path other = .ok found ∧
          found.validate.findings = document.validate.findings) ∧
    ∀ query content parameters, Query.answer query path content = .ok parameters →
      ∀ (another : Query) (other : FileContent),
        (describeFunction query path content .json).output =
          (describeFunction another path other .json).output ↔
            another.answer path other = .ok parameters := by
  refine ⟨fun findings others => ?_, fun findings detail same => ?_, fun parameters others => ?_,
    fun parameters query reason => ?_, fun parameters detail => ?_,
    fun content document loaded other => ?_,
    fun query content parameters answered another other => ?_⟩
  · rw [(Writing.tells_report path _).output_eq_iff (Writing.tells_report path _),
      Report.toJson_inj, Report.mk.injEq]
  · exact Report.toJson_ne_loadError _ path detail
      (((Writing.tells_report path _).output_eq_iff (Writing.tells_loadError path detail)).mp same)
  · exact Writing.output_parameters_eq_iff (Writing.tells_parameters parameters)
      (Writing.tells_parameters others)
  · exact Writing.output_parameters_ne (Writing.tells_parameters parameters)
      (Writing.tells_unresolved query reason)
  · exact Writing.output_parameters_ne (Writing.tells_parameters parameters)
      (Writing.tells_loadError path detail)
  · cases otherwise : Document.load path other with
    | error error =>
      refine iff_of_false (fun same => ?_) (by simp)
      exact Report.toJson_ne_loadError _ path error.message
        (((Writing.tells_check loaded).output_eq_iff
          (Writing.tells_check_error otherwise)).mp same)
    | ok found =>
      rw [(Writing.tells_check loaded).output_eq_iff (Writing.tells_check otherwise),
        Report.toJson_inj, Report.mk.injEq]
      simp [eq_comm]
  · cases otherwise : another.answer path other with
    | error failure =>
      obtain ⟨fields, tells⟩ := Writing.exists_tells_describe otherwise
      exact iff_of_false (Writing.output_parameters_ne (Writing.tells_describe answered) tells)
        (by simp)
    | ok others =>
      rw [Writing.output_parameters_eq_iff (Writing.tells_describe answered)
        (Writing.tells_describe otherwise), Except.ok.injEq, eq_comm]

end CallSchema
