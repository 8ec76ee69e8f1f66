import CallSchema.Proofs.Check

/-!
What the description of a function writes. Where there is no document, a description is the check of
that document: the reason is told in the same words and with the same exit code, whichever class of
failure it has come into on the way. Where there is a document, a description writes the parameters
of the function, or why the query has no answer; the exit code tells these two apart.
-/
namespace CallSchema

/-! ### Parameters as JSON -/

mutual

/-- A parameter holds no number with a fraction. -/
theorem Parameter.whole_toJson : (parameter : Parameter) → parameter.toJson.Whole
  | .mk name basicType size offset fields => by
    rw [Parameter.toJson]
    refine .object ?_
    simp only [List.forall_mem_cons]
    exact ⟨.string _, .string _, .int _, .int _, .array (whole_parametersJson fields),
      List.forall_mem_nil _⟩

theorem whole_parametersJson :
    (parameters : List Parameter) → ∀ item ∈ parametersJson parameters, item.Whole
  | [] => List.forall_mem_nil _
  | parameter :: rest => by
    rw [parametersJson, List.forall_mem_cons]
    exact ⟨parameter.whole_toJson, whole_parametersJson rest⟩

end

/-! ### Answers -/

section
variable {path : String} {content : FileContent} {document : Document} {error : LoadError}

/-- A query on a document that is there is a question to that document. -/
theorem Query.answer_of_loaded (query : Query)
    (loaded : Document.load path content = .ok document) :
    query.answer path content = document.describe query.module query.function query.width := by
  rw [Query.answer, loaded]

/-- A document that is there fails to answer only for a reason that lies in resolution. -/
theorem Document.describe_error {module function width : String} {failure : Failure}
    (failed : document.describe module function width = .error failure) :
    ∃ reason : ResolveError, failure = .resolution reason.message := by
  rw [Document.describe] at failed
  cases answered : document.parametersOf module function width with
  | ok parameters =>
    rw [answered] at failed
    cases failed
  | error reason =>
    rw [answered] at failed
    cases failed
    exact ⟨reason, rfl⟩

/-- Without a document, the description of a function is the check of that document. A wrong shape
keeps its words in a class of its own, and every other reason is told in words at once. -/
theorem describeFunction_eq_checkDocument (query : Query) (format : Format)
    (failed : Document.load path content = .error error) :
    describeFunction query path content format = checkDocument path content format := by
  have answered : query.answer path content = .error (.ofLoadError error) := by
    rw [Query.answer, failed]
  rw [describeFunction, checkDocument, failed, answered]
  -- A wrong shape and any other reason take different branches, which write the same.
  cases error <;> rfl

end

/-! ### What a description writes -/

namespace Writing
variable {query : Query} {path : String} {content : FileContent} {parameters : List Parameter}
  {reason : String}

/-- What is told in JSON of a query without an answer. -/
def unresolvedFields (query : Query) (reason : String) : List (String × Json) :=
  [("module", .string query.module), ("function", .string query.function),
    ("address_width", .string query.width), ("success", .bool false),
    ("resolution_error", .string reason)]

theorem whole_unresolvedFields (query : Query) (reason : String) :
    (Json.object (unresolvedFields query reason)).Whole := by
  refine .object ?_
  simp only [unresolvedFields, List.forall_mem_cons]
  exact ⟨.string _, .string _, .string _, .bool _, .string _, List.forall_mem_nil _⟩

theorem writes_describe_text (answered : query.answer path content = .ok parameters) :
    Writes (describeFunction query path content .text)
      (String.join ((CallSchema.parameterLines 0 parameters).map (· ++ "\n"))) .success := by
  rw [describeFunction, answered]
  exact (writes_lines (CallSchema.parameterLines 0 parameters)).returns ExitCode.success

theorem writes_describe_json (answered : query.answer path content = .ok parameters) :
    Writes (describeFunction query path content .json)
      ((Json.array (parametersJson parameters)).pretty ++ "\n") .success := by
  rw [describeFunction, answered]
  exact (writes_json (.array (parametersJson parameters))).returns ExitCode.success

theorem writes_describe_text_unresolved
    (answered : query.answer path content = .error (.resolution reason)) :
    Writes (describeFunction query path content .text) ("resolution error: " ++ reason ++ "\n")
      .findings := by
  rw [describeFunction, answered]
  exact (writes_line ("resolution error: " ++ reason)).returns ExitCode.findings

theorem writes_describe_json_unresolved
    (answered : query.answer path content = .error (.resolution reason)) :
    Writes (describeFunction query path content .json)
      ((Json.object (unresolvedFields query reason)).pretty ++ "\n") .findings := by
  rw [describeFunction, answered]
  exact (writes_json (.object (unresolvedFields query reason))).returns ExitCode.findings

/-- On a document that is there, the same code ends the description in both formats, and it is not
the one for a document that is not there. -/
theorem writes_describe_loaded (query : Query) {document : Document}
    (loaded : Document.load path content = .ok document) :
    ∃ (code : ExitCode) (lines text : String) (value : Json),
      Writes (describeFunction query path content .text) lines code ∧
      Writes (describeFunction query path content .json) (text ++ "\n") code ∧
      code ≠ .noDocument ∧ (∀ other, JsonText.IsText other text ↔ other = value) ∧
      match document.describe query.module query.function query.width with
      | .ok parameters => code = .success ∧
        lines = String.join ((CallSchema.parameterLines 0 parameters).map (· ++ "\n")) ∧
        value = .array (parametersJson parameters)
      | .error failure => code = .findings ∧ lines = failure.message ++ "\n" ∧
        ∃ (reason : String) (fields : List (String × Json)),
          failure = .resolution reason ∧ value = .object fields ∧
          fields.lookup "success" = some (.bool false) ∧
          fields.lookup "resolution_error" = some (.string reason) ∧
          fields.lookup "load_error" = none := by
  have asked := query.answer_of_loaded loaded
  cases answered : document.describe query.module query.function query.width with
  | ok parameters =>
    have answer := asked.trans answered
    have whole : (Json.array (parametersJson parameters)).Whole :=
      .array (whole_parametersJson parameters)
    exact ⟨.success, _, _, _, writes_describe_text answer, writes_describe_json answer, by decide,
      fun _ => JsonText.isText_pretty_iff whole, rfl, rfl, rfl⟩
  | error failure =>
    obtain ⟨reason, rfl⟩ := Document.describe_error answered
    have answer := asked.trans answered
    have whole := whole_unresolvedFields query reason.message
    exact ⟨.findings, _, _, _, writes_describe_text_unresolved answer,
      writes_describe_json_unresolved answer, by decide,
      fun _ => JsonText.isText_pretty_iff whole, rfl, rfl, _, _, rfl, rfl, rfl, rfl, rfl⟩

end Writing

/-- **A description and a check tell alike of a document that is not there.** Both end with the code
for it in the same cases, which are those without a document, and then they write the same octets.
On a document that is there, the code of a description tells an answer from a query without one, in
both formats. Its lines are those of the parameters, or the one for a query without an answer; in
JSON it is the array of the parameters, or an object that holds why there is no answer and has no
field for a document that is not there. -/
theorem describeFunction_exact (query : Query) (path : String) (content : FileContent)
    (before : ByteArray) (flushes : Bool) :
    let place : Sink := ⟨before, none, flushes⟩
    (∀ format : Format,
      (((describeFunction query path content format).runOn place).1 = .ok .noDocument ↔
        ((checkDocument path content format).runOn place).1 = .ok .noDocument) ∧
      (((checkDocument path content format).runOn place).1 = .ok .noDocument ↔
        ∃ error, Document.load path content = .error error)) ∧
    match Document.load path content with
    | .error _ => ∀ format : Format, (describeFunction query path content format).runOn place =
        (checkDocument path content format).runOn place
    | .ok document =>
      ∃ (code : ExitCode) (lines text : String) (value : Json),
        (describeFunction query path content .text).runOn place =
          (.ok code, ⟨before ++ lines.toUTF8, none, flushes⟩) ∧
        (describeFunction query path content .json).runOn place =
          (.ok code, ⟨before ++ (text ++ "\n").toUTF8, none, flushes⟩) ∧
        (∀ other, JsonText.IsText other text ↔ other = value) ∧
        match document.describe query.module query.function query.width with
        | .ok parameters => code = .success ∧
          lines = String.join ((parameterLines 0 parameters).map (· ++ "\n")) ∧
          value = .array (parametersJson parameters)
        | .error failure => code = .findings ∧ lines = failure.message ++ "\n" ∧
          ∃ (reason : String) (fields : List (String × Json)),
            failure = .resolution reason ∧ value = .object fields ∧
            fields.lookup "success" = some (.bool false) ∧
            fields.lookup "resolution_error" = some (.string reason) ∧
            fields.lookup "load_error" = none := by
  intro place
  cases loaded : Document.load path content with
  | error error =>
    have same (format : Format) := describeFunction_eq_checkDocument query format loaded
    refine ⟨fun format => ?_, fun format => by rw [same format]⟩
    rw [same format, ← loaded]
    exact ⟨.rfl, Writing.check_eq_noDocument_iff path content format before flushes⟩
  | ok document =>
    obtain ⟨code, lines, text, value, told, object, other, single, meant⟩ :=
      Writing.writes_describe_loaded query loaded
    refine ⟨fun format => ?_, code, lines, text, value, told.runOn before flushes,
      object.runOn before flushes, single, meant⟩
    have checked := Writing.check_eq_noDocument_iff path content format before flushes
    rw [loaded] at checked
    have described : ((describeFunction query path content format).runOn place).1 = .ok code := by
      cases format with
      | text => rw [told.runOn before flushes]
      | json => rw [object.runOn before flushes]
    refine ⟨?_, checked⟩
    rw [described, checked]
    simpa using other

end CallSchema
