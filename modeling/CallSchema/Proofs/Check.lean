import CallSchema.Proofs.JsonText
import CallSchema.Proofs.Writing

/-!
What the check of a document writes. Both formats end with the same exit code, which tells a
document without findings from one with findings and both from a document that is not there. Lines
are what the findings read like, in the order of the report; in JSON there is one object, which
holds the findings or the reason why there is no document.
-/
namespace CallSchema

/-! ### Findings as JSON -/

theorem Finding.whole_symbolsJson (symbols : List Symbol) : (symbolsJson symbols).Whole := by
  refine .array fun item member => ?_
  obtain ⟨symbol, _, rfl⟩ := List.mem_map.mp member
  exact .string symbol.name

/-- A finding holds no number. -/
theorem Finding.whole_toJson (finding : Finding) : finding.toJson.Whole := by
  cases finding with
  | symbols kind set =>
    refine .object ?_
    simp only [List.forall_mem_cons]
    exact ⟨.string _, .string _, whole_symbolsJson set.symbols, List.forall_mem_nil _⟩
  | cycle ring =>
    refine .object ?_
    simp only [List.forall_mem_cons]
    exact ⟨.string _, .string _, .string _, .string _, .string _, whole_symbolsJson ring.chain,
      List.forall_mem_nil _⟩

theorem Report.whole_toJson (report : Report) (path : String) : (report.toJson path).Whole := by
  have findings : (Json.array (report.findings.map Finding.toJson)).Whole := by
    refine .array fun item member => ?_
    obtain ⟨finding, _, rfl⟩ := List.mem_map.mp member
    exact finding.whole_toJson
  refine .object ?_
  simp only [List.forall_mem_cons]
  exact ⟨.string _, .bool _, findings, List.forall_mem_nil _⟩

/-! ### What a check writes -/

namespace Writing
variable {path : String} {content : FileContent} {document : Document} {error : LoadError}

/-- What is told in JSON of a document that is not there. -/
def loadErrorFields (path detail : String) : List (String × Json) :=
  [("definitions", .string path), ("success", .bool false), ("load_error", .string detail)]

theorem whole_loadErrorFields (path detail : String) :
    (Json.object (loadErrorFields path detail)).Whole := by
  refine .object ?_
  simp only [loadErrorFields, List.forall_mem_cons]
  exact ⟨.string _, .bool _, .string _, List.forall_mem_nil _⟩

/-- The exit code for a report. -/
def codeOf (report : Report) : ExitCode := if report.isSuccess then .success else .findings

theorem codeOf_ne_noDocument (report : Report) : codeOf report ≠ .noDocument := by
  rw [codeOf]
  split <;> decide

theorem codeOf_eq_success_iff {report : Report} :
    codeOf report = .success ↔ report.findings = [] := by
  rw [← List.isEmpty_iff, codeOf, Report.isSuccess]
  split
  · exact iff_of_true rfl ‹_›
  · exact iff_of_false (by decide) ‹_›

theorem codeOf_eq_findings_iff {report : Report} :
    codeOf report = .findings ↔ report.findings ≠ [] := by
  rw [Ne, ← List.isEmpty_iff, codeOf, Report.isSuccess]
  split
  · exact iff_of_false (by decide) (not_not_intro ‹_›)
  · exact iff_of_true rfl ‹_›

theorem writes_check_text_error (failed : Document.load path content = .error error) :
    Writes (checkDocument path content .text) ("document load error: " ++ error.message ++ "\n")
      .noDocument := by
  rw [checkDocument, failed]
  exact (writes_line ("document load error: " ++ error.message)).returns ExitCode.noDocument

theorem writes_check_json_error (failed : Document.load path content = .error error) :
    Writes (checkDocument path content .json)
      ((Json.object (loadErrorFields path error.message)).pretty ++ "\n") .noDocument := by
  rw [checkDocument, failed]
  exact (writes_json (.object (loadErrorFields path error.message))).returns ExitCode.noDocument

theorem writes_check_text (loaded : Document.load path content = .ok document) :
    Writes (checkDocument path content .text)
      (String.join (document.validate.findings.map fun finding => finding.display ++ "\n"))
      (codeOf document.validate) := by
  have lines := writes_lines (document.validate.findings.map Finding.display)
  rw [List.map_map] at lines
  rw [checkDocument, loaded]
  exact lines.returns (codeOf document.validate)

theorem writes_check_json (loaded : Document.load path content = .ok document) :
    Writes (checkDocument path content .json) ((document.validate.toJson path).pretty ++ "\n")
      (codeOf document.validate) := by
  rw [checkDocument, loaded]
  exact (writes_json (document.validate.toJson path)).returns (codeOf document.validate)

/-- A check ends with the code for a document that is not there exactly if there is none. -/
theorem check_eq_noDocument_iff (path : String) (content : FileContent) (format : Format)
    (before : ByteArray) (flushes : Bool) :
    ((checkDocument path content format).runOn ⟨before, none, flushes⟩).1 = .ok .noDocument ↔
      ∃ error, Document.load path content = .error error := by
  cases loaded : Document.load path content with
  | error error =>
    refine iff_of_true ?_ ⟨error, rfl⟩
    cases format with
    | text => rw [(writes_check_text_error loaded).runOn]
    | json => rw [(writes_check_json_error loaded).runOn]
  | ok document =>
    have found := codeOf_ne_noDocument document.validate
    refine iff_of_false ?_ (by simp)
    cases format with
    | text => simpa [(writes_check_text loaded).runOn] using found
    | json => simpa [(writes_check_json loaded).runOn] using found

end Writing

/-- Lines are no text only if there are none. -/
theorem join_lines_eq_empty_iff {α : Type} {items : List α} {display : α → String} :
    String.join (items.map fun item => display item ++ "\n") = "" ↔ items = [] := by
  cases items with
  | nil => simp
  | cons item rest => simp [String.join_cons]

/-- **What a check tells.** The exit code tells a document that is not there, findings and their
absence apart, and is the same in both formats. The lines are the findings in the order of the
report, and there are none exactly if the code is that of success; or there is the line for a
document that is not there. In JSON a single value is written, an object that says whether the code
is that of success, and which holds either the findings in the order of the report or the reason why
there is no document. -/
theorem checkDocument_exact (path : String) (content : FileContent) (before : ByteArray)
    (flushes : Bool) :
    ∃ code : ExitCode,
      (code = .noDocument ↔ ∃ error, Document.load path content = .error error) ∧
      (code = .findings ↔ ∃ document, Document.load path content = .ok document ∧
        document.validate.findings ≠ []) ∧
      (code = .success ↔ ∃ document, Document.load path content = .ok document ∧
        document.validate.findings = []) ∧
      (∃ output : String,
        (checkDocument path content .text).runOn ⟨before, none, flushes⟩ =
          (.ok code, ⟨before ++ output.toUTF8, none, flushes⟩) ∧
        (output = "" ↔ code = .success) ∧
        match Document.load path content with
        | .error error => output = "document load error: " ++ error.message ++ "\n"
        | .ok document => output =
          String.join (document.validate.findings.map fun finding => finding.display ++ "\n")) ∧
      ∃ (text : String) (fields : List (String × Json)),
        (checkDocument path content .json).runOn ⟨before, none, flushes⟩ =
          (.ok code, ⟨before ++ (text ++ "\n").toUTF8, none, flushes⟩) ∧
        (∀ value, JsonText.IsText value text ↔ value = .object fields) ∧
        (fields.map Prod.fst).Nodup ∧
        fields.lookup "success" = some (.bool (code = .success)) ∧
        match Document.load path content with
        | .error error => fields.lookup "load_error" = some (.string error.message) ∧
          fields.lookup "findings" = none
        | .ok document => fields.lookup "load_error" = none ∧
          fields.lookup "findings" =
            some (.array (document.validate.findings.map Finding.toJson)) := by
  cases loaded : Document.load path content with
  | error error =>
    have lines := Writing.writes_check_text_error loaded
    have object := Writing.writes_check_json_error loaded
    have whole := Writing.whole_loadErrorFields path error.message
    refine ⟨.noDocument, ?_, ?_, ?_, ⟨_, lines.runOn before flushes, ?_, rfl⟩, _, _,
      object.runOn before flushes, fun _ => JsonText.isText_pretty_iff whole, ?_, rfl, rfl, rfl⟩
    · exact iff_of_true rfl ⟨error, rfl⟩
    · exact iff_of_false (by decide) (by simp)
    · exact iff_of_false (by decide) (by simp)
    · exact iff_of_false (by simp) (by decide)
    · simp [Writing.loadErrorFields]
  | ok document =>
    have lines := Writing.writes_check_text loaded
    have object := Writing.writes_check_json loaded
    have whole := document.validate.whole_toJson path
    refine ⟨Writing.codeOf document.validate, ?_, ?_, ?_,
      ⟨_, lines.runOn before flushes, ?_, rfl⟩, _, _, object.runOn before flushes,
      fun _ => JsonText.isText_pretty_iff whole, ?_, ?_, rfl, rfl⟩
    · exact iff_of_false (Writing.codeOf_ne_noDocument _) (by simp)
    · simp [Writing.codeOf_eq_findings_iff]
    · simp [Writing.codeOf_eq_success_iff]
    · rw [join_lines_eq_empty_iff, Writing.codeOf_eq_success_iff]
    · simp
    · have success : document.validate.isSuccess =
          decide (Writing.codeOf document.validate = .success) := by
        rw [Bool.eq_iff_iff, decide_eq_true_iff, Writing.codeOf_eq_success_iff, Report.isSuccess,
          List.isEmpty_iff]
      rw [← success]
      rfl

end CallSchema
