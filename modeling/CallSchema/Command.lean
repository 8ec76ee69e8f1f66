import CallSchema.Consistency
import CallSchema.Resolution.Layout
import CallSchema.Sink

/-!
The two commands. One checks a document and writes what is found, the other writes the parameters
of a function. Each writes either lines or one JSON value, and its exit code tells a success from
findings and both from a document that is not there. Both commands treat such a document alike.
-/
namespace CallSchema

/-- How results are written: as lines, or as one JSON value. -/
inductive Format where
  | text
  | json
  deriving DecidableEq

/-- What a command tells its caller. -/
abbrev ExitCode := UInt8

namespace ExitCode

/-- Nothing is wrong. -/
def success : ExitCode := 0

/-- Something was found, or a function was not resolved. -/
def findings : ExitCode := 1

/-- There is no document, or output was lost. -/
def noDocument : ExitCode := 2

end ExitCode

/-- Writes a JSON value over several lines. -/
def Writing.json (value : Json) : Writing Unit := Writing.line value.pretty

/-- Writes why there is no document. -/
def Writing.loadError (format : Format) (path detail : String) : Writing Unit :=
  match format with
  | .text => line ("document load error: " ++ detail)
  | .json =>
    json (.object [("definitions", .string path), ("success", .bool false),
      ("load_error", .string detail)])

/-! ### Checking a document -/

/-- A report on the document of a path as JSON. -/
def Report.toJson (report : Report) (path : String) : Json :=
  .object [("definitions", .string path), ("success", .bool report.isSuccess),
    ("findings", .array (report.findings.map Finding.toJson))]

/-- Writes a report, one line for each finding or as JSON. -/
def Writing.report (format : Format) (path : String) (report : Report) : Writing Unit :=
  match format with
  | .text => lines (report.findings.map Finding.display)
  | .json => json (report.toJson path)

/-- Checks the document of a path with the given content. -/
def checkDocument (path : String) (content : FileContent) (format : Format) : Writing ExitCode :=
  match Document.load path content with
  | .error error => do
    Writing.loadError format path error.message
    return .noDocument
  | .ok document => do
    let report := document.validate
    Writing.report format path report
    return if report.isSuccess then .success else .findings

/-! ### Describing a function -/

mutual

/-- The lines for a parameter and, two blanks further in for each level, its fields. Offsets are
told of fields only. -/
def Parameter.lines (depth : Nat) : Parameter → List String
  | .mk name basicType size offset fields =>
    let place := if depth = 0 then "" else ", offset " ++ Decimal.natural offset.toNat
    let indent := String.ofList (List.replicate (2 * depth) ' ')
    (indent ++ name ++ ": " ++ basicType.name ++ " (size " ++ Decimal.natural size.toNat ++ place ++
      ")") :: parameterLines (depth + 1) fields

/-- The lines for parameters in order. -/
def parameterLines (depth : Nat) : List Parameter → List String
  | [] => []
  | parameter :: rest => parameter.lines depth ++ parameterLines depth rest

end

mutual

/-- A parameter as JSON. -/
def Parameter.toJson : Parameter → Json
  | .mk name basicType size offset fields =>
    .object [("name", .string name), ("basic_type", .string basicType.name), ("size", .word size),
      ("offset", .word offset), ("backing_parameters", .array (parametersJson fields))]

/-- Each of some parameters as JSON. -/
def parametersJson : List Parameter → List Json
  | [] => []
  | parameter :: rest => parameter.toJson :: parametersJson rest

end

/-- Writes parameters at a depth, line by line. -/
def Writing.parameterLines (depth : Nat) (parameters : List Parameter) : Writing Unit :=
  lines (CallSchema.parameterLines depth parameters)

/-- Writes the parameters of a function. -/
def Writing.parameters (format : Format) (parameters : List Parameter) : Writing Unit :=
  match format with
  | .text => Writing.parameterLines 0 parameters
  | .json => json (.array (parametersJson parameters))

/-- A function of a module, in an address width. -/
structure Query where
  module : String
  function : String
  width : String
  deriving DecidableEq

/-- The parameters that a query asks for, from the document of a path. -/
def Query.answer (query : Query) (path : String) (content : FileContent) :
    Except Failure (List Parameter) :=
  match Document.load path content with
  | .error error => .error (.ofLoadError error)
  | .ok document => document.describe query.module query.function query.width

/-- Writes why a query has no answer in a document. -/
def Writing.unresolved (format : Format) (query : Query) (reason : String) : Writing Unit :=
  match format with
  | .text => line ("resolution error: " ++ reason)
  | .json =>
    json (.object [("module", .string query.module), ("function", .string query.function),
      ("address_width", .string query.width), ("success", .bool false),
      ("resolution_error", .string reason)])

/-- Answers a query from the document of a path with the given content. -/
def describeFunction (query : Query) (path : String) (content : FileContent) (format : Format) :
    Writing ExitCode :=
  match query.answer path content with
  | .ok parameters => do
    Writing.parameters format parameters
    return .success
  | .error (.resolution reason) => do
    Writing.unresolved format query reason
    return .findings
  | .error (.load detail) => do
    Writing.loadError format path detail
    return .noDocument
  | .error (.structural error) => do
    Writing.loadError format path error.message
    return .noDocument

/-! ### The process -/

/-- The exit code of a process, given how its command came out. Lost output is never a success. -/
def exitCode : Except OutputError ExitCode → ExitCode
  | .ok code => code
  | .error _ => .noDocument

end CallSchema
