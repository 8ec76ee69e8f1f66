import CallSchema.Document.Reading

/-!
Loading a document from its text. Failures come in tiers: a text that is no single tree of values
without repeated keys; a root that is no mapping; a part that is not there; and a misfit anywhere
in the parts. A later tier counts only where no earlier one does.
-/
namespace CallSchema

/-- A tree that has not the shape of a document. -/
inductive StructuralError where
  | rootNotMapping (found : String)
  | missingPart (part : String)
  | malformed (location reason : String)
  deriving DecidableEq

/-- The words for a shape that is wrong. -/
def StructuralError.message : StructuralError → String
  | .rootNotMapping found => "document root must be a mapping, found " ++ found
  | .missingPart part => "required partition '" ++ part ++ "' is undefined"
  | .malformed location reason => "malformed definitions at " ++ location ++ ": " ++ reason

/-- Why there is no document. -/
inductive LoadError where
  | unreadable (path reason : String)
  | invalid (origin reason : String)
  | structural (error : StructuralError)
  deriving DecidableEq

/-- The words for a document that is not there. -/
def LoadError.message : LoadError → String
  | .unreadable path reason => "cannot read '" ++ path ++ "': " ++ reason
  | .invalid origin reason => "invalid YAML in '" ++ origin ++ "': " ++ reason
  | .structural error => error.message

/-- The content of a file: its octets, or why they cannot be had. -/
abbrev FileContent := Except String ByteArray

namespace Document

/-- Checks that a value is a mapping, tags aside, with a key for every part. -/
def checkParts (value : Yaml.Value) : Except StructuralError Unit :=
  match value.entries? with
  | none => .error (.rootNotMapping value.kind)
  | some entries =>
    let defined (part : String) : Bool := entries.any fun entry => entry.1.same (.string part)
    match partKeys.find? fun part => !defined part with
    | some part => .error (.missingPart part)
    | none => .ok ()

/-- Reads a source as a document. The origin names the text in messages. -/
def ofSource (origin : String) (source : Yaml.Source) : Except LoadError Document :=
  match source.value with
  | .error fault => .error (.invalid origin fault.message)
  | .ok value =>
    match checkParts value with
    | .error error => .error (.structural error)
    | .ok () =>
      match ofNode (source.root.getD .missing) with
      | .error misfit =>
        .error (.structural (.malformed misfit.mark.text misfit.message))
      | .ok document => .ok document

/-- Reads a text as a document. -/
def parse (origin text : String) : Except LoadError Document :=
  ofSource origin (.ofText text)

/-- The name of a text that no file holds. -/
def inMemory : String := "<memory>"

/-- Reads a file as a document. -/
def load (path : String) (content : FileContent) : Except LoadError Document :=
  match content with
  | .error reason => .error (.unreadable path reason)
  | .ok octets =>
    match String.fromUTF8? octets with
    | none => .error (.unreadable path "stream did not contain valid UTF-8")
    | some text => parse path text

end Document
end CallSchema
