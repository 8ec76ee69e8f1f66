import CallSchema.Json
import CallSchema.Symbol

/-!
What a check of a document finds: symbols of one kind of inconsistency, or a ring of aliases. A
report is a list of findings in order; it is a success if it is empty.
-/
namespace CallSchema

/-- The kinds of inconsistency, in the order in which they are reported. -/
inductive FindingKind where
  | missingFunctionParameter
  | missingStructParameter
  | missingHighLevelTarget
  | ambiguousHighLevelAndBacking
  | ambiguousHighLevelAndStruct
  | ambiguousStructAndBacking
  | aliasCycle
  deriving DecidableEq

namespace FindingKind

/-- Every kind, in the order of reports. -/
def all : List FindingKind :=
  [missingFunctionParameter, missingStructParameter, missingHighLevelTarget,
   ambiguousHighLevelAndBacking, ambiguousHighLevelAndStruct, ambiguousStructAndBacking,
   aliasCycle]

/-- The name of a kind. -/
def name : FindingKind → String
  | missingFunctionParameter => "MissingFunctionParameter"
  | missingStructParameter => "MissingStructParameter"
  | missingHighLevelTarget => "MissingHighLevelTarget"
  | ambiguousHighLevelAndBacking => "AmbiguousHighLevelAndBacking"
  | ambiguousHighLevelAndStruct => "AmbiguousHighLevelAndStruct"
  | ambiguousStructAndBacking => "AmbiguousStructAndBacking"
  | aliasCycle => "AliasCycle"

/-- The words that open a diagnostic. -/
def headline : FindingKind → String
  | missingFunctionParameter => "Function parameters with missing definitions"
  | missingStructParameter => "Used struct parameters with missing definitions"
  | missingHighLevelTarget => "Highlevel parameter types with missing definitions"
  | ambiguousHighLevelAndBacking =>
    "Parameters which are defined as both a high level parameter and a backing parameter"
  | ambiguousHighLevelAndStruct =>
    "Parameters which are defined as both a high level parameter and a struct"
  | ambiguousStructAndBacking =>
    "Parameters which are defined as both a struct and a backing parameter"
  | aliasCycle => "Highlevel parameter resolution contains ring"

end FindingKind

/-- A ring of aliases: the width and the name that lead to it, the walk that meets a name a second
time and ends with it, and the edge that closes the ring. -/
structure AliasCycle where
  width : AddressWidth
  start : Symbol
  source : Symbol
  target : Symbol
  chain : List Symbol
  deriving DecidableEq

/-- One inconsistency. -/
inductive Finding where
  | symbols (kind : FindingKind) (symbols : SymbolSet)
  | cycle (ring : AliasCycle)
  deriving DecidableEq

namespace Finding

/-- A finding about some symbols, unless there are none. -/
def ofSet? (kind : FindingKind) (set : SymbolSet) : Option Finding :=
  if set.isEmpty then none else some (.symbols kind set)

/-- The kind of inconsistency. -/
def kind : Finding → FindingKind
  | .symbols kind _ => kind
  | .cycle _ => .aliasCycle

/-- The symbols that a finding is about; for a ring, the ends of the edge that closes it. -/
def about : Finding → SymbolSet
  | .symbols _ set => set
  | .cycle ring => .ofList [ring.source, ring.target]

/-- The diagnostic. -/
def display : Finding → String
  | .symbols kind set =>
    kind.headline ++ ": \x7b" ++
      String.intercalate ", " (set.symbols.map fun symbol => "'" ++ symbol.name ++ "'") ++ "\x7d"
  | .cycle ring =>
    "Highlevel parameter resolution for address width: " ++ ring.width.name ++
      " starting from: " ++ ring.start.name ++ " contains ring between " ++ ring.source.name ++
      " and " ++ ring.target.name ++ " (" ++
      String.intercalate " -> " (ring.chain.map Symbol.name) ++ ")"

/-- Symbols as a JSON array. -/
def symbolsJson (symbols : List Symbol) : Json :=
  .array (symbols.map fun symbol => .string symbol.name)

/-- A finding as JSON. -/
def toJson : Finding → Json
  | .symbols kind set =>
    .object [("category", .string "symbols"), ("kind", .string kind.name),
      ("symbols", symbolsJson set.symbols)]
  | .cycle ring =>
    .object [("category", .string "cycle"), ("address_width", .string ring.width.name),
      ("start", .string ring.start.name), ("from", .string ring.source.name),
      ("to", .string ring.target.name), ("chain", symbolsJson ring.chain)]

end Finding

/-- The findings of a check, in order. -/
structure Report where
  findings : List Finding
  deriving DecidableEq

namespace Report

/-- Whether nothing was found. -/
def isSuccess (report : Report) : Bool := report.findings.isEmpty

/-- The number of findings. -/
def size (report : Report) : Nat := report.findings.length

/-- The findings of one kind, in order. -/
def ofKind (report : Report) (kind : FindingKind) : List Finding :=
  report.findings.filter fun finding => decide (finding.kind = kind)

/-- Counts one finding more of a kind. -/
def countKind (kind : FindingKind) : List (FindingKind × Nat) → List (FindingKind × Nat)
  | [] => []
  | (other, count) :: rest =>
    if other = kind then (other, count + 1) :: rest else (other, count) :: countKind kind rest

/-- How many findings there are of each kind, in the order of kinds; kinds without findings are
left out. -/
def countsByKind (report : Report) : List (FindingKind × Nat) :=
  let counts := report.findings.foldl (fun counts finding => countKind finding.kind counts)
    (FindingKind.all.map fun kind => (kind, 0))
  counts.filter fun entry => entry.2 != 0

/-- The diagnostics, one to a line. -/
def display (report : Report) : String :=
  String.intercalate "\n" (report.findings.map Finding.display)

end Report
end CallSchema
