import CallSchema.Command

/-!
The arguments of the command line. Options come before or after the name of a command, and what a
command is told itself counts over what stands before its name. An option is given at most once in
each place, with its value in the next argument or after an equals sign; after two dashes alone
every argument is an operand. Arguments are read from left to right, and the first fault counts.
-/
namespace CallSchema

/-- A command with its operands. -/
inductive Command where
  | check
  | describe (query : Query)
  deriving DecidableEq

/-- What the arguments ask for. -/
inductive Request where
  | run (definitions : String) (format : Format) (command : Command)
  | version
  | help
  deriving DecidableEq

/-- Where the definitions are if nothing else is said. -/
def defaultDefinitions : String := "../configuration/functiondefinitions/functionDefinitions.yaml"

/-- The address width if nothing else is said. -/
def defaultWidth : String := "AddressWidth64Bit"

namespace Arguments

/-- The options with a value. -/
inductive Setting where
  | definitions
  | format
  | addressWidth
  deriving DecidableEq

/-- What an argument is, unless it is an operand. -/
inductive Flag where
  | verbose
  | version
  | help
  | setting (setting : Setting)
  deriving DecidableEq

/-- The part of the arguments that is read: that before the name of a command, or that after it. -/
inductive Place where
  | front
  | check
  | describe
  deriving DecidableEq

/-- The flag of a long name. The version is told only in front of a command, and an address width
only to the command that needs one. -/
def longFlag? (place : Place) (name : String) : Option Flag :=
  if name == "verbose" then some .verbose
  else if name == "help" then some .help
  else if name == "definitions" then some (.setting .definitions)
  else if name == "format" then some (.setting .format)
  else if name == "version" && decide (place = .front) then some .version
  else if name == "address-width" && decide (place = .describe) then some (.setting .addressWidth)
  else none

/-- The flag of a letter. -/
def shortFlag? (place : Place) (letter : Char) : Option Flag :=
  if letter == 'v' then some .verbose
  else if letter == 'h' then some .help
  else if letter == 'V' && decide (place = .front) then some .version
  else none

/-- What has been said in one place. Operands come latest first. -/
structure Said where
  definitions : Option String := none
  format : Option Format := none
  width : Option String := none
  operands : List String := []

/-- Sets an option that has no value yet, if the value suits it. -/
def Said.set? (said : Said) (setting : Setting) (value : String) : Option Said :=
  match setting with
  | .definitions =>
    if said.definitions.isSome || value.isEmpty then none
    else some { said with definitions := some value }
  | .format =>
    if said.format.isSome then none
    else if value == "text" then some { said with format := some .text }
    else if value == "json" then some { said with format := some .json }
    else none
  | .addressWidth =>
    if said.width.isSome then none else some { said with width := some value }

/-- How many operands a place takes. -/
def Place.operands : Place → Nat
  | .front | .check => 0
  | .describe => 2

/-- Takes an operand, if there is still one wanted. -/
def Said.operand? (place : Place) (said : Said) (operand : String) : Option Said :=
  if said.operands.length < place.operands then
    some { said with operands := operand :: said.operands }
  else none

/-- The name and the attached value of an argument that starts with two dashes. -/
def longParts? (argument : String) : Option (String × Option String) :=
  match argument.toList with
  | '-' :: '-' :: c :: rest =>
    match (c :: rest).span (· != '=') with
    | (name, '=' :: value) => some (String.ofList name, some (String.ofList value))
    | (name, _) => some (String.ofList name, none)
  | _ => none

/-- The letters of an argument that starts with one dash. -/
def shortParts? (argument : String) : Option (List Char) :=
  match argument.toList with
  | '-' :: c :: rest => if c == '-' then none else some (c :: rest)
  | _ => none

/-- Whether an argument cannot be a value: it starts with a dash and is more than that. -/
def isFlag (argument : String) : Bool :=
  match argument.toList with
  | '-' :: _ :: _ => true
  | _ => false

/-- What letters ask for: help or the version at once, if the letters before are flags. -/
def letters (place : Place) : List Char → Except (Option Request) Unit
  | [] => .ok ()
  | letter :: rest =>
    match shortFlag? place letter with
    | some .verbose => letters place rest
    | some .version => .error (some .version)
    | some .help => .error (some .help)
    | _ => .error none

/-- A fault, or the value. -/
def orFault {α : Type} (value : Option α) : Except (Option Request) α :=
  match value with
  | some value => .ok value
  | none => .error none

/-- How the reading of a place ends. -/
inductive Ending where
  /-- With the arguments. -/
  | complete (said : Said)
  /-- With the name of a command and the arguments after it. -/
  | command (said : Said) (name : String) (rest : List String)

/-- Takes operands to the end. -/
def operands (place : Place) (said : Said) (arguments : List String) :
    Except (Option Request) Said :=
  arguments.foldlM (fun said operand => orFault (said.operand? place operand)) said

/-- Reads the arguments of one place. A fault, or a request that needs no more arguments, ends the
reading at once. -/
def read (place : Place) : Said → List String → Except (Option Request) Ending
  | said, [] => .ok (.complete said)
  | said, argument :: rest =>
    if argument == "--" then (operands place said rest).map .complete
    else
      match longParts? argument with
      | some (name, attached) =>
        match longFlag? place name, attached with
        | some .verbose, none => read place said rest
        | some .version, none => .error (some .version)
        | some .help, none => .error (some .help)
        | some (.setting setting), some value => do
          read place (← orFault (said.set? setting value)) rest
        | some (.setting setting), none =>
          match rest with
          | [] => .error none
          | value :: rest =>
            if isFlag value then .error none
            else do read place (← orFault (said.set? setting value)) rest
        | _, _ => .error none
      | none =>
        match shortParts? argument with
        | some flags => do
          letters place flags
          read place said rest
        | none =>
          if place = .front then .ok (.command said argument rest)
          else do read place (← orFault (said.operand? place argument)) rest

/-- The request of what was said in front of a command and to it. -/
def request (front said : Said) (command : Command) : Request :=
  .run ((said.definitions.or front.definitions).getD defaultDefinitions)
    ((said.format.or front.format).getD .text) command

/-- Reads the arguments of a command. -/
def readCommand (place : Place) (arguments : List String) : Except (Option Request) Said := do
  match ← read place {} arguments with
  | .complete said => return said
  | .command .. => .error none

/-- Reads all arguments. -/
def readAll (arguments : List String) : Except (Option Request) Request := do
  match ← read .front {} arguments with
  | .complete front => return request front {} .check
  | .command front name rest =>
    if name == "check" then
      return request front (← readCommand .check rest) .check
    else if name == "describe" then
      let said ← readCommand .describe rest
      match said.operands with
      | [function, module] =>
        return request front said (.describe ⟨module, function, said.width.getD defaultWidth⟩)
      | _ => .error none
    else if name == "help" then
      match rest with
      | [] | ["check"] | ["describe"] | ["help"] => return .help
      | _ => .error none
    else .error none

end Arguments

/-- Runs a command on the document of a path with the given content. -/
def Command.run (command : Command) (path : String) (content : FileContent) (format : Format) :
    Writing ExitCode :=
  match command with
  | .check => checkDocument path content format
  | .describe query => describeFunction query path content format

/-- The line that tells the version. -/
def versionLine : String := "fndef-check 0.1.0"

/-- The lines that tell how the program is called. -/
def usage : String :=
  "Usage: fndef-check [OPTIONS] [check | describe <MODULE> <FUNCTION>]\n" ++
  "  --definitions <PATH>      the definitions document\n" ++
  "  --format <text|json>      how results are written\n" ++
  "  --address-width <WIDTH>   the address width to describe a function in\n" ++
  "  -v, --verbose             accepted for each level of detail\n" ++
  "  -V, --version             tell the version"

/-- What the arguments ask for, if they are in order. -/
def Request.ofArguments? (arguments : List String) : Option Request :=
  match Arguments.readAll arguments with
  | .ok request => some request
  | .error request => request

end CallSchema
