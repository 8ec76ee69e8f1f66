import CallSchema.Command.Arguments

/-!
The program: arguments in, output and an exit code out. The file of the definitions is read before
its command runs, and what the command writes is passed on when it has ended.
-/
namespace CallSchema

/-- The words of the operating system for a failure, with its number. -/
def reasonText : IO.Error → String
  | .alreadyExists _ code details | .invalidArgument _ code details
  | .permissionDenied _ code details | .resourceExhausted _ code details
  | .inappropriateType _ code details | .noSuchThing _ code details
  | .noFileOrDirectory _ code details | .interrupted _ code details
  | .otherError code details | .resourceBusy code details | .resourceVanished code details
  | .unsupportedOperation code details | .hardwareFault code details
  | .unsatisfiedConstraints code details | .illegalOperation code details
  | .protocolError code details | .timeExpired code details =>
    details ++ " (os error " ++ Decimal.natural code.toNat ++ ")"
  | .unexpectedEof => "unexpected end of file"
  | .userError message => message

/-- The content of a file. -/
def readContent (path : String) : IO FileContent := do
  try
    return .ok (← IO.FS.readBinFile path)
  catch error =>
    return .error (reasonText error)

/-- Passes on the output of a command; its exit code counts if nothing of it is lost. -/
def passOn (command : Writing ExitCode) : IO ExitCode := do
  let (result, sink) := command.finish.runOn {}
  try
    let out ← IO.getStdout
    out.write sink.written
    out.flush
    return exitCode result
  catch _ =>
    return .noDocument

/-- Does what the arguments ask for. -/
def perform (arguments : List String) : IO ExitCode :=
  match Request.ofArguments? arguments with
  | none => do
    IO.eprintln usage
    return .noDocument
  | some .help => passOn do
    Writing.line usage
    return .success
  | some .version => passOn do
    Writing.line versionLine
    return .success
  | some (.run path format command) => do
    let content ← readContent path
    passOn (command.run path content format)

end CallSchema

def main (arguments : List String) : IO UInt32 := do
  return (← CallSchema.perform arguments).toUInt32
