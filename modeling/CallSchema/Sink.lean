/-!
Output to a place that takes octets until its room is used up, and that may fail to pass them on
at the end. What does not fit is cut off at the last octet that does.
-/
namespace CallSchema

/-- A place for output: what has been written, how many octets more it takes if that is limited,
and whether it passes on in the end what it took. -/
structure Sink where
  written : ByteArray := .empty
  room : Option Nat := none
  flushes : Bool := true

/-- Why output is lost. -/
inductive OutputError where
  | noRoom
  | notFlushed
  | other (reason : String)
  deriving DecidableEq

/-- The words for lost output. -/
def OutputError.message : OutputError → String
  | .noRoom => "write limit reached"
  | .notFlushed => "flush failed"
  | .other reason => reason

/-- A computation that writes. -/
abbrev Writing := ExceptT OutputError (StateM Sink)

namespace Sink

/-- The place after some octets, and whether it took them all. -/
def take (sink : Sink) (octets : ByteArray) : Bool × Sink :=
  match sink.room with
  | none => (true, { sink with written := sink.written ++ octets })
  | some room =>
    let taken := octets.extract 0 room
    (decide (octets.size ≤ room),
      { sink with written := sink.written ++ taken, room := some (room - taken.size) })

end Sink

namespace Writing

/-- Writes a text. -/
def text (content : String) : Writing Unit :=
  ExceptT.mk fun sink =>
    let (all, sink) := sink.take content.toUTF8
    (if all then .ok () else .error .noRoom, sink)

/-- Writes a text and ends the line. -/
def line (content : String) : Writing Unit := text (content ++ "\n")

/-- Writes lines in order. -/
def lines (contents : List String) : Writing Unit := contents.forM line

/-- Passes on what was written. -/
def flush : Writing Unit :=
  ExceptT.mk fun sink => (if sink.flushes then .ok () else .error .notFlushed, sink)

/-- Passes on what a computation wrote, unless it failed, and keeps its result. -/
def finish {α : Type} (computation : Writing α) : Writing α := do
  let result ← computation
  flush
  return result

/-- Runs a computation on a place for output. -/
def runOn {α : Type} (computation : Writing α) (sink : Sink) : Except OutputError α × Sink :=
  Id.run (computation.run.run sink)

end Writing
end CallSchema
