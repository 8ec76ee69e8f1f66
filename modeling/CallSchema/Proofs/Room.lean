import CallSchema.Command.Arguments
import CallSchema.Proofs.Describe

/-!
Output on a place that takes a number of octets and no more. What a command writes has two parts
there: the octets that the place takes, and those after them, which are lost. A command whose output
is cut off fails, at whatever octet of a line or of a JSON value the cut is, and the process that it
belongs to ends like one without a document. So an exit code of success, or of findings, vouches for
the whole output.
-/
namespace CallSchema

/-- Octets fall into those that fit and those after them. -/
theorem exists_cut (octets : ByteArray) (room : Nat) : ∃ lost,
    octets = octets.extract 0 room ++ lost ∧ (lost = .empty ↔ octets.size ≤ room) := by
  refine ⟨octets.extract room octets.size, ?_, ?_⟩
  · rw [ByteArray.extract_append_extract, Nat.zero_min,
      ByteArray.extract_zero_max_size]
  · rw [ByteArray.extract_eq_empty_iff, Nat.min_self]

namespace Writing
variable {α : Type} {computation : Writing α} {output : String} {value : α}

/-- On a place with limited room, a computation leaves what fits of its text, and fails exactly if
that is not all of it. -/
theorem Writes.runOn_limited (writes : Writes computation output value) (before : ByteArray)
    (room : Nat) (flushes : Bool) :
    computation.runOn ⟨before, some room, flushes⟩ =
      (if output.toUTF8.size ≤ room then .ok value else .error .noRoom,
        ⟨before ++ output.toUTF8.extract 0 room,
          some (room - (output.toUTF8.extract 0 room).size), flushes⟩) := by
  rw [writes]
  simp [Sink.take]

theorem flush_runOn (sink : Sink) :
    flush.runOn sink = (if sink.flushes then .ok () else .error .notFlushed, sink) := rfl

/-- The exit code of a process is that of its command only if all octets are taken and passed on. -/
theorem Writes.exitCode_finish {command : Writing ExitCode} {code : ExitCode}
    (writes : Writes command output code) (before : ByteArray) (room : Nat) (flushes : Bool) :
    exitCode (command.finish.runOn ⟨before, some room, flushes⟩).1 =
      if output.toUTF8.size ≤ room ∧ flushes = true then code else .noDocument := by
  rw [finish, runOn_bind, writes.runOn_limited]
  by_cases fits : output.toUTF8.size ≤ room
  · simp only [fits, if_true, true_and, runOn_bind, flush_runOn]
    cases flushes <;> rfl
  · simp only [fits, if_false, false_and]
    rfl

end Writing

namespace Command

/-- Every command writes some text, whatever the document, and ends with one of the three codes. -/
theorem exists_writes (command : Command) (path : String) (content : FileContent)
    (format : Format) : ∃ (output : String) (code : ExitCode),
      Writing.Writes (command.run path content format) output code ∧
        (code = .success ∨ code = .findings ∨ code = .noDocument) := by
  cases loaded : Document.load path content with
  | error error =>
    -- Without a document there is one command only, the check.
    have same : command.run path content format = checkDocument path content format := by
      cases command with
      | check => rfl
      | describe query => exact describeFunction_eq_checkDocument query format loaded
    rw [same]
    cases format with
    | text => exact ⟨_, _, Writing.writes_check_text_error loaded, .inr (.inr rfl)⟩
    | json => exact ⟨_, _, Writing.writes_check_json_error loaded, .inr (.inr rfl)⟩
  | ok document =>
    cases command with
    | check =>
      have code : Writing.codeOf document.validate = .success ∨
          Writing.codeOf document.validate = .findings ∨
          Writing.codeOf document.validate = .noDocument := by
        rw [Writing.codeOf_eq_success_iff, Writing.codeOf_eq_findings_iff, ← or_assoc]
        exact .inl (Decidable.em _)
      cases format with
      | text => exact ⟨_, _, Writing.writes_check_text loaded, code⟩
      | json => exact ⟨_, _, Writing.writes_check_json loaded, code⟩
    | describe query =>
      obtain ⟨code, lines, text, value, told, object, _, _, meant⟩ :=
        Writing.writes_describe_loaded query loaded
      have coded : code = .success ∨ code = .findings ∨ code = .noDocument := by
        cases answered : document.describe query.module query.function query.width with
        | ok parameters =>
          rw [answered] at meant
          exact .inl meant.1
        | error failure =>
          rw [answered] at meant
          exact .inr (.inl meant.1)
      cases format with
      | text => exact ⟨lines, code, told, coded⟩
      | json => exact ⟨_, code, object, coded⟩

/-- **No output is lost in silence.** What a command writes on a place with room for anything falls
into the octets that a place with limited room accepts and the octets that are lost there. The
command fails on that place exactly if the room is too small, and otherwise it ends with the same
code; it makes no difference in which pieces the output is written. Its process ends with the code
of success or of findings only if nothing is lost and all is passed on, and otherwise with the code
for a document that is not there. -/
theorem output_accounted (command : Command) (path : String) (content : FileContent)
    (format : Format) (before : ByteArray) (room : Nat) (flushes : Bool) :
    let computation := command.run path content format
    let limited : Sink := ⟨before, some room, flushes⟩
    let process := exitCode (computation.finish.runOn limited).1
    ∃ (code : ExitCode) (accepted lost : ByteArray),
      computation.runOn ⟨before, none, flushes⟩ =
        (.ok code, ⟨before ++ (accepted ++ lost), none, flushes⟩) ∧
      (computation.runOn limited).2.written = before ++ accepted ∧
      accepted.size = min room (accepted ++ lost).size ∧
      ((∃ error, (computation.runOn limited).1 = .error error) ↔
        room < (accepted ++ lost).size) ∧
      ((computation.runOn limited).1 = .ok code ↔ (accepted ++ lost).size ≤ room) ∧
      (∀ pieces : List String, (String.join pieces).toUTF8 = accepted ++ lost → ∀ sink,
        (pieces.forM Writing.text >>= fun _ => pure code).runOn sink = computation.runOn sink) ∧
      (process = .success ∨ process = .findings →
        lost = .empty ∧ flushes = true ∧ process = code) ∧
      (¬ (process = .success ∨ process = .findings) → process = .noDocument) ∧
      (lost = .empty → flushes = true → process = code) := by
  intro computation limited process
  obtain ⟨output, code, writes, coded⟩ := command.exists_writes path content format
  obtain ⟨lost, whole, nothing⟩ := exists_cut output.toUTF8 room
  have accepts := writes.runOn_limited before room flushes
  have ended : process = _ := writes.exitCode_finish before room flushes
  refine ⟨code, output.toUTF8.extract 0 room, lost, ?_, ?_, ?_, ?_⟩
  · rw [← whole]
    exact writes.runOn before flushes
  · rw [accepts]
  · rw [← whole, ByteArray.size_extract, Nat.sub_zero]
  -- Any pieces of the output write what the command writes, so their runs are the same anywhere.
  have pieced (pieces : List String) (same : (String.join pieces).toUTF8 = output.toUTF8) :
      Writing.Writes (pieces.forM Writing.text >>= fun _ => pure code) output code :=
    String.toByteArray_inj.mp same ▸ (Writing.writes_pieces pieces).returns code
  rw [← whole, accepts, ended, nothing]
  -- Lost output hides a failure to pass on the rest, so only output that fits is split further.
  by_cases fits : output.toUTF8.size ≤ room
  · rw [if_pos fits]
    refine ⟨iff_of_false (by simp) (Nat.not_lt.mpr fits), iff_of_true rfl fits,
      fun pieces same => (pieced pieces same).runOn_eq writes, ?_⟩
    cases flushes with
    | true =>
      rw [if_pos ⟨fits, rfl⟩]
      refine ⟨fun _ => ⟨fits, rfl, rfl⟩, fun unknown => ?_, fun _ _ => rfl⟩
      exact (or_assoc.mpr coded).resolve_left unknown
    | false =>
      rw [if_neg (by simp)]
      exact ⟨fun known => absurd known (by decide), fun _ => rfl, fun _ flushed => nomatch flushed⟩
  · rw [if_neg fits, if_neg (fun both => fits both.1)]
    refine ⟨iff_of_true ⟨_, rfl⟩ (Nat.lt_of_not_le fits), iff_of_false (by simp) fits,
      fun pieces same => (pieced pieces same).runOn_eq writes, ?_⟩
    exact ⟨fun known => absurd known (by decide), fun _ => rfl, fun kept => absurd kept fits⟩

end Command

end CallSchema
