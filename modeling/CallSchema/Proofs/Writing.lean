import CallSchema.Command

/-!
What a computation writes. `Writing.Writes` tells a computation that writes by its text and its
result: a place for output takes the text as if it had been written at once, and where the text does
not fit the computation fails after the last octet that does. The text of computations one after the
other is their texts put together, so what a command writes is read off how it is composed.
-/
namespace CallSchema

namespace Sink

theorem take_empty (sink : Sink) : sink.take .empty = (true, sink) := by
  obtain ⟨written, room, flushes⟩ := sink
  cases room with
  | none => simp [take]
  | some room =>
    have nothing : ByteArray.empty.extract 0 room = .empty :=
      ByteArray.extract_eq_empty_iff.mpr (Nat.min_le_right ..)
    simp [take, nothing]

/-- Octets are taken in two parts as they are at once, unless the first part is cut off already. -/
theorem take_append (sink : Sink) (a b : ByteArray) : sink.take (a ++ b) =
    if (sink.take a).1 then (sink.take a).2.take b else sink.take a := by
  obtain ⟨written, room, flushes⟩ := sink
  cases room with
  | none => simp [take, ByteArray.append_assoc]
  | some room =>
    by_cases fits : a.size ≤ room
    · have whole : a.extract 0 room = a := by
        rw [← Nat.max_eq_left fits, ByteArray.extract_zero_max_size]
      have left : a.size + b.size ≤ room ↔ b.size ≤ room - a.size := by omega
      simp [take, fits, whole, left, ByteArray.extract_append, ByteArray.append_assoc, Nat.sub_sub]
    · have cut : room < a.size + b.size := by omega
      have full : room - a.size = 0 := by omega
      simp [take, fits, cut, full, ByteArray.extract_append]

end Sink

namespace Writing
variable {α β : Type} {computation : Writing α} {output more : String} {value : α}

/-- The computation writes the text and ends with the value, unless the place for output has no room
for all of it. -/
def Writes (computation : Writing α) (output : String) (value : α) : Prop :=
  ∀ sink, computation.runOn sink =
    (if (sink.take output.toUTF8).1 then .ok value else .error .noRoom,
      (sink.take output.toUTF8).2)

theorem writes_pure (value : α) : Writes (pure value) "" value := by
  intro sink
  have nothing : "".toUTF8 = ByteArray.empty := rfl
  rw [nothing, Sink.take_empty]
  rfl

theorem writes_text (content : String) : Writes (text content) content () := fun _ => rfl

/-- A result that is there goes on to the next computation, and an error ends both. -/
theorem runOn_bind (computation : Writing α) (next : α → Writing β) (sink : Sink) :
    (computation >>= next).runOn sink =
      match computation.runOn sink with
      | (.ok value, after) => (next value).runOn after
      | (.error error, after) => (.error error, after) := by
  change (match computation.runOn sink with
    | (result, after) => ExceptT.bindCont next result after) = _
  rcases computation.runOn sink with ⟨error | value, after⟩ <;> rfl

/-- What comes after a computation is written after its text. -/
theorem Writes.bind {next : α → Writing β} {result : β} (first : Writes computation output value)
    (second : Writes (next value) more result) :
    Writes (computation >>= next) (output ++ more) result := by
  intro sink
  have together : (output ++ more).toUTF8 = output.toUTF8 ++ more.toUTF8 :=
    String.toByteArray_append
  rw [runOn_bind, first sink, together, Sink.take_append]
  rcases sink.take output.toUTF8 with ⟨fits, after⟩
  cases fits with
  | false => rfl
  | true => exact second after

/-- Another result in the place of its own changes nothing of what a computation writes. -/
theorem Writes.returns (writes : Writes computation output value) (result : β) :
    Writes (computation >>= fun _ => pure result) output result := by
  have together : Writes (computation >>= fun _ => pure result) (output ++ "") result :=
    writes.bind (writes_pure result)
  rwa [String.append_empty] at together

theorem writes_line (content : String) : Writes (line content) (content ++ "\n") () :=
  writes_text (content ++ "\n")

/-- Texts are written one after the other as they are at once, wherever one ends. -/
theorem writes_pieces (pieces : List String) :
    Writes (pieces.forM text) (String.join pieces) () := by
  induction pieces with
  | nil => exact writes_pure ()
  | cons piece rest ih =>
    rw [String.join_cons]
    exact (writes_text piece).bind ih

theorem writes_lines (contents : List String) :
    Writes (lines contents) (String.join (contents.map (· ++ "\n"))) () := by
  have pieces := writes_pieces (contents.map (· ++ "\n"))
  rw [List.forM_eq_forM, List.forM_map] at pieces
  exact pieces

theorem writes_json (value : Json) : Writes (json value) (value.pretty ++ "\n") () :=
  writes_line value.pretty

/-- Computations with the same text and result are the same on every place. -/
theorem Writes.runOn_eq {other : Writing α} (writes : Writes computation output value)
    (same : Writes other output value) (sink : Sink) :
    computation.runOn sink = other.runOn sink := by
  rw [writes sink, same sink]

/-- On a place with room for anything, what is written is added to what was there. -/
theorem Writes.runOn (writes : Writes computation output value) (before : ByteArray)
    (flushes : Bool) : computation.runOn ⟨before, none, flushes⟩ =
      (.ok value, ⟨before ++ output.toUTF8, none, flushes⟩) := writes _

end Writing
end CallSchema
