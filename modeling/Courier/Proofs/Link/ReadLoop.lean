import Courier.Link.Loops
import Courier.Proofs.Envelope.Reading

/-!
# What a read loop says

The answers to the reads of a stream are some buffers, and then the end or a failure if one
has come (`ReadLoop.course`).  What the sink is told of them can be said by their bytes
(`ReadLoop.Says`).  A raw stream hands over the buffers.  A stream of envelopes hands over the
messages that its bytes spell, and at a clean end also the message that is without its end mark; a
chunk that is too large breaks it, and so does one that is not all there at the end.

A read loop says just this (`ReadLoop.says_run`), and nothing after an end (`ReadLoop.Says.endsOnce`).
-/

namespace Courier

set_option autoImplicit false

/-- Nothing is told after an end. -/
def EndsOnce (events : List StreamEvent) : Prop :=
  events.Pairwise fun earlier _ => ∀ cause, earlier ≠ .ended cause

theorem endsOnce_map_bytes_append {contents : List Bytes} {events : List StreamEvent} :
    EndsOnce (contents.map .bytes ++ events) ↔ EndsOnce events := by
  unfold EndsOnce
  rw [List.pairwise_append, List.pairwise_map]
  constructor
  · rintro ⟨-, later, -⟩
    exact later
  · intro later
    refine ⟨?_, later, ?_⟩
    · exact List.pairwise_of_forall fun _ _ _ => StreamEvent.noConfusion
    · rintro event listed _ - cause
      obtain ⟨content, -, rfl⟩ := List.mem_map.mp listed
      exact StreamEvent.noConfusion

/-- How the reads of a stream end, as far as they have come. -/
inductive ReadEnd where
  /-- There is no end yet. -/
  | silent
  | clean
  | failed (reason : String)

/-- What the sink is told of it. -/
def ReadEnd.events : ReadEnd → List StreamEvent
  | silent => []
  | clean => [.ended none]
  | failed reason => [.ended (some (.broken reason))]

theorem ReadEnd.endsOnce_events (ending : ReadEnd) : EndsOnce ending.events := by
  unfold EndsOnce
  cases ending <;> simp [events]

namespace ReadLoop

/-- The buffers that are read up to the end, and how the reads end. -/
def course : List (Except String Bytes) → List Bytes × ReadEnd
  | [] => ([], .silent)
  | .error reason :: _ => ([], .failed reason)
  | .ok [] :: _ => ([], .clean)
  | .ok buffer :: later => (buffer :: (course later).1, (course later).2)

/-- What is told behind the whole messages of a stream of envelopes, of which a message has begun and
some bytes are left. -/
def envelopeEnd (fault : Option EnvelopeError) (message left : Bytes) (ending : ReadEnd) :
    List StreamEvent :=
  match fault, ending with
  | some fault, _ => [.ended (some (.broken fault.message))]
  | none, .clean =>
    if left ≠ [] then
      [.ended (some (.broken (EnvelopeError.truncatedChunk left.length).message))]
    else if message = [] then [.ended none]
    else [.bytes message, .ended none]
  | none, ending => ending.events

/-- What the sink of a stream is to be told of the answers to its reads. -/
def Says (framing : Framing) (answers : List (Except String Bytes)) (events : List StreamEvent) :
    Prop :=
  match framing with
  | none => events = (course answers).1.map .bytes ++ (course answers).2.events
  | some capacity => ∃ messages fault message left,
      Envelope.Reads capacity [] (course answers).1.flatten messages fault message left ∧
        events = messages.map .bytes ++ envelopeEnd fault message left (course answers).2

theorem endsOnce_envelopeEnd (fault : Option EnvelopeError) (message left : Bytes)
    (ending : ReadEnd) : EndsOnce (envelopeEnd fault message left ending) := by
  unfold envelopeEnd
  split
  · simp [EndsOnce]
  · split
    · simp [EndsOnce]
    · split <;> simp [EndsOnce]
  · exact ReadEnd.endsOnce_events ending

/-- Nothing is to be told after an end. -/
theorem Says.endsOnce {framing : Framing} {answers : List (Except String Bytes)}
    {events : List StreamEvent} (said : Says framing answers events) : EndsOnce events := by
  cases framing with
  | none =>
    rw [Says] at said
    rw [said, endsOnce_map_bytes_append]
    exact ReadEnd.endsOnce_events _
  | some capacity =>
    obtain ⟨messages, fault, message, left, -, rfl⟩ := said
    rw [endsOnce_map_bytes_append]
    exact endsOnce_envelopeEnd fault message left _

/-! ## Runs -/

/-- What a loop tells of several answers, and the loop after them. -/
def run (loop : ReadLoop) : List (Except String Bytes) → List StreamEvent × ReadLoop
  | [] => ([], loop)
  | answer :: later =>
    ((loop.step answer).1 ++ ((loop.step answer).2.run later).1, ((loop.step answer).2.run later).2)

theorem run_concat (loop : ReadLoop) (answers : List (Except String Bytes))
    (answer : Except String Bytes) :
    loop.run (answers ++ [answer]) =
      ((loop.run answers).1 ++ ((loop.run answers).2.step answer).1,
        ((loop.run answers).2.step answer).2) := by
  induction answers generalizing loop with
  | nil => simp [run]
  | cons first answers ih => simp [run, ih]

@[simp] theorem run_stopped (answers : List (Except String Bytes)) :
    stopped.run answers = ([], stopped) := by
  induction answers with
  | nil => rfl
  | cons answer answers ih => simp [run, step, ih]

theorem run_raw (answers : List (Except String Bytes)) :
    (raw.run answers).1 = (course answers).1.map .bytes ++ (course answers).2.events := by
  fun_induction course answers with
  | case1 => rfl
  | case2 reason => simp [run, step, ReadEnd.events]
  | case3 => simp [run, step, ReadEnd.events]
  | case4 buffer later nonempty ih =>
    cases buffer with
    | nil => exact absurd rfl nonempty
    | cons byte rest => simp [run, step, ih]

/-- A loop tells the messages that its reader gives, and then the fault or the end. -/
theorem run_enveloped (reader : EnvelopeReader) (answers : List (Except String Bytes)) :
    ((enveloped reader).run answers).1 =
      (reader.feed (course answers).1).1.map .bytes ++
        match (reader.feed (course answers).1).2.1, (course answers).2 with
        | some fault, _ => [.ended (some (.broken fault.message))]
        | none, .clean => endOfEnvelopes (reader.feed (course answers).1).2.2
        | none, ending => ending.events := by
  fun_induction course answers generalizing reader with
  | case1 => rfl
  | case2 reason => simp [run, step, EnvelopeReader.feed, ReadEnd.events]
  | case3 => simp [run, step, EnvelopeReader.feed]
  | case4 buffer later nonempty ih =>
    cases buffer with
    | nil => exact absurd rfl nonempty
    | cons byte rest =>
      simp only [run, step, EnvelopeReader.feed]
      generalize (reader.push (byte :: rest)).drain = drained
      obtain ⟨messages, _ | fault, after⟩ := drained
      · simp [ih]
      · simp

/-! ### Stopping -/

theorem new_ne_stopped (framing : Framing) : new framing ≠ stopped := by
  cases framing <;> exact ReadLoop.noConfusion

theorem exists_ended_endOfEnvelopes (reader : EnvelopeReader) :
    ∃ cause, .ended cause ∈ endOfEnvelopes reader := by
  unfold endOfEnvelopes
  split
  · exact ⟨none, by simp⟩
  · exact ⟨none, by simp⟩
  · exact ⟨_, List.mem_singleton_self _⟩

/-- A loop that stops tells of an end. -/
theorem ended_of_step {loop : ReadLoop} (running : loop ≠ stopped) {answer : Except String Bytes}
    (stops : (loop.step answer).2 = stopped) : ∃ cause, .ended cause ∈ (loop.step answer).1 := by
  cases loop with
  | stopped => exact absurd rfl running
  | raw =>
    match answer with
    | .error reason => exact ⟨_, List.mem_singleton_self _⟩
    | .ok [] => exact ⟨none, List.mem_singleton_self _⟩
    | .ok (byte :: rest) => cases stops
  | enveloped reader =>
    match answer with
    | .error reason => exact ⟨_, List.mem_singleton_self _⟩
    | .ok [] => exact exists_ended_endOfEnvelopes reader
    | .ok (byte :: rest) =>
      simp only [step] at stops ⊢
      generalize (reader.push (byte :: rest)).drain = drained at stops ⊢
      obtain ⟨messages, _ | fault, after⟩ := drained
      · cases stops
      · exact ⟨_, List.mem_append_right _ (List.mem_singleton_self _)⟩

/-- A loop that has stopped has told of an end. -/
theorem ended_of_run {loop : ReadLoop} (running : loop ≠ stopped)
    {answers : List (Except String Bytes)} (stops : (loop.run answers).2 = stopped) :
    ∃ cause, .ended cause ∈ (loop.run answers).1 := by
  induction answers generalizing loop with
  | nil => exact absurd stops running
  | cons answer answers ih =>
    by_cases first : (loop.step answer).2 = stopped
    · obtain ⟨cause, told⟩ := ended_of_step running first
      exact ⟨cause, List.mem_append_left _ told⟩
    · obtain ⟨cause, told⟩ := ih first stops
      exact ⟨cause, List.mem_append_right _ told⟩

/-! ### What is told -/

theorem endOfEnvelopes_of_unfinished {reader : EnvelopeReader}
    (unfinished : Envelope.Unfinished reader.capacity reader.pending) :
    endOfEnvelopes reader = envelopeEnd none reader.message reader.pending .clean := by
  rw [endOfEnvelopes, EnvelopeReader.finish_of_unfinished unfinished, envelopeEnd]
  by_cases left : reader.pending = []
  · by_cases begun : reader.message = [] <;> simp [left, begun]
  · simp [left]

/-- **A read loop tells the sink what its reads say.** -/
theorem says_run (framing : Framing) (answers : List (Except String Bytes)) :
    Says framing answers ((new framing).run answers).1 := by
  cases framing with
  | none => exact run_raw answers
  | some capacity =>
    obtain ⟨unread, reads, all⟩ := EnvelopeReader.reads_feed_new capacity (course answers).1
    refine ⟨_, _, _, _, reads, ?_⟩
    rw [new, run_enveloped]
    cases fault : ((EnvelopeReader.new capacity).feed (course answers).1).2.1 with
    | some fault => rfl
    | none =>
      cases (course answers).2 with
      | silent | failed => rfl
      | clean =>
        have unfinished := EnvelopeReader.unfinished_feed (EnvelopeReader.unfinished_new capacity) fault
        rw [all fault, List.append_nil]
        exact congrArg _ (endOfEnvelopes_of_unfinished unfinished)

end ReadLoop

end Courier
