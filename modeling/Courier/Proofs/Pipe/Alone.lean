import Courier.Pipe.Basic
import Courier.Proofs.Wire.Fragments

/-!
# One pipe, whatever happens to it

Here a pipe stands alone: its application, its streams and its peer may do anything
at any time.  Bytes of any content arrive under any generation, also after the stream
was lost or replaced; verdicts are given on any message, and streams are attached and
lost in any order.  Every run of a pipe in its surroundings is among these runs, since
whatever an effect brings about at the pipe itself, such as the loss of the stream
after a write that failed, is an operation here.

What a run asked for is kept in order (`Pipe.operateAll`).  `Pipe.Coherent` is what
holds of a pipe at every moment, and `Pipe.invariant` takes what every operation keeps
to whole runs.
-/

namespace Courier

set_option autoImplicit false

namespace PipeEffect

/-- The packets that are written. -/
def written : PipeEffect → List Packet
  | .write _ _ packets => packets
  | _ => []

/-- What is told to who waits for a message. -/
def told? : PipeEffect → Option (Ticket × Outcome)
  | .report ticket outcome => some (ticket, outcome)
  | _ => none

end PipeEffect

/-- What can be done to a pipe. -/
inductive PipeOperation where
  | send (body : Bytes) (ticket : Ticket)
  | bind
  /-- The receiver takes the next message that waits. -/
  | take
  | conclude (id : MessageId) (verdict : Except String Unit)
  | accept (generation : Nat) (bytes : Bytes)
  /-- A stream is put in use; what has to be said on it is written once it is bound. -/
  | attach (stream : StreamId)
  /-- A stream is put in use that cannot be bound. -/
  | attachInVain (stream : StreamId)
  | lose (generation : Nat) (cause : Option StreamError)
  | close

namespace Pipe

/-- The pipe after an operation, and what it asks for. -/
def operate (pipe : Pipe) : PipeOperation → Pipe × List PipeEffect
  | .send body ticket => (pipe.send body ticket).2
  | .bind => (match pipe.bind with | .ok bound => bound | .error _ => pipe, [])
  | .take => (match pipe.takeWaiting with | some (_, after) => after | none => pipe, [])
  | .conclude id verdict => pipe.conclude id verdict
  | .accept generation bytes => pipe.accept generation bytes
  | .attach stream =>
    match pipe.install stream with
    | .ok (after, effects, packets) =>
      (after, effects ++ [.write stream after.generation packets])
    | .error _ => (pipe, [])
  | .attachInVain stream =>
    match pipe.install stream with
    | .ok (after, effects, _) => (after.uninstall after.generation, effects)
    | .error _ => (pipe, [])
  | .lose generation cause => pipe.lose generation cause
  | .close => pipe.close

/-- The pipe after several operations, and what they ask for in order. -/
def operateAll (pipe : Pipe) : List PipeOperation → Pipe × List PipeEffect
  | [] => (pipe, [])
  | operation :: operations =>
    (((pipe.operate operation).1.operateAll operations).1,
      (pipe.operate operation).2 ++ ((pipe.operate operation).1.operateAll operations).2)

theorem operateAll_append (pipe : Pipe) (first second : List PipeOperation) :
    pipe.operateAll (first ++ second) =
      (((pipe.operateAll first).1.operateAll second).1,
        (pipe.operateAll first).2 ++ ((pipe.operateAll first).1.operateAll second).2) := by
  induction first generalizing pipe with
  | nil => rfl
  | cons operation first ih =>
    simp only [List.cons_append, operateAll, ih, List.append_assoc]

/-- A pipe that has just been made, after several operations. -/
abbrev after (settings : PipeSettings) (operations : List PipeOperation) : Pipe :=
  ((new settings).operateAll operations).1

/-- What every operation keeps holds after any number of them. -/
theorem invariant (Holds : Pipe → Prop)
    (step : ∀ pipe operation, Holds pipe → Holds (pipe.operate operation).1)
    {pipe : Pipe} (start : Holds pipe) (operations : List PipeOperation) :
    Holds (pipe.operateAll operations).1 := by
  induction operations generalizing pipe with
  | nil => exact start
  | cons operation operations ih => exact ih (step pipe operation start)

/-! ## What an operation can do to the stream in use

What becomes of bytes depends on the reader, the generation, the stream in use, and whether the pipe
is closed; and a receiver stays. -/

/-- What an operation makes of the stream in use and of the reader of its bytes. -/
inductive Moves (pipe : Pipe) : PipeOperation → Pipe → Prop where
  /-- Nothing changes, except that the stream may be dropped. -/
  | stay {operation : PipeOperation} {after : Pipe} (settings : after.settings = pipe.settings)
      (reader : after.reader = pipe.reader)
      (generation : after.generation = pipe.generation)
      (attached : after.attached = pipe.attached ∨ after.attached = none)
      (closed : after.closed = pipe.closed)
      (listening : pipe.reception ≠ .unbound → after.reception ≠ .unbound) :
      Moves pipe operation after
  /-- Bytes of the stream in use are read. -/
  | read {bytes : Bytes} {after : Pipe} (isOpen : pipe.closed = false)
      (settings : after.settings = pipe.settings)
      (reader : after.reader = (pipe.reader.push bytes).drain.2.2)
      (generation : after.generation = pipe.generation)
      (attached : after.attached = pipe.attached) (closed : after.closed = pipe.closed)
      (listening : after.reception = pipe.reception) :
      Moves pipe (.accept pipe.generation bytes) after
  /-- A stream is put in use, or was to be. -/
  | renew {operation : PipeOperation} {after : Pipe} {stream : StreamId}
      (attaching : operation = .attach stream ∨ operation = .attachInVain stream)
      (settings : after.settings = pipe.settings)
      (reader : after.reader = .new pipe.settings.maxPacketBytes)
      (generation : after.generation = pipe.generation + 1)
      (attached : ∀ attachment ∈ after.attached, attachment.generation = pipe.generation + 1)
      (closed : after.closed = pipe.closed) (listening : after.reception = pipe.reception) :
      Moves pipe operation after
  /-- The pipe is closed. -/
  | finish {after : Pipe} (settings : after.settings = pipe.settings)
      (reader : after.reader = pipe.reader)
      (generation : after.generation = pipe.generation) (attached : after.attached = none)
      (closed : after.closed = true) (listening : after.reception = pipe.reception) :
      Moves pipe .close after

variable (pipe : Pipe)

theorem moves (operation : PipeOperation) : Moves pipe operation (pipe.operate operation).1 := by
  have same : Moves pipe operation pipe := .stay rfl rfl rfl (.inl rfl) rfl id
  cases operation with
  | send body ticket =>
    simp only [operate, send]
    split
    · exact same
    split
    · exact same
    · exact .stay rfl rfl rfl (.inl rfl) rfl id
  | bind =>
    simp only [operate, bind]
    split
    · rename_i bound done
      split at done
      · cases done
      split at done <;> cases done
      exact .stay rfl rfl rfl (.inl rfl) rfl (by simp)
    · exact same
  | take =>
    simp only [operate, takeWaiting]
    split
    · rename_i message after taken
      split at taken <;> cases taken
      exact .stay rfl rfl rfl (.inl rfl) rfl id
    · exact same
  | conclude message verdict =>
    simp only [operate, conclude]
    split
    · exact .stay rfl rfl rfl (.inl rfl) rfl (by simp)
    · split <;> exact .stay rfl rfl rfl (.inl rfl) rfl id
  | accept generation bytes =>
    simp only [operate, accept]
    split
    · exact same
    · rename_i current
      obtain ⟨rfl, isOpen⟩ : generation = pipe.generation ∧ pipe.closed = false := by
        simpa using current
      exact .read isOpen rfl rfl rfl rfl rfl rfl
  | attach stream =>
    simp only [operate, install]
    split
    · rename_i after effects packets installed
      split at installed <;> cases installed
      exact .renew (.inl rfl) rfl rfl rfl (by simp) rfl rfl
    · exact same
  | attachInVain stream =>
    simp only [operate, install]
    split
    · rename_i after effects packets installed
      split at installed <;> cases installed
      simp only [uninstall, if_true]
      exact .renew (.inr rfl) rfl rfl rfl (by simp) rfl rfl
    · exact same
  | lose generation cause =>
    simp only [operate, lose]
    split
    · exact same
    split
    · exact .stay rfl rfl rfl (.inr rfl) rfl id
    · exact same
  | close =>
    simp only [operate, close]
    split
    · exact same
    · exact .finish rfl rfl rfl rfl rfl rfl

/-- The stream in use is still the last one that was attached. -/
theorem Moves.newest {pipe after : Pipe} {operation : PipeOperation}
    (moves : Moves pipe operation after)
    (newest : ∀ attachment ∈ pipe.attached, attachment.generation = pipe.generation) :
    ∀ attachment ∈ after.attached, attachment.generation = after.generation := by
  cases moves with
  | stay _ _ generation attached =>
    rw [generation]
    rcases attached with kept | dropped
    · exact kept ▸ newest
    · simp [dropped]
  | read _ _ _ generation attached =>
    rw [generation, attached]
    exact newest
  | renew _ _ _ generation attached => rwa [generation]
  | finish _ _ _ attached => simp [attached]

/-! ## What holds at every moment -/

/-- What holds of a pipe whatever has happened to it. -/
structure Coherent (given : PipeSettings) (pipe : Pipe) : Prop where
  settings : pipe.settings = given
  limit : pipe.reader.maxBody = max given.maxPacketBytes 4
  /-- A stream that is in use is the last one that was attached. -/
  attached : ∀ attachment ∈ pipe.attached, attachment.generation = pipe.generation

variable {pipe} {given : PipeSettings}

theorem Coherent.operate (coherent : Coherent given pipe) (operation : PipeOperation) :
    Coherent given (pipe.operate operation).1 := by
  have moves := pipe.moves operation
  have newest := moves.newest coherent.attached
  cases moves with
  | stay settings reader =>
    exact ⟨settings.trans coherent.settings, reader ▸ coherent.limit, newest⟩
  | read isOpen settings reader =>
    refine ⟨settings.trans coherent.settings, ?_, newest⟩
    rw [reader, PacketReader.maxBody_drain, PacketReader.maxBody_push]
    exact coherent.limit
  | renew attaching settings reader =>
    refine ⟨settings.trans coherent.settings, ?_, newest⟩
    rw [reader, coherent.settings]
    rfl
  | finish settings reader =>
    exact ⟨settings.trans coherent.settings, reader ▸ coherent.limit, newest⟩

theorem Coherent.operateAll (coherent : Coherent given pipe) (operations : List PipeOperation) :
    Coherent given (pipe.operateAll operations).1 :=
  invariant (Coherent given) (fun _ operation coherent => coherent.operate operation) coherent
    operations

theorem coherent_after (given : PipeSettings) (operations : List PipeOperation) :
    Coherent given (after given operations) := by
  have start : Coherent given (new given) := ⟨rfl, rfl, by simp [new]⟩
  exact start.operateAll operations

end Pipe

end Courier
