import Courier.Proofs.Pipe.Alone
import Courier.Proofs.Wire.Frames

/-!
# What becomes of the bytes of a corrupt stream

When a reader finds a fault, the pipe drops the stream, but it keeps the reader and the
generation until another stream is attached.  Bytes of the corrupt stream that are still
under way reach the same reader.

A length out of bounds stays at the front of the reader, so it is found again whatever
follows, and such a stream is dead (`PacketReader.Jammed`, `Pipe.Deaf`).  Every other
fault is found in a body that has been consumed.  The reader then goes on behind it, and
packets there are handled as ever; nothing is written, for the stream is gone
(`Pipe.Mute`).
-/

namespace Courier

set_option autoImplicit false

/-! ## Readers that find the same fault again -/

namespace PacketReader

/-- At the front is a length that is out of bounds. -/
structure Jammed (reader : PacketReader) : Prop where
  enough : 4 ≤ reader.pending.length
  bounds : Bytes.toNatBE (reader.pending.take 4) < 4 ∨
    reader.maxBody < Bytes.toNatBE (reader.pending.take 4)

variable {reader : PacketReader}

theorem Jammed.push (jammed : reader.Jammed) (bytes : Bytes) : (reader.push bytes).Jammed := by
  refine ⟨?_, ?_⟩
  · rw [pending_push, List.length_append]
    exact Nat.le_add_right_of_le jammed.enough
  · rw [pending_push, List.take_append_of_le_length jammed.enough]
    exact jammed.bounds

/-- A jammed reader finds the fault, and stays jammed. -/
theorem Jammed.drain (jammed : reader.Jammed) :
    (∃ fault : PacketError, fault.IsLength ∧ reader.drain = ([], some fault, reader.settled)) ∧
      reader.settled.Jammed := by
  have found : reader.next =
      (.error (.badLength (Packet.announced reader.pending) reader.maxBody), reader.settled) := by
    rw [next_eq, if_neg (Nat.not_lt.mpr jammed.enough)]
    exact if_pos jammed.bounds
  refine ⟨⟨.badLength (Packet.announced reader.pending) reader.maxBody, trivial, ?_⟩, ?_⟩
  · rw [drain_of_error (congrArg Prod.fst found), found]
  · exact ⟨by simpa using jammed.enough, by rw [pending_settled]; exact jammed.bounds⟩

/-- After a fault in a length, the reader is jammed. -/
theorem jammed_of_next {fault : PacketError} (found : reader.next.1 = .error fault)
    (isLength : fault.IsLength) : reader.next.2.Jammed := by
  rcases fault_cases found with ⟨-, bad, kept⟩ | ⟨_, _, -, -, spelled⟩
  · refine ⟨?_, ?_⟩
    · rw [kept]
      exact bad.enough
    · rw [kept, maxBody_next]
      exact bad.bounds
  · exact absurd isLength (Packet.not_isLength_of_decodeBody spelled)

theorem jammed_of_drain (reader : PacketReader) {fault : PacketError}
    (found : reader.drain.2.1 = some fault) (isLength : fault.IsLength) :
    reader.drain.2.2.Jammed := by
  fun_induction PacketReader.drain reader with
  | case1 reader packet read packets other rest drained ih =>
    rw [drained] at ih
    exact ih found
  | case2 reader none => cases found
  | case3 reader other failed =>
    cases found
    exact jammed_of_next failed isLength

end PacketReader

/-! ## Reactions to several packets -/

theorem Reaction.append_assoc (first second third : Reaction) :
    first ++ second ++ third = first ++ (second ++ third) := by
  change Reaction.mk _ _ _ = Reaction.mk _ _ _
  simp

namespace Exchange

theorem handleAll_append (exchange : Exchange) (first second : List Packet) :
    exchange.handleAll (first ++ second) =
      ((exchange.handleAll first).1 ++ ((exchange.handleAll first).2.handleAll second).1,
        ((exchange.handleAll first).2.handleAll second).2) := by
  induction first generalizing exchange with
  | nil => rfl
  | cons packet first ih =>
    simp only [List.cons_append, handleAll, ih, Reaction.append_assoc]

end Exchange

namespace Pipe

/-! ## Pipes that ignore the bytes of a generation -/

/-- Bytes of a generation change no table, and bring no delivery, no outcome and no packet.  All
that can come of them is that the stream of the generation is lost again. -/
structure Ignores (pipe : Pipe) (generation : Nat) (bytes : Bytes) : Prop where
  exchange : (pipe.accept generation bytes).1.exchange = pipe.exchange
  waiting : (pipe.accept generation bytes).1.waiting = pipe.waiting
  effects : ∀ effect ∈ (pipe.accept generation bytes).2, ∃ cause, effect = .lose generation cause

/-- The pipe does not hear the stream of a generation any more. -/
def Deaf (generation : Nat) (pipe : Pipe) : Prop :=
  generation < pipe.generation ∨ pipe.closed = true ∨
    generation = pipe.generation ∧ pipe.reader.Jammed

variable {pipe : Pipe} {generation : Nat}

theorem Deaf.operate (deaf : Deaf generation pipe) (operation : PipeOperation) :
    Deaf generation (pipe.operate operation).1 := by
  cases pipe.moves operation with
  | stay settings reader same attached closed =>
    unfold Deaf
    rwa [same, reader, closed]
  | read isOpen settings reader same attached closed =>
    unfold Deaf
    rw [same, reader, closed]
    rcases deaf with stale | shut | ⟨current, jammed⟩
    · exact .inl stale
    · exact .inr (.inl shut)
    · obtain ⟨⟨fault, _, drained⟩, still⟩ := (jammed.push _).drain
      exact .inr (.inr ⟨current, by rw [drained]; exact still⟩)
  | renew attaching settings reader next attached closed =>
    unfold Deaf
    rw [next, closed]
    rcases deaf with stale | shut | ⟨current, jammed⟩
    · exact .inl (Nat.lt_succ_of_lt stale)
    · exact .inr (.inl shut)
    · exact .inl (current ▸ Nat.lt_succ_self _)
  | finish settings reader same attached closed => exact .inr (.inl closed)

theorem Deaf.ignores (deaf : Deaf generation pipe) (bytes : Bytes) :
    pipe.Ignores generation bytes := by
  by_cases unread : generation ≠ pipe.generation ∨ pipe.closed
  · have nothing : pipe.accept generation bytes = (pipe, []) := if_pos unread
    exact ⟨by rw [nothing], by rw [nothing], by simp [nothing]⟩
  · obtain ⟨rfl, isOpen⟩ : generation = pipe.generation ∧ pipe.closed = false := by
      simpa using unread
    have jammed : pipe.reader.Jammed := by
      rcases deaf with stale | shut | ⟨_, jammed⟩
      · exact absurd stale (Nat.lt_irrefl _)
      · simp [isOpen] at shut
      · exact jammed
    obtain ⟨⟨fault, _, drained⟩, _⟩ := (jammed.push bytes).drain
    refine ⟨?_, ?_, ?_⟩ <;> simp only [accept, if_neg unread, drained, Exchange.handleAll]
    · simp [Reaction.none]
    · simp [Reaction.none, reply, corruption]

/-! ## Pipes that write nothing to the stream of a generation -/

/-- The stream of a generation is not in use any more. -/
structure Mute (generation : Nat) (pipe : Pipe) : Prop where
  past : generation ≤ pipe.generation
  lost : generation = pipe.generation → pipe.attached = none

theorem Mute.operate (mute : Mute generation pipe) (operation : PipeOperation) :
    Mute generation (pipe.operate operation).1 := by
  cases pipe.moves operation with
  | stay settings reader same attached closed =>
    refine ⟨same ▸ mute.past, fun current => ?_⟩
    rcases attached with kept | dropped
    · exact kept.trans (mute.lost (current.trans same))
    · exact dropped
  | read isOpen settings reader same attached closed =>
    exact ⟨by rw [same]; exact mute.past,
      fun current => attached.trans (mute.lost (current.trans same))⟩
  | renew attaching settings reader next attached closed =>
    refine ⟨next ▸ Nat.le_succ_of_le mute.past, fun current => ?_⟩
    have past := mute.past
    omega
  | finish settings reader same attached closed => exact ⟨same ▸ mute.past, fun _ => attached⟩

theorem Mute.accept (mute : Mute generation pipe) (bytes : Bytes) :
    ∀ effect ∈ (pipe.accept generation bytes).2, effect.written = [] := by
  by_cases unread : generation ≠ pipe.generation ∨ pipe.closed
  · have nothing : pipe.accept generation bytes = (pipe, []) := if_pos unread
    simp [nothing]
  · have current : generation = pipe.generation := by
      by_contra other
      exact unread (.inl other)
    have answers (packets : List Packet) : pipe.reply generation packets = [] := by
      cases packets <;> simp [reply, mute.lost current]
    intro effect asked
    simp only [Pipe.accept, if_neg unread, answers, List.append_nil] at asked
    rcases List.mem_append.mp asked with told | dropped
    · rcases List.mem_append.mp told with reported | woken
      · obtain ⟨entry, _, rfl⟩ := List.mem_map.mp reported
        rfl
      · split at woken
        · cases woken
        · cases List.mem_singleton.mp woken
          rfl
    · unfold corruption at dropped
      split at dropped
      · cases dropped
      · cases List.mem_singleton.mp dropped
        rfl

/-- A stream that has been lost is not in use, and it is lost only once. -/
theorem Coherent.lose {given : PipeSettings} (coherent : Coherent given pipe)
    (past : generation ≤ pipe.generation) (cause : Option StreamError) :
    Mute generation (pipe.lose generation cause).1 := by
  unfold Pipe.lose
  split
  · rename_i nothing
    exact ⟨past, fun _ => nothing⟩
  · rename_i attachment attached
    have newest := coherent.attached attachment attached
    split
    · exact ⟨past, fun _ => rfl⟩
    · rename_i other
      exact ⟨past, fun current => absurd (newest.trans current.symm) other⟩

/-! ## Pipes that go on reading -/

/-- The tables after bytes of the newest stream. -/
theorem accept_fst (isOpen : pipe.closed = false) (bytes : Bytes) :
    let read := (pipe.reader.push bytes).drain
    let handled := pipe.exchange.handleAll read.1
    (pipe.accept pipe.generation bytes).1 = { pipe with
      reader := read.2.2, exchange := handled.2
      waiting := pipe.waiting ++ handled.1.deliveries } := by
  have read : ¬ (pipe.generation ≠ pipe.generation ∨ pipe.closed = true) := by simp [isOpen]
  simp only [accept, if_neg read]

/-- What is told on bytes of the newest stream. -/
theorem filterMap_told?_accept (isOpen : pipe.closed = false) (bytes : Bytes) :
    (pipe.accept pipe.generation bytes).2.filterMap PipeEffect.told? =
      (pipe.exchange.handleAll (pipe.reader.push bytes).drain.1).1.outcomes := by
  have read : ¬ (pipe.generation ≠ pipe.generation ∨ pipe.closed = true) := by simp [isOpen]
  have told (entries : List (Ticket × Outcome)) :
      (entries.map fun entry => PipeEffect.report entry.1 entry.2).filterMap PipeEffect.told? =
        entries := by
    rw [List.filterMap_map]
    exact List.filterMap_some
  have woken (handed : Bool) :
      (if handed then [] else [PipeEffect.wake]).filterMap PipeEffect.told? = [] := by
    cases handed <;> rfl
  have answered (packets : List Packet) :
      (pipe.reply pipe.generation packets).filterMap PipeEffect.told? = [] := by
    unfold reply
    split
    · rfl
    · split
      · unfold write
        split <;> rfl
      · rfl
  have dropped (fault : Option PacketError) :
      (corruption pipe.generation fault).filterMap PipeEffect.told? = [] := by
    cases fault <;> rfl
  simp only [accept, if_neg read, List.filterMap_append, told, woken, answered, dropped,
    List.append_nil]

/-- What a pipe does with bytes of its newest stream in which the reader finds no fault. -/
theorem operateAll_accept (isOpen : pipe.closed = false) (buffers : List Bytes)
    (faultless : (pipe.reader.feed buffers).2.1 = none) :
    let handled := pipe.exchange.handleAll (pipe.reader.feed buffers).1
    let run := pipe.operateAll (buffers.map (.accept pipe.generation))
    run.1.exchange = handled.2 ∧ run.1.waiting = pipe.waiting ++ handled.1.deliveries ∧
      run.2.filterMap PipeEffect.told? = handled.1.outcomes := by
  induction buffers generalizing pipe with
  | nil => exact ⟨rfl, (List.append_nil _).symm, rfl⟩
  | cons buffer buffers ih =>
    have quiet := PacketReader.drain_of_feed_cons faultless
    have first := accept_fst isOpen buffer
    rw [PacketReader.feed_cons_of_faultless quiet] at faultless ⊢
    obtain ⟨exchange, waiting, reported⟩ := by
      have later := @ih (pipe.accept pipe.generation buffer).1
      rw [first] at later
      exact later isOpen faultless
    simp only [List.map_cons, operateAll, operate, Exchange.handleAll_append, first,
      List.filterMap_append, filterMap_told?_accept isOpen, Reaction.deliveries_append,
      Reaction.outcomes_append]
    refine ⟨exchange, ?_, by rw [reported]⟩
    rw [waiting, List.append_assoc]

/-! ## After a fault -/

theorem Deaf.operateAll (deaf : Deaf generation pipe) (operations : List PipeOperation) :
    Deaf generation (pipe.operateAll operations).1 :=
  invariant (Deaf generation) (fun _ operation deaf => deaf.operate operation) deaf operations

theorem Mute.operateAll (mute : Mute generation pipe) (operations : List PipeOperation) :
    Mute generation (pipe.operateAll operations).1 :=
  invariant (Mute generation) (fun _ operation mute => mute.operate operation) mute operations

/-- A pipe that has been closed hears no stream. -/
theorem deaf_of_close (pipe : Pipe) {operations : List PipeOperation}
    (closing : PipeOperation.close ∈ operations) (generation : Nat) :
    Deaf generation (pipe.operateAll operations).1 := by
  obtain ⟨first, rest, rfl⟩ := List.append_of_mem closing
  have closed (pipe : Pipe) : pipe.close.1.closed = true := by
    unfold close
    split
    · assumption
    · rfl
  rw [operateAll_append]
  exact Deaf.operateAll (.inr (.inl (closed _))) rest

/-- The generation of a pipe does not go back. -/
theorem generation_le_operateAll (pipe : Pipe) (operations : List PipeOperation) :
    pipe.generation ≤ (pipe.operateAll operations).1.generation := by
  refine invariant (fun after => pipe.generation ≤ after.generation)
    (fun after operation past => past.trans ?_) (Nat.le_refl _) operations
  cases after.moves operation with
  | stay _ _ same | read _ _ _ same | finish _ _ same => exact Nat.le_of_eq same.symm
  | renew _ _ _ next => exact next ▸ Nat.le_succ _

/-- The pipe that takes bytes with a fault, and loses the stream when other things have happened
meanwhile. -/
def dropped (pipe : Pipe) (bytes : Bytes) (between : List PipeOperation)
    (cause : Option StreamError) : Pipe :=
  (((pipe.accept pipe.generation bytes).1.operateAll between).1.lose pipe.generation cause).1

theorem deaf_dropped {bytes : Bytes} {fault : PacketError} (isOpen : pipe.closed = false)
    (found : (pipe.reader.push bytes).drain.2.1 = some fault) (isLength : fault.IsLength)
    (between : List PipeOperation) (cause : Option StreamError) :
    Deaf pipe.generation (pipe.dropped bytes between cause) := by
  have jammed : Deaf pipe.generation (pipe.accept pipe.generation bytes).1 := by
    rw [accept_fst isOpen]
    exact .inr (.inr ⟨rfl, PacketReader.jammed_of_drain _ found isLength⟩)
  exact (jammed.operateAll between).operate (.lose pipe.generation cause)

theorem mute_dropped {given : PipeSettings} (coherent : Coherent given pipe) (bytes : Bytes)
    (between : List PipeOperation) (cause : Option StreamError) :
    Mute pipe.generation (pipe.dropped bytes between cause) :=
  (coherent.operateAll (.accept pipe.generation bytes :: between)).lose
    (pipe.generation_le_operateAll (.accept pipe.generation bytes :: between)) cause

/-- The loss of the stream leaves a pipe as the bytes have left it. -/
theorem operateAll_dropped {given : PipeSettings} (coherent : Coherent given pipe) {bytes : Bytes}
    (isOpen : pipe.closed = false) (cause : Option StreamError) {packets : List Packet}
    {buffers : List Bytes} (some : buffers ≠ [])
    (fit : ∀ packet ∈ packets, packet.Fits (max given.maxPacketBytes 4))
    (cut : (pipe.dropped bytes [] cause).reader.pending ++ buffers.flatten =
      packets.flatMap Packet.encode) :
    let handled := (pipe.dropped bytes [] cause).exchange.handleAll packets
    let run := (pipe.dropped bytes [] cause).operateAll (buffers.map (.accept pipe.generation))
    run.1.exchange = handled.2 ∧
      run.1.waiting = (pipe.dropped bytes [] cause).waiting ++ handled.1.deliveries ∧
      run.2.filterMap PipeEffect.told? = handled.1.outcomes := by
  have limit :=
    (coherent.operateAll [.accept pipe.generation bytes, .lose pipe.generation cause]).limit
  have kept : (pipe.dropped bytes [] cause).closed = false ∧
      (pipe.dropped bytes [] cause).generation = pipe.generation := by
    have still : (pipe.accept pipe.generation bytes).1.closed = false := by
      rw [accept_fst isOpen]
      exact isOpen
    have same : (pipe.accept pipe.generation bytes).1.generation = pipe.generation := by
      rw [accept_fst isOpen]
    cases (pipe.accept pipe.generation bytes).1.moves (.lose pipe.generation cause) with
    | stay _ _ generation _ closed =>
      exact ⟨closed.trans still, generation.trans same⟩
    | renew attaching => simp at attaching
  obtain ⟨read, faultless, _⟩ := PacketReader.feed_rest (pipe.dropped bytes [] cause).reader
    (fun packet listed => limit ▸ fit packet listed) some cut
  have handled := operateAll_accept kept.1 buffers faultless
  rwa [read, kept.2] at handled

/-- **What becomes of the bytes of a corrupt stream that has been lost**, whatever has happened
before the fault, between it and the loss, and after the loss.

* If the fault is in a length, or once the pipe is closed, its bytes change no table and bring no
  delivery, no outcome and no packet.
* Whatever the fault is, nothing is written for them.
* Otherwise the packets behind the fault are handled as ever: their messages are delivered and their
  outcomes told. -/
theorem accept_after_fault (given : PipeSettings) (before : List PipeOperation) {bytes : Bytes}
    {fault : PacketError} (isOpen : (after given before).closed = false)
    (found : ((after given before).reader.push bytes).drain.2.1 = some fault)
    (cause : Option StreamError) :
    let pipe := after given before
    (∀ between later, fault.IsLength ∨ PipeOperation.close ∈ later → ∀ more,
        ((pipe.dropped bytes between cause).operateAll later).1.Ignores pipe.generation more) ∧
      (∀ between later more, ∀ effect ∈
          (((pipe.dropped bytes between cause).operateAll later).1.accept pipe.generation more).2,
        effect.written = []) ∧
      ∀ packets buffers, buffers ≠ [] →
        (∀ packet ∈ packets, packet.Fits (max given.maxPacketBytes 4)) →
        (pipe.dropped bytes [] cause).reader.pending ++ buffers.flatten =
          packets.flatMap Packet.encode →
        let handled := (pipe.dropped bytes [] cause).exchange.handleAll packets
        let run := (pipe.dropped bytes [] cause).operateAll (buffers.map (.accept pipe.generation))
        run.1.exchange = handled.2 ∧
          run.1.waiting = (pipe.dropped bytes [] cause).waiting ++ handled.1.deliveries ∧
          run.2.filterMap PipeEffect.told? = handled.1.outcomes := by
  have coherent := coherent_after given before
  refine ⟨fun between later reason more => ?_, fun between later more => ?_,
    fun packets buffers some fit cut => operateAll_dropped coherent isOpen cause some fit cut⟩
  · rcases reason with isLength | closing
    · exact ((deaf_dropped isOpen found isLength between cause).operateAll later).ignores more
    · exact (deaf_of_close _ closing _).ignores more
  · exact ((mute_dropped coherent bytes between cause).operateAll later).accept more

/-- A pipe that has a receiver and a stream, and waits for the outcome of a message. -/
def joined : List PipeOperation := [.bind, .attach 7, .send [5] 0]

/-- A length that is out of bounds. -/
def shortLength : Bytes := [0, 0, 0, 2]

/-- A frame in order whose body is of no kind. -/
def strangeKind : Bytes := [0, 0, 0, 4, 9, 0, 0, 0]

/-- What the pipe says of it. -/
def strangeCause : Option StreamError :=
  some (.broken s!"corrupt stream: {(PacketError.unknownKind 9).message}")

/-- A message, and the last answer to another one. -/
def behindFault : List Packet := [.data .zero [1], .ackDelivered .zero]

/-- After a length out of bounds, the packets are ignored, whatever is sent meanwhile; after a body
of no kind, they are handled, and nothing is written. -/
theorem accept_after_fault_joined :
    (((after .standard joined).dropped shortLength [] none).operateAll [.send [6] 1]).1.Ignores 1
        (behindFault.flatMap Packet.encode) ∧
      (((after .standard joined).dropped strangeKind [] strangeCause).operateAll
        [.accept 1 (behindFault.flatMap Packet.encode)]).1.waiting = [(.zero, [1])] ∧
      ∀ effect ∈ (((after .standard joined).dropped strangeKind [] strangeCause).accept 1
        (behindFault.flatMap Packet.encode)).2, effect.written = [] := by
  have short : ((after .standard joined).reader.push shortLength).drain.2.1 =
      some (.badLength 2 16777216) := by decide +kernel
  have strange : ((after .standard joined).reader.push strangeKind).drain.2.1 =
      some (.unknownKind 9) := by decide +kernel
  have dead := accept_after_fault .standard joined rfl short none
  have heard := accept_after_fault .standard joined rfl strange strangeCause
  refine ⟨dead.1 [] [.send [6] 1] (.inl trivial) _, ?_, heard.2.1 [] [] _⟩
  refine (heard.2.2 behindFault [behindFault.flatMap Packet.encode] (by simp) ?_ ?_).2.1.trans
    (by decide +kernel)
  · unfold Packet.Fits
    decide +kernel
  · decide +kernel

/-- A stream with a body of no kind has been lost, and yet the packets behind it change both tables,
hand over a message, and tell the outcome of another one. -/
theorem heard_after_strangeKind :
    ((after .standard joined).reader.push strangeKind).drain.2.1 = some (.unknownKind 9) ∧
      ((after .standard joined).dropped strangeKind [] strangeCause).attached = none ∧
      ((after .standard joined).dropped strangeKind [] strangeCause).exchange.inbound = [] ∧
      ((after .standard joined).dropped strangeKind [] strangeCause).inFlight = 1 ∧
      let heard := ((after .standard joined).dropped strangeKind [] strangeCause).accept 1
        (behindFault.flatMap Packet.encode)
      heard.1.exchange.inbound = [(.zero, .received)] ∧ heard.1.inFlight = 0 ∧
        heard.1.waiting = [(.zero, [1])] ∧ heard.2.filterMap PipeEffect.told? = [(0, .ok ())] ∧
        ¬ ((after .standard joined).dropped strangeKind [] strangeCause).Ignores 1
          (behindFault.flatMap Packet.encode) := by
  refine ⟨by decide +kernel, rfl, by decide +kernel, by decide +kernel, by decide +kernel,
    by decide +kernel, by decide +kernel, by decide +kernel, fun ignores => ?_⟩
  exact absurd ignores.waiting (by decide +kernel)

end Pipe

end Courier
