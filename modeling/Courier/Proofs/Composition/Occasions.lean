import Courier.Proofs.Composition.Teardown
import Courier.Proofs.Marshal.Keeping
import Courier.Proofs.Pipe.Alone

/-!
# What happens at an endpoint

The application sends, calls, answers and exports; streams are attached, bring bytes of
any content, and are lost; messages that have arrived are handed over; and any part may
be closed at any time, more than once.  An occasion changes an endpoint at once and puts
the rest on an agenda (`Endpoint.befall`).

No occasion ends a part by itself, and after the end none has anything done but that a
call of the peer is run that had arrived before (`Endpoint.Befalls`).

A call, and the answer to one, is one occasion, from the check that the channel is open to
the packet on the pipe.  So nothing is said here of an endpoint that is closed while the
values of a call are on their way through the stages, after the check and before the pipe
is asked to send.
-/

namespace Courier

set_option autoImplicit false

/-! ## Pipes -/

namespace Pipe

variable {pipe : Pipe}

/-- At a closed pipe nothing is done any more. -/
theorem operate_of_closed (closed : pipe.closed = true) (unused : pipe.attached = none)
    (operation : PipeOperation) :
    (pipe.operate operation).1.exchange = pipe.exchange ∧
      (pipe.operate operation).1.attached = none ∧ (pipe.operate operation).2 = [] := by
  cases operation with
  | send | conclude | accept | attach | attachInVain | lose | close =>
    simp [operate, send, conclude, accept, install, lose, close, closed, unused]
  | bind => simp [operate, bind, closed, unused]
  | take =>
    simp only [operate, takeWaiting]
    split
    · rename_i message after taken
      split at taken <;> cases taken
      exact ⟨rfl, unused, trivial⟩
    · exact ⟨rfl, unused, trivial⟩

/-- An operation other than closing leaves a pipe open or closed as it is. -/
theorem Proper.operate (proper : pipe.Proper) {operation : PipeOperation}
    (other : operation ≠ .close) :
    (pipe.operate operation).1.Proper ∧ (pipe.operate operation).1.closed = pipe.closed := by
  have moves := pipe.moves operation
  have newest := moves.newest proper.newest
  obtain ⟨closed, listening⟩ : (pipe.operate operation).1.closed = pipe.closed ∧
      (pipe.operate operation).1.reception ≠ .unbound := by
    cases moves with
    | stay _ _ _ _ closed listening => exact ⟨closed, listening proper.listening⟩
    | read _ _ _ _ _ closed listening => exact ⟨closed, listening ▸ proper.listening⟩
    | renew _ _ _ _ _ closed listening => exact ⟨closed, listening ▸ proper.listening⟩
    | finish => exact absurd rfl other
  refine ⟨⟨listening, newest, fun shut => ?_⟩, closed⟩
  obtain ⟨outbound, inbound, unused⟩ := proper.emptied (closed ▸ shut)
  obtain ⟨exchange, attached, _⟩ := operate_of_closed (closed ▸ shut) unused operation
  exact ⟨exchange ▸ outbound, exchange ▸ inbound, attached⟩

end Pipe

/-! ## Channels -/

namespace Channel

/-- A channel holds no call and no export. -/
def Bare (channel : Channel) : Prop := channel.calls.pending = [] ∧ channel.exports.entries = []

/-- A change that leaves a channel that has ended bare, and then asks for nothing but that a call of
the peer is run. -/
structure Follows (channel : Channel) (changed : Channel × List ChannelEffect) : Prop where
  terminated : changed.1.terminated = channel.terminated
  bare : channel.terminated = true → channel.Bare → changed.1.Bare
  silent : channel.terminated = true → channel.Bare →
    ∀ effect ∈ changed.2, ∃ request, effect = .run request

theorem follows_completeCall (channel : Channel) (id : UInt64)
    (result : PendingCall → CallResult) : channel.Follows (channel.completeCall id result) := by
  refine ⟨rfl, fun _ bare => ⟨?_, bare.2⟩, fun _ bare => ?_⟩
  · simp [completeCall, CallTable.finish, bare.1]
  · simp [completeCall, CallTable.finish, CallTable.pending?, bare.1]

theorem follows_receive (channel : Channel) (message : ChannelMessage) :
    channel.Follows (channel.receive message) := by
  cases message with
  | call request => exact ⟨rfl, fun _ bare => bare, fun _ _ => by simp [receive]⟩
  | reply id outcome => exact channel.follows_completeCall id _
  | unreadable id reason => exact channel.follows_completeCall id _

theorem follows_exportObject (channel : Channel) (interfaces : List String)
    (service : ServiceRef) : channel.Follows ((channel.exportObject interfaces service).2, []) := by
  refine ⟨?_, fun terminated bare => ?_, by simp⟩
  · simp only [exportObject]
    split
    · rfl
    · split <;> rfl
  · simpa [exportObject, terminated] using bare

theorem follows_proxy (channel : Channel) (handle : RemoteHandle) :
    channel.Follows ((channel.proxy handle).2, []) := by
  refine ⟨congrArg Prod.snd (channel.standing_proxy handle), fun _ bare => ?_, by simp⟩
  simp only [proxy]
  split <;> exact bare

theorem follows_register (channel : Channel) (singletons : Singletons) :
    channel.Follows ({ channel with singletons }, []) :=
  ⟨rfl, fun _ bare => bare, by simp⟩

theorem exports_resolveNode (channel : Channel) (value : Value) :
    (resolveNode value channel).2.exports = channel.exports := by
  cases value with
  | remote handle =>
    simp only [resolveNode, resolve]
    cases channel.lookup? handle.instanceId with
    | none =>
      simp only [proxy]
      split <;> rfl
    | some service => rfl
  | _ => rfl

end Channel

/-- Reading a message exports nothing. -/
theorem Desk.keepsInward_exports {τ : Type} (further : List (Stage τ)) :
    (chain further).LeadsInward
      (MarshalChain.Unchanged fun desk : Desk τ => desk.channel.exports) := by
  intro stage listed
  rcases List.mem_append.mp listed with before | last
  · obtain ⟨other, _, rfl⟩ := List.mem_map.mp before
    exact fun _ _ => rfl
  · rw [List.mem_singleton.mp last]
    exact fun value desk => desk.channel.exports_resolveNode value

/-! ## Occasions -/

/-- What can happen at an endpoint. -/
inductive Occasion where
  /-- The application sends a message past the channel. -/
  | send (body : Bytes) (ticket : Ticket)
  /-- The application starts a call. -/
  | call (instanceId : String) (method : Method) (values : List Value) (callSite : String)
      (caller ticket : Ticket)
  /-- A call of the peer has ended. -/
  | answer (id : UInt64) (outcome : Except RemoteError Value) (ticket : Ticket)
  /-- It is known that the message of a call has not been delivered. -/
  | undelivered (id : UInt64) (error : PipeError)
  | exportObject (interfaces : List String) (service : ServiceRef)
  | proxy (handle : RemoteHandle)
  | register (name : String) (service : ServiceRef)
  | attach (stream : StreamId)
  /-- A stream is attached that cannot be bound. -/
  | attachInVain (stream : StreamId)
  /-- Bytes of the stream of a generation arrive. -/
  | arrive (generation : Nat) (bytes : Bytes)
  /-- The stream of a generation ends or breaks. -/
  | lost (generation : Nat) (cause : Option StreamError)
  /-- The next message that waits is shown to the channel. -/
  | hand
  /-- The channel has finished with a message. -/
  | conclude (id : MessageId) (verdict : Except String Unit)
  | close (layer : Layer)
  /-- The supervisor is told of something. -/
  | raise (severity : Severity)

namespace Endpoint

variable {τ : Type}

/-- Something is done to the pipe. -/
def operate (endpoint : Endpoint) (kept : τ) (operation : PipeOperation) :
    Endpoint × τ × List Action :=
  let (pipe, effects) := endpoint.pipe.operate operation
  ({ endpoint with pipe }, kept, effects.map (Action.pipe 0))

/-- Something is done to the channel. -/
def change (endpoint : Endpoint) (kept : τ) (changed : Channel × List ChannelEffect) :
    Endpoint × τ × List Action :=
  ({ endpoint with channel := changed.1 }, kept, changed.2.map (Action.channel 0))

/-- The channel, as it stands at a desk, sends a message. -/
def post (further : List (Stage τ)) (endpoint : Endpoint) (desk : Desk τ) (message : ChannelMessage)
    (ticket : Ticket) : Endpoint × τ × List Action :=
  match (message.encode (Desk.chain further)).run desk with
  | (.error _, after) => ({ endpoint with channel := after.channel }, after.kept, [])
  | (.ok bytes, after) =>
    { endpoint with channel := after.channel : Endpoint }.operate after.kept (.send bytes ticket)

/-- The channel reads a message. -/
def hear (further : List (Stage τ)) (endpoint : Endpoint) (kept : τ) (bytes : Bytes) :
    Endpoint × τ × List Action :=
  match (ChannelMessage.decode (Desk.chain further) bytes).run ⟨endpoint.channel, kept⟩ with
  | (.error _, after) => ({ endpoint with channel := after.channel }, after.kept, [])
  | (.ok message, after) => endpoint.change after.kept (after.channel.receive message)

/-- What an occasion changes at once, and what it puts on the agenda. -/
def befall (further : List (Stage τ)) (endpoint : Endpoint) (kept : τ) :
    Occasion → Endpoint × τ × List Action
  | .send body ticket => endpoint.operate kept (.send body ticket)
  | .call instanceId method values callSite caller ticket =>
    match endpoint.channel.startCall method callSite caller with
    | none => (endpoint, kept, [])
    | some (id, channel) =>
      endpoint.post further ⟨channel, kept⟩ (.call ⟨id, instanceId, method.signature, values⟩)
        ticket
  | .answer id outcome ticket =>
    if endpoint.channel.terminated then (endpoint, kept, [])
    else endpoint.post further ⟨endpoint.channel, kept⟩ (.reply id outcome) ticket
  | .undelivered id error => endpoint.change kept (endpoint.channel.callUndelivered id error)
  | .exportObject interfaces service =>
    endpoint.change kept ((endpoint.channel.exportObject interfaces service).2, [])
  | .proxy handle => endpoint.change kept ((endpoint.channel.proxy handle).2, [])
  | .register name service =>
    endpoint.change kept ({ endpoint.channel with
      singletons := endpoint.channel.singletons.register name service }, [])
  | .attach stream => endpoint.operate kept (.attach stream)
  | .attachInVain stream => endpoint.operate kept (.attachInVain stream)
  | .arrive generation bytes => endpoint.operate kept (.accept generation bytes)
  | .lost generation cause => (endpoint, kept, [.pipe 0 (.lose generation cause)])
  | .hand =>
    if endpoint.pipe.reception = .running then
      match endpoint.pipe.takeWaiting with
      | none => (endpoint, kept, [])
      | some ((_, bytes), pipe) => { endpoint with pipe : Endpoint }.hear further kept bytes
    else (endpoint, kept, [])
  | .conclude id verdict => endpoint.operate kept (.conclude id verdict)
  | .close layer => (endpoint, kept, [.close ⟨0, layer⟩])
  | .raise severity => (endpoint, kept, [.pipe 0 (.raise severity)])

/-! ## What an occasion does -/

/-- An occasion ends no part by itself, and leaves those that have ended as they are. -/
structure Befalls (endpoint : Endpoint) (agenda : List Action) (after : Endpoint) : Prop where
  sane : after.Sane
  closed : after.pipe.closed = endpoint.pipe.closed
  notified : after.notified = endpoint.notified
  terminated : after.channel.terminated = endpoint.channel.terminated
  phase : after.phase = endpoint.phase
  here : ∀ action ∈ agenda, action.Here
  unfinished : Action.finish 0 ∉ agenda
  /-- After the end nobody is told anything, and nothing is written. -/
  silent : endpoint.Ended → ∀ action ∈ agenda, ∀ deed ∈ action.deeds,
    ∃ request, deed = .run 0 request

variable {endpoint : Endpoint}

theorem Sane.nothing (sane : endpoint.Sane) : endpoint.Befalls [] endpoint :=
  ⟨sane, rfl, rfl, rfl, rfl, by simp, by simp, by simp⟩

theorem Sane.operate (sane : endpoint.Sane) (kept : τ) {operation : PipeOperation}
    (other : operation ≠ .close) :
    endpoint.Befalls (endpoint.operate kept operation).2.2
      (endpoint.operate kept operation).1 := by
  obtain ⟨proper, closed⟩ := sane.pipe.operate other
  refine ⟨⟨proper, sane.cleared⟩, closed, rfl, rfl, rfl, ?_, ?_, fun ended => ?_⟩
  · intro action listed
    obtain ⟨effect, _, rfl⟩ := List.mem_map.mp listed
    rfl
  · simp [Endpoint.operate]
  · simp [Endpoint.operate, (Pipe.operate_of_closed ended.pipe ended.attached operation).2.2]

theorem Sane.change (sane : endpoint.Sane) (kept : τ) {changed : Channel × List ChannelEffect}
    (follows : endpoint.channel.Follows changed) :
    endpoint.Befalls (endpoint.change kept changed).2.2 (endpoint.change kept changed).1 := by
  refine ⟨⟨sane.pipe, fun terminated => ?_⟩, rfl, rfl, follows.terminated, rfl, ?_, ?_,
    fun ended => ?_⟩
  · have before := follows.terminated.symm.trans terminated
    exact follows.bare before (sane.cleared before)
  · intro action listed
    obtain ⟨effect, _, rfl⟩ := List.mem_map.mp listed
    rfl
  · simp [Endpoint.change]
  · intro action listed deed done
    obtain ⟨effect, asked, rfl⟩ := List.mem_map.mp listed
    obtain ⟨request, rfl⟩ := follows.silent ended.channel ⟨ended.calls, ended.exports⟩ effect asked
    exact ⟨request, List.mem_singleton.mp done⟩

/-- An occasion may first change what does not end. -/
theorem Befalls.start {start after : Endpoint} {agenda : List Action}
    (befalls : start.Befalls agenda after) (closed : start.pipe.closed = endpoint.pipe.closed)
    (notified : start.notified = endpoint.notified)
    (terminated : start.channel.terminated = endpoint.channel.terminated)
    (phase : start.phase = endpoint.phase) (ended : endpoint.Ended → start.Ended) :
    endpoint.Befalls agenda after where
  sane := befalls.sane
  closed := befalls.closed.trans closed
  notified := befalls.notified.trans notified
  terminated := befalls.terminated.trans terminated
  phase := befalls.phase.trans phase
  here := befalls.here
  unfinished := befalls.unfinished
  silent := fun before => befalls.silent (ended before)

/-- A message is sent only while the channel has not ended. -/
theorem Sane.post (sane : endpoint.Sane) (further : List (Stage τ)) {desk : Desk τ}
    (alive : endpoint.channel.terminated = false) (same : desk.channel.terminated = false)
    (message : ChannelMessage) (ticket : Ticket) :
    endpoint.Befalls (endpoint.post further desk message ticket).2.2
      (endpoint.post further desk message ticket).1 := by
  have still : ((message.encode (Desk.chain further)).run desk).2.channel.terminated = false :=
    (congrArg Prod.snd ((Desk.keeps_chain further).encode message desk)).trans same
  have running (ended : endpoint.Ended) : False :=
    Bool.false_ne_true (alive.symm.trans ended.channel)
  unfold Endpoint.post
  revert still
  rcases (message.encode (Desk.chain further)).run desk with ⟨fault | bytes, after⟩ <;> intro still
  all_goals
    have started : Sane { endpoint with channel := after.channel } :=
      ⟨sane.pipe, fun terminated => absurd (still.symm.trans terminated) Bool.false_ne_true⟩
  · exact Befalls.start started.nothing rfl rfl (still.trans alive.symm) rfl
      fun ended => (running ended).elim
  · exact Befalls.start (started.operate after.kept (by simp)) rfl rfl (still.trans alive.symm) rfl
      fun ended => (running ended).elim

/-- A message that is read ends nothing. -/
theorem Sane.hear (sane : endpoint.Sane) (further : List (Stage τ)) (kept : τ) (bytes : Bytes) :
    endpoint.Befalls (endpoint.hear further kept bytes).2.2
      (endpoint.hear further kept bytes).1 := by
  have standing : ((ChannelMessage.decode (Desk.chain further) bytes).run
      ⟨endpoint.channel, kept⟩).2.channel.standing = endpoint.channel.standing :=
    (Desk.keeps_chain further).decode bytes ⟨endpoint.channel, kept⟩
  have exports : ((ChannelMessage.decode (Desk.chain further) bytes).run
      ⟨endpoint.channel, kept⟩).2.channel.exports = endpoint.channel.exports :=
    (Desk.keepsInward_exports further).decode (MarshalChain.habit_unchanged _) bytes _
  unfold Endpoint.hear
  revert standing exports
  rcases (ChannelMessage.decode (Desk.chain further) bytes).run ⟨endpoint.channel, kept⟩ with
    ⟨fault | message, after⟩ <;> intro standing exports
  all_goals
    have calls : after.channel.calls = endpoint.channel.calls := congrArg Prod.fst standing
    have terminated : after.channel.terminated = endpoint.channel.terminated :=
      congrArg Prod.snd standing
    have started : Sane { endpoint with channel := after.channel } := by
      refine ⟨sane.pipe, fun before => ?_⟩
      obtain ⟨pending, entries⟩ := sane.cleared (terminated.symm.trans before)
      exact ⟨(congrArg CallTable.pending calls).trans pending,
        (congrArg Exports.entries exports).trans entries⟩
    have ended (before : endpoint.Ended) : Ended { endpoint with channel := after.channel } :=
      { before with
        channel := terminated.trans before.channel
        calls := (congrArg CallTable.pending calls).trans before.calls
        exports := (congrArg Exports.entries exports).trans before.exports }
  · exact started.nothing.start rfl rfl terminated rfl ended
  · exact (started.change after.kept (after.channel.follows_receive message)).start rfl rfl
      terminated rfl ended

/-- An occasion ends no part by itself. -/
theorem Sane.befall (sane : endpoint.Sane) (further : List (Stage τ)) (kept : τ)
    (occasion : Occasion) :
    endpoint.Befalls (endpoint.befall further kept occasion).2.2
      (endpoint.befall further kept occasion).1 := by
  cases occasion with
  | send | attach | attachInVain | arrive | conclude => exact sane.operate kept (by simp)
  | undelivered id error => exact sane.change kept (endpoint.channel.follows_completeCall id _)
  | exportObject interfaces service =>
    exact sane.change kept (endpoint.channel.follows_exportObject interfaces service)
  | proxy handle => exact sane.change kept (endpoint.channel.follows_proxy handle)
  | register => exact sane.change kept (endpoint.channel.follows_register _)
  | close | raise | lost =>
    exact ⟨sane, rfl, rfl, rfl, rfl, by simp [Endpoint.befall, Action.Here],
      by simp [Endpoint.befall], by simp [Endpoint.befall, Action.deeds]⟩
  | call instanceId method values callSite caller ticket =>
    simp only [Endpoint.befall, Channel.startCall]
    cases terminated : endpoint.channel.terminated with
    | true => exact sane.nothing
    | false => exact sane.post further terminated rfl _ ticket
  | answer id outcome ticket =>
    simp only [Endpoint.befall]
    cases terminated : endpoint.channel.terminated with
    | true => exact sane.nothing
    | false => exact sane.post further terminated terminated _ ticket
  | hand =>
    simp only [Endpoint.befall]
    split
    · obtain ⟨proper, closed⟩ := sane.pipe.operate (by simp : PipeOperation.take ≠ .close)
      simp only [Pipe.operate] at proper closed
      split
      · exact sane.nothing
      · rename_i id bytes pipe taken
        rw [taken] at proper closed
        have started : Sane { endpoint with pipe } := ⟨proper, sane.cleared⟩
        refine (started.hear further kept bytes).start closed rfl rfl rfl fun before => ?_
        obtain ⟨outbound, inbound, attached⟩ := proper.emptied (closed.trans before.pipe)
        exact { before with pipe := closed.trans before.pipe, outbound, inbound, attached }
    · exact sane.nothing

end Endpoint

end Courier
