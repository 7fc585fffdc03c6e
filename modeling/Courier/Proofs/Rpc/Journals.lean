import Courier.Proofs.Rpc.Conveying
import Courier.Proofs.Rpc.Hosting

/-!
# What the journals say is so

What a journal says of a message agrees with the bytes that its pipe has taken and
with what has been read of them (`Hosting.Faithful`).

Whoever holds a pending call knows what has become of it so far: its message is
the one that was noted with the order, a job is the one that came by this message,
and the message of a return gives what came of running it (`Hosting.Linked`).  So,
when a call is completed, its result is explained by what has been noted
(`Hosting.Explained`).
-/

namespace Courier

set_option autoImplicit false

variable {τ η : Type}

/-! ## As time goes on -/

/-- What has been written down stays so. -/
structure Journal.Later (journal after : Journal τ) : Prop where
  orders : journal.orders <+: after.orders
  replies : journal.replies <+: after.replies
  heard : journal.heard <+: after.heard
  endings : journal.endings <+: after.endings

theorem Journal.Later.refl (journal : Journal τ) : journal.Later journal :=
  ⟨List.prefix_rfl, List.prefix_rfl, List.prefix_rfl, List.prefix_rfl⟩

namespace Hosting

/-- What has happened stays so. -/
structure Later (hosting after : Hosting τ) : Prop where
  accepted : ∀ side, (hosting.dialogue.pair.party side).accepted <+:
    (after.dialogue.pair.party side).accepted
  settings : ∀ side, (after.dialogue.pair.party side).pipe.settings =
    (hosting.dialogue.pair.party side).pipe.settings
  ended : ∀ side, hosting.dialogue.ended side <+: after.dialogue.ended side
  journal : ∀ side, (hosting.journal side).Later (after.journal side)

variable {hosting between after : Hosting τ} {side : Side}

theorem Later.of_changes {speaker : Speaker τ} {sent : List Bytes} {receipts : List Receipt}
    (changes : hosting.dialogue.Changes after.dialogue side speaker sent receipts)
    (own : (hosting.journal side).Later (after.journal side))
    (peer : after.journal side.other = hosting.journal side.other) : hosting.Later after where
  accepted subject := by
    rcases side.eq_or_eq_other subject with rfl | rfl
    · exact ⟨sent, changes.accepted.symm⟩
    · exact changes.quiet ▸ List.prefix_rfl
  settings := changes.settings
  ended subject := by
    rcases side.eq_or_eq_other subject with rfl | rfl
    · exact ⟨receipts, changes.ended.symm⟩
    · exact changes.apart ▸ List.prefix_rfl
  journal subject := by
    rcases side.eq_or_eq_other subject with rfl | rfl
    · exact own
    · exact peer ▸ .refl _

theorem Later.posts (later : hosting.Later after) {desk : Desk τ} {message : ChannelMessage}
    {sent : Except PipeError Ticket} (posts : hosting.dialogue.Posts side desk message sent) :
    after.dialogue.Posts side desk message sent := by
  cases posts with
  | full =>
    rw [← later.settings side]
    exact .full
  | unwritten failed => exact .unwritten failed
  | sent written accepted =>
    exact .sent written (getElem?_of_isPrefix (later.accepted side) accepted)

/-! ## What a journal says -/

/-- At a desk, a side has read a message of the peer in some way. -/
structure Heard (hosting : Hosting τ) (side : Side) (number : Ticket) (desk : Desk τ)
    (read : Except MarshalError ChannelMessage) : Prop where
  listed : (number, desk) ∈ (hosting.journal side).heard
  sound : desk.channel.Sound
  read : ∃ bytes left, (hosting.dialogue.pair.party side.other).accepted[number]? = some bytes ∧
    (ChannelMessage.decode (Desk.chain []) bytes).run desk = (read, left)

theorem Heard.later {number : Ticket} {desk : Desk τ} {read : Except MarshalError ChannelMessage}
    (heard : hosting.Heard side number desk read) (later : hosting.Later after) :
    after.Heard side number desk read := by
  obtain ⟨bytes, left, accepted, decoded⟩ := heard.read
  exact ⟨(later.journal side).heard.subset heard.listed, heard.sound, bytes, left,
    getElem?_of_isPrefix (later.accepted side.other) accepted, decoded⟩

/-- The number that a message was sent with. -/
def number? (sent : Except PipeError Ticket) : Option Ticket := sent.toOption

/-- The calls of a side: each was marshaled as noted, and no two have one message. -/
structure Ordering (hosting : Hosting τ) (side : Side) : Prop where
  started : (hosting.journal side).orders.length = (hosting.dialogue.speaker side).started
  posted : ∀ order ∈ (hosting.journal side).orders, order.desk.channel.Sound ∧
    ∃ id, hosting.dialogue.Posts side order.desk
      (.call ⟨id, order.instanceId, order.method.signature, order.values⟩) order.sent
  apart : ((hosting.journal side).orders.filterMap fun order => number? order.sent).Nodup

/-- The replies of a side: each was marshaled as noted. -/
def Replying (hosting : Hosting τ) (side : Side) : Prop :=
  ∀ reply ∈ (hosting.journal side).replies, reply.desk.channel.Sound ∧
    hosting.dialogue.Posts side reply.desk (.reply reply.callId reply.outcome) reply.sent

/-- The messages that a side has heard: each once, and those are refused that cannot be read. -/
structure Hearing (hosting : Hosting τ) (side : Side) : Prop where
  numbers : (hosting.journal side).heard.map Prod.fst =
    List.range (hosting.dialogue.ended side).length
  refused : ∀ number receipt, (hosting.dialogue.ended side)[number]? = some receipt →
    receipt ≠ .accepted → ∃ desk fault, hosting.Heard side number desk (.error fault)

/-- The calls of the peer: each has come by a message of its own and is run once at most. -/
structure Working (hosting : Hosting τ) (side : Side) : Prop where
  jobs : (hosting.dialogue.speaker side).jobs = (hosting.journal side).posts.map Post.request
  posts : ∀ post ∈ (hosting.journal side).posts,
    ∃ desk, hosting.Heard side post.message desk (.ok (.call post.request))
  endings : ∀ entry ∈ (hosting.journal side).endings,
    ∃ desk, hosting.Heard side entry.1.message desk (.ok (.call entry.1.request))
  numbers : ((hosting.journal side).posts.map Post.message ++
    (hosting.journal side).endings.map fun entry => entry.1.message).Nodup
  runs : (hosting.journal side).runs.Perm
    ((hosting.journal side).posts.filterMap Post.run? ++
      (hosting.journal side).endings.map Prod.fst)

/-- What the journal of a side says is so. -/
structure Faithful (hosting : Hosting τ) (side : Side) : Prop where
  plain : (hosting.dialogue.speaker side).further = []
  registries : (hosting.dialogue.speaker side).desk.channel.Sound
  ordering : hosting.Ordering side
  replying : hosting.Replying side
  hearing : hosting.Hearing side
  working : hosting.Working side

section Later

variable (gone : hosting.Later after)
include gone

theorem Ordering.later (ordering : hosting.Ordering side)
    (started : (after.dialogue.speaker side).started = (hosting.dialogue.speaker side).started)
    (orders : (after.journal side).orders = (hosting.journal side).orders) :
    after.Ordering side where
  started := by rw [orders, started, ordering.started]
  posted order listed := by
    obtain ⟨sound, id, posts⟩ := ordering.posted order (orders ▸ listed)
    exact ⟨sound, id, gone.posts posts⟩
  apart := orders ▸ ordering.apart

theorem Replying.later (replying : hosting.Replying side)
    (replies : (after.journal side).replies = (hosting.journal side).replies) :
    after.Replying side := by
  intro reply listed
  obtain ⟨sound, posts⟩ := replying reply (replies ▸ listed)
  exact ⟨sound, gone.posts posts⟩

theorem Hearing.later (hearing : hosting.Hearing side)
    (ended : after.dialogue.ended side = hosting.dialogue.ended side)
    (heard : (after.journal side).heard = (hosting.journal side).heard) :
    after.Hearing side where
  numbers := by rw [heard, ended, hearing.numbers]
  refused number receipt judged refuses := by
    obtain ⟨desk, fault, heard⟩ := hearing.refused number receipt (ended ▸ judged) refuses
    exact ⟨desk, fault, heard.later gone⟩

theorem Working.later (working : hosting.Working side)
    (jobs : (after.dialogue.speaker side).jobs = (hosting.dialogue.speaker side).jobs)
    (posts : (after.journal side).posts = (hosting.journal side).posts)
    (runs : (after.journal side).runs = (hosting.journal side).runs)
    (endings : (after.journal side).endings = (hosting.journal side).endings) :
    after.Working side where
  jobs := by rw [jobs, posts, working.jobs]
  posts post listed := by
    obtain ⟨desk, heard⟩ := working.posts post (posts ▸ listed)
    exact ⟨desk, heard.later gone⟩
  endings entry listed := by
    obtain ⟨desk, heard⟩ := working.endings entry (endings ▸ listed)
    exact ⟨desk, heard.later gone⟩
  numbers := by rw [posts, endings]; exact working.numbers
  runs := by rw [posts, runs, endings]; exact working.runs

/-- What is done at the other side leaves the journal of a side as it is. -/
theorem Faithful.later (faithful : hosting.Faithful side)
    (speaker : after.dialogue.speaker side = hosting.dialogue.speaker side)
    (ended : after.dialogue.ended side = hosting.dialogue.ended side)
    (journal : after.journal side = hosting.journal side) : after.Faithful side where
  plain := speaker ▸ faithful.plain
  registries := speaker ▸ faithful.registries
  ordering := faithful.ordering.later gone (by rw [speaker]) (by rw [journal])
  replying := faithful.replying.later gone (by rw [journal])
  hearing := faithful.hearing.later gone ended (by rw [journal])
  working := faithful.working.later gone (by rw [speaker]) (by rw [journal]) (by rw [journal])
    (by rw [journal])

end Later

/-! ## What becomes of calls -/

/-- The calls of a side that are pending. -/
def pending (hosting : Hosting τ) (side : Side) : List PendingCall :=
  (hosting.dialogue.speaker side).desk.channel.calls.pending

/-- The order of a pending call. -/
structure Ordered (hosting : Hosting τ) (side : Side) (call : PendingCall) (order : Order τ) :
    Prop where
  listed : (hosting.journal side).orders[call.caller]? = some order
  method : order.method = call.method
  callSite : order.callSite = call.callSite

theorem Ordered.later {call : PendingCall} {order : Order τ}
    (ordered : hosting.Ordered side call order) (later : hosting.Later after) :
    after.Ordered side call order :=
  ⟨getElem?_of_isPrefix (later.journal side).orders ordered.listed, ordered.method,
    ordered.callSite⟩

/-- A reply gives what came of running a call, unless that cannot be conveyed. -/
inductive Gives (objects : Nat → ServiceObject η) (run : Run τ) (ending : Option Ending) :
    Except RemoteError Value → Prop
  | outcome : Gives objects run ending (run.outcome objects ending)
  | unportable {value : Value} (result : run.outcome objects ending = .ok value)
      (stuck : ¬ value.Conveyable) (reason : String) :
      Gives objects run ending (Channel.unportableOutcome reason)

section Gives

variable {objects : Nat → ServiceObject η} {run : Run τ} {ending : Option Ending}
  {outcome : Except RemoteError Value}

theorem Gives.of_value {value : Value} (gives : Gives objects run ending outcome)
    (result : outcome = .ok value) : run.outcome objects ending = .ok value := by
  cases gives with
  | outcome => exact result
  | unportable => cases result

theorem Gives.of_conveyable (gives : Gives objects run ending outcome)
    (conveyable : ∀ value, run.outcome objects ending = .ok value → value.Conveyable) :
    outcome = run.outcome objects ending := by
  cases gives with
  | outcome => rfl
  | unportable result stuck => exact absurd (conveyable _ result) stuck

end Gives

/-- The peer has run a call that was ordered, and has given a reply. -/
def Replied (objects : Side → Nat → ServiceObject η) (hosting : Hosting τ) (side : Side)
    (order : Order τ) (reply : Reply τ) : Prop :=
  reply ∈ (hosting.journal side.other).replies ∧
    ∃ run ending, (run, ending) ∈ (hosting.journal side.other).endings ∧
      order.sent = .ok run.message ∧ Gives (objects side.other) run ending reply.outcome

theorem Replied.later {objects : Side → Nat → ServiceObject η} {order : Order τ}
    {reply : Reply τ} (replied : Replied objects hosting side order reply)
    (later : hosting.Later after) : Replied objects after side order reply := by
  obtain ⟨listed, run, ending, ended, sent, gives⟩ := replied
  exact ⟨(later.journal side.other).replies.subset listed, run, ending,
    (later.journal side.other).endings.subset ended, sent, gives⟩

/-- What the caller of a method is told when a return for its call is read. -/
inductive Tells (method : Method) (callSite : String) (id : UInt64) :
    ChannelMessage → CallResult → Prop
  | value (value : Value) : Tells method callSite id (.reply id (.ok value)) (.ok value)
  | error (error : RemoteError) : Tells method callSite id (.reply id (.error error))
      (.error (.ofRemoteError method callSite error))
  | unreadable (reason : String) : Tells method callSite id (.unreadable id reason)
      (.error (.transport (.marshal reason)))

/-- How it comes that a call has a result. -/
inductive Explained (objects : Side → Nat → ServiceObject η) (hosting : Hosting τ) (side : Side)
    (order : Order τ) : CallResult → Prop
  /-- Its message was not sent. -/
  | unsent (error : PipeError) (sent : order.sent = .error error) :
      Explained objects hosting side order (.error (.ofPipeError error))
  /-- The peer could not read its message. -/
  | refused (error : PipeError) (number : Ticket) (receipt : Receipt)
      (sent : order.sent = .ok number)
      (judged : (hosting.dialogue.ended side.other)[number]? = some receipt)
      (refuses : receipt ≠ .accepted) :
      Explained objects hosting side order (.error (.ofPipeError error))
  /-- A reply of the peer has been read. -/
  | answered (reply : Reply τ) (replied : Replied objects hosting side order reply)
      (number : Ticket) (sent : reply.sent = .ok number) (desk : Desk τ) (message : ChannelMessage)
      (heard : hosting.Heard side number desk (.ok message)) (result : CallResult)
      (tells : Tells order.method order.callSite reply.callId message result) :
      Explained objects hosting side order result

theorem Explained.later {objects : Side → Nat → ServiceObject η} {order : Order τ}
    {result : CallResult} (explained : Explained objects hosting side order result)
    (later : hosting.Later after) : Explained objects after side order result := by
  cases explained with
  | unsent error sent => exact .unsent error sent
  | refused error number receipt sent judged refuses =>
    exact .refused error number receipt sent
      (getElem?_of_isPrefix (later.ended side.other) judged) refuses
  | answered reply replied number sent desk message heard result tells =>
    exact .answered reply (replied.later later) number sent desk message (heard.later later) _ tells

/-- What is noted of the calls of a side agrees with whatever holds the pending ones, and explains
the results of the others. -/
structure Linked (objects : Side → Nat → ServiceObject η) (hosting : Hosting τ) (side : Side) :
    Prop where
  calling : ∀ dispatch ∈ (hosting.dialogue.speaker side).dispatches,
    dispatch.Holds (hosting.dialogue.ended side.other) → ∀ call ∈ hosting.pending side,
      dispatch.errand = .call call.id →
        ∃ order, hosting.Ordered side call order ∧ order.sent = dispatch.sent
  working : ∀ post ∈ (hosting.journal side.other).posts, ∀ call ∈ hosting.pending side,
    post.request.callId = call.id →
      ∃ order, hosting.Ordered side call order ∧ order.sent = .ok post.message
  replying : ∀ dispatch ∈ (hosting.dialogue.speaker side.other).dispatches,
    dispatch.Holds (hosting.dialogue.ended side) → ∀ call ∈ hosting.pending side, ∀ failed,
      dispatch.errand = .reply call.id failed →
        ∃ order reply, hosting.Ordered side call order ∧
          Replied objects hosting side order reply ∧ reply.sent = dispatch.sent ∧
            dispatch.errand = (ChannelMessage.reply reply.callId reply.outcome).errand
  completed : ∀ entry ∈ (hosting.dialogue.speaker side).completed,
    ∃ order, (hosting.journal side).orders[entry.1]? = some order ∧
      Explained objects hosting side order entry.2

/-- The journals are in order on both sides. -/
structure Traced (objects : Side → Nat → ServiceObject η) (hosting : Hosting τ) : Prop where
  faithful : ∀ side, hosting.Faithful side
  linked : ∀ side, Linked objects hosting side

end Hosting

end Courier
