import Courier.Proofs.Rpc.Journals

/-!
# Journals stay in order

What is done at one side of two channels that host objects changes what holds the calls
of this side, and of the other.  A call that was pending is held by what has held it
before, or by something that is linked to its order; a call that is new was held by
nothing (`Hosting.Traced.change`).

With it the journals stay in order when a side goes on without noting anything, when it
answers a call and when it starts one.
-/

namespace Courier

set_option autoImplicit false

variable {τ η : Type}

/-! ## Calls that nothing holds -/

namespace Dispatch

/-- A message that holds its call has held it before. -/
theorem holds_of_isPrefix {dispatch : Dispatch} {before after : List Receipt}
    (grown : before <+: after) (holds : dispatch.Holds after) : dispatch.Holds before := by
  unfold Holds at holds ⊢
  split
  · trivial
  · rename_i number sent
    rw [sent] at holds
    exact fun accepted => holds (getElem?_of_isPrefix grown accepted)

theorem mem_held {part : Errand → Option UInt64} {ended : List Receipt} {dispatches : List Dispatch}
    {dispatch : Dispatch} {id : UInt64} (listed : dispatch ∈ dispatches)
    (holds : dispatch.Holds ended) (named : part dispatch.errand = some id) :
    id ∈ held part ended dispatches :=
  List.mem_filterMap.mpr ⟨dispatch, List.mem_filter.mpr ⟨listed, by simpa using holds⟩, named⟩

end Dispatch

namespace Dialogue

variable {dialogue : Dialogue τ} {side : Side}

/-- Nothing holds a call with an id. -/
structure Unheld (dialogue : Dialogue τ) (side : Side) (id : UInt64) : Prop where
  calling : ∀ dispatch ∈ (dialogue.speaker side).dispatches,
    dispatch.Holds (dialogue.ended side.other) → dispatch.errand ≠ .call id
  working : ∀ job ∈ (dialogue.speaker side.other).jobs, job.callId ≠ id
  replying : ∀ dispatch ∈ (dialogue.speaker side.other).dispatches,
    dispatch.Holds (dialogue.ended side) → ∀ failed, dispatch.errand ≠ .reply id failed

/-- Nothing holds a call that is not pending. -/
theorem Sound.unheld (sound : dialogue.Sound) {id : UInt64}
    (fresh : id ∉ (dialogue.speaker side).pending) : dialogue.Unheld side id := by
  have balanced := sound.balanced side id
  rw [List.count_eq_zero.mpr fresh] at balanced
  have calling := List.count_eq_zero.mp (Nat.eq_zero_of_add_eq_zero balanced.symm).1
  have owing := List.count_eq_zero.mp (Nat.eq_zero_of_add_eq_zero balanced.symm).2
  simp only [Speaker.owing, List.mem_append, not_or] at owing
  constructor
  case calling =>
    intro dispatch listed holds named
    exact calling (Dispatch.mem_held listed holds (by rw [named]; rfl))
  case working =>
    intro job listed named
    exact owing.1.1 (List.mem_map.mpr ⟨job, listed, named⟩)
  case replying =>
    intro dispatch listed holds failed named
    exact owing.1.2 (Dispatch.mem_held listed holds (by rw [named]; rfl))

end Dialogue

namespace Hosting

variable {objects : Side → Nat → ServiceObject η} {hosting after : Hosting τ} {side : Side}

/-- What holds a call has held it before, or it is linked to its order now.  A call that was not
pending before was held by nothing. -/
theorem Linked.change (linked : Linked objects hosting side) (later : hosting.Later after)
    (jobs : (hosting.dialogue.speaker side.other).jobs =
      (hosting.journal side.other).posts.map Post.request)
    (pending : ∀ call ∈ after.pending side,
      call ∈ hosting.pending side ∨ hosting.dialogue.Unheld side call.id)
    (calling : ∀ dispatch ∈ (after.dialogue.speaker side).dispatches,
      dispatch ∈ (hosting.dialogue.speaker side).dispatches ∨
        ∀ call ∈ after.pending side, dispatch.errand = .call call.id →
          ∃ order, after.Ordered side call order ∧ order.sent = dispatch.sent)
    (working : ∀ post ∈ (after.journal side.other).posts,
      (∃ earlier ∈ (hosting.journal side.other).posts,
        earlier.message = post.message ∧ earlier.request = post.request) ∨
        ∀ call ∈ after.pending side, post.request.callId = call.id →
          ∃ order, after.Ordered side call order ∧ order.sent = .ok post.message)
    (replying : ∀ dispatch ∈ (after.dialogue.speaker side.other).dispatches,
      dispatch ∈ (hosting.dialogue.speaker side.other).dispatches ∨
        ∀ call ∈ after.pending side, ∀ failed, dispatch.errand = .reply call.id failed →
          ∃ order reply, after.Ordered side call order ∧
            Replied objects after side order reply ∧ reply.sent = dispatch.sent ∧
              dispatch.errand = (ChannelMessage.reply reply.callId reply.outcome).errand)
    (completed : ∀ entry ∈ (after.dialogue.speaker side).completed,
      entry ∈ (hosting.dialogue.speaker side).completed ∨
        ∃ order, (after.journal side).orders[entry.1]? = some order ∧
          Explained objects after side order entry.2) :
    Linked objects after side := by
  constructor
  case calling =>
    intro dispatch listed holds call waits named
    rcases calling dispatch listed with earlier | linked'
    -- A message that was there has held its call all along, so the call is no new one.
    · have held := Dispatch.holds_of_isPrefix (later.ended side.other) holds
      rcases pending call waits with known | unheld
      · obtain ⟨order, ordered, sent⟩ := linked.calling dispatch earlier held call known named
        exact ⟨order, ordered.later later, sent⟩
      · exact absurd named (unheld.calling dispatch earlier held)
    · exact linked' call waits named
  case working =>
    intro post listed call waits named
    rcases working post listed with ⟨earlier, among, message, request⟩ | linked'
    · rw [← request] at named
      rcases pending call waits with known | unheld
      · obtain ⟨order, ordered, sent⟩ := linked.working earlier among call known named
        exact ⟨order, ordered.later later, message ▸ sent⟩
      · have job : earlier.request ∈ (hosting.dialogue.speaker side.other).jobs :=
          jobs ▸ List.mem_map_of_mem among
        exact absurd named (unheld.working _ job)
    · exact linked' call waits named
  case replying =>
    intro dispatch listed holds call waits failed named
    rcases replying dispatch listed with earlier | linked'
    · have held := Dispatch.holds_of_isPrefix (later.ended side) holds
      rcases pending call waits with known | unheld
      · obtain ⟨order, reply, ordered, replied, sent, errand⟩ :=
          linked.replying dispatch earlier held call known failed named
        exact ⟨order, reply, ordered.later later, replied.later later, sent, errand⟩
      · exact absurd named (unheld.replying dispatch earlier held failed)
    · exact linked' call waits failed named
  case completed =>
    intro entry listed
    rcases completed entry listed with earlier | explained
    · obtain ⟨order, found, explained⟩ := linked.completed entry earlier
      exact ⟨order, getElem?_of_isPrefix (later.journal side).orders found, explained.later later⟩
    · exact explained

/-- Something is done at one side.  For the calls of this side it matters which are pending, what
has been sent and what is completed, and for those of the other side the jobs and the replies. -/
theorem Traced.change (traced : Traced objects hosting) {speaker : Speaker τ} {sent : List Bytes}
    {receipts : List Receipt}
    (changes : hosting.dialogue.Changes after.dialogue side speaker sent receipts)
    (later : hosting.Later after)
    (peer : after.journal side.other = hosting.journal side.other)
    (own : after.Faithful side)
    (pending : ∀ call ∈ speaker.desk.channel.calls.pending,
      call ∈ hosting.pending side ∨ hosting.dialogue.Unheld side call.id)
    (calling : ∀ dispatch ∈ speaker.dispatches,
      dispatch ∈ (hosting.dialogue.speaker side).dispatches ∨
        ∀ call ∈ speaker.desk.channel.calls.pending, dispatch.errand = .call call.id →
          ∃ order, after.Ordered side call order ∧ order.sent = dispatch.sent)
    (completed : ∀ entry ∈ speaker.completed,
      entry ∈ (hosting.dialogue.speaker side).completed ∨
        ∃ order, (after.journal side).orders[entry.1]? = some order ∧
          Explained objects after side order entry.2)
    (working : ∀ post ∈ (after.journal side).posts,
      (∃ earlier ∈ (hosting.journal side).posts,
        earlier.message = post.message ∧ earlier.request = post.request) ∨
        ∀ call ∈ hosting.pending side.other, post.request.callId = call.id →
          ∃ order, after.Ordered side.other call order ∧ order.sent = .ok post.message)
    (replying : ∀ dispatch ∈ speaker.dispatches,
      dispatch ∈ (hosting.dialogue.speaker side).dispatches ∨
        ∀ call ∈ hosting.pending side.other, ∀ failed, dispatch.errand = .reply call.id failed →
          ∃ order reply, after.Ordered side.other call order ∧
            Replied objects after side.other order reply ∧ reply.sent = dispatch.sent ∧
              dispatch.errand = (ChannelMessage.reply reply.callId reply.outcome).errand) :
    Traced objects after := by
  have waiting : after.pending side = speaker.desk.channel.calls.pending := by
    rw [Hosting.pending, changes.own]
  have apart : after.pending side.other = hosting.pending side.other := by
    rw [Hosting.pending, changes.peer]
    rfl
  constructor
  case faithful =>
    intro subject
    rcases side.eq_or_eq_other subject with rfl | rfl
    · exact own
    · exact (traced.faithful side.other).later later changes.peer changes.apart peer
  case linked =>
    intro subject
    rcases side.eq_or_eq_other subject with rfl | rfl
    · refine (traced.linked subject).change later (traced.faithful subject.other).working.jobs
        ?_ ?_ ?_ ?_ ?_
      · exact waiting ▸ pending
      · rw [changes.own, waiting]
        exact calling
      · rw [peer]
        exact fun post listed => .inl ⟨post, listed, rfl, rfl⟩
      · rw [changes.peer]
        exact fun dispatch listed => .inl listed
      · rw [changes.own]
        exact completed
    · have jobs := (traced.faithful side).working.jobs
      refine (traced.linked side.other).change later (by rw [Side.other_other, jobs]) ?_ ?_ ?_ ?_ ?_
      · exact apart ▸ fun call waits => .inl waits
      · rw [changes.peer]
        exact fun dispatch listed => .inl listed
      · rw [Side.other_other, apart]
        exact working
      · rw [Side.other_other, apart, changes.own]
        exact replying
      · rw [changes.peer]
        exact fun entry listed => .inl listed

/-- A post that was there before. -/
theorem working_of_posts {posts : List (Post τ)} (same : posts ⊆ (hosting.journal side).posts)
    {linked : Post τ → Prop} (post : Post τ) (listed : post ∈ posts) :
    (∃ earlier ∈ (hosting.journal side).posts,
      earlier.message = post.message ∧ earlier.request = post.request) ∨ linked post :=
  .inl ⟨post, same listed, rfl, rfl⟩

/-! ## Nothing is noted -/

/-- A speaker has no more on its hands than before. -/
structure Rests (before after : Speaker τ) : Prop where
  further : after.further = before.further
  registries : before.desk.channel.Sound → after.desk.channel.Sound
  pending : after.desk.channel.calls.pending ⊆ before.desk.channel.calls.pending
  dispatches : after.dispatches ⊆ before.dispatches
  started : after.started = before.started

theorem Rests.trans {before between after : Speaker τ} (first : Rests before between)
    (second : Rests between after) : Rests before after where
  further := second.further.trans first.further
  registries sound := second.registries (first.registries sound)
  pending := List.Subset.trans second.pending first.pending
  dispatches := List.Subset.trans second.dispatches first.dispatches
  started := second.started.trans first.started

/-- What completing a call makes of a speaker. -/
structure Completes (before after : Speaker τ) (id : UInt64) (result : PendingCall → CallResult) :
    Prop where
  rests : Rests before after
  jobs : after.jobs = before.jobs
  verdict : after.verdict = before.verdict
  completed : ∀ entry ∈ after.completed, entry ∈ before.completed ∨
    ∃ call ∈ before.desk.channel.calls.pending, call.id = id ∧ entry = (call.caller, result call)

theorem completes_change {speaker : Speaker τ} (distinct : speaker.pending.Nodup) (id : UInt64)
    (result : PendingCall → CallResult) :
    Completes speaker (speaker.change (speaker.desk.channel.completeCall id result)) id result := by
  have grows : speaker.desk.Grows
      (speaker.change (speaker.desk.channel.completeCall id result)).desk := by
    unfold Speaker.change Channel.completeCall CallTable.finish
    cases speaker.desk.channel.calls.pending? id with
    | none => exact .single (.calls _)
    | some call => exact .single (.calls _)
  rcases Speaker.change_completeCall_cases distinct id result with
    ⟨_, same⟩ | ⟨call, desk, changed, named, _, perm⟩
  · rw [same] at grows ⊢
    exact ⟨⟨rfl, fun sound => sound.grows grows, List.Subset.refl _, List.Subset.refl _, rfl⟩, rfl,
      rfl, fun entry listed => .inl listed⟩
  · rw [changed] at grows ⊢
    refine ⟨⟨rfl, fun sound => sound.grows grows, fun other waits => ?_, List.Subset.refl _, rfl⟩,
      rfl, rfl, fun entry listed => ?_⟩
    · exact perm.mem_iff.mpr (List.mem_cons_of_mem _ waits)
    · refine (List.mem_append.mp listed).imp_right fun last => ?_
      exact ⟨call, perm.mem_iff.mpr (List.mem_cons_self ..), named, List.mem_singleton.mp last⟩

/-- A side goes on without taking up anything new, and may complete a call. -/
theorem Traced.rest (traced : Traced objects hosting) {speaker : Speaker τ}
    (changes : hosting.dialogue.Changes after.dialogue side speaker [] [])
    (journal : after.journal = hosting.journal)
    (rests : Rests (hosting.dialogue.speaker side) speaker)
    (jobs : speaker.jobs = (hosting.dialogue.speaker side).jobs)
    (completed : ∀ entry ∈ speaker.completed,
      entry ∈ (hosting.dialogue.speaker side).completed ∨
        ∃ order, (hosting.journal side).orders[entry.1]? = some order ∧
          Explained objects hosting side order entry.2) : Traced objects after := by
  have later : hosting.Later after :=
    .of_changes changes (by rw [journal]; exact .refl _) (by rw [journal])
  have ended : after.dialogue.ended side = hosting.dialogue.ended side := by
    rw [changes.ended, List.append_nil]
  have own := traced.faithful side
  refine traced.change changes later (by rw [journal]) ?_ (fun call waits =>
    .inl (rests.pending waits)) (fun dispatch listed => .inl (rests.dispatches listed))
    (fun entry listed => ?_) (working_of_posts (by rw [journal]; exact List.Subset.refl _))
    (fun dispatch listed => .inl (rests.dispatches listed))
  · exact
      { plain := by rw [changes.own, rests.further, own.plain]
        registries := by
          rw [changes.own]
          exact rests.registries own.registries
        ordering := own.ordering.later later (by rw [changes.own, rests.started]) (by rw [journal])
        replying := own.replying.later later (by rw [journal])
        hearing := own.hearing.later later ended (by rw [journal])
        working := own.working.later later (by rw [changes.own, jobs]) (by rw [journal])
          (by rw [journal]) (by rw [journal]) }
  · refine (completed entry listed).imp_right ?_
    rintro ⟨order, found, explained⟩
    exact ⟨order, by rw [journal, found], explained.later later⟩

/-! ## A call is answered -/

/-- Marshaling a message leaves the pending calls as they are. -/
theorem pending_encode (desk : Desk τ) (message : ChannelMessage) :
    ((message.encode (Desk.chain [])).run desk).2.channel.calls = desk.channel.calls :=
  congrArg Prod.fst ((Desk.keeps_chain []).encode message desk)

/-- A side posts a reply for which it has run the call, and notes it. -/
theorem Traced.reply (traced : Traced objects hosting) {desk : Desk τ} {bytes : List Bytes}
    (reply : Reply τ)
    (changes : hosting.dialogue.Changes after.dialogue side
      { hosting.dialogue.speaker side with
        desk
        dispatches := (hosting.dialogue.speaker side).dispatches ++
          [⟨(ChannelMessage.reply reply.callId reply.outcome).errand, reply.sent⟩] } bytes [])
    (grows : (hosting.dialogue.speaker side).desk.Grows desk)
    (calls : desk.channel.calls = (hosting.dialogue.speaker side).desk.channel.calls)
    (sound : reply.desk.channel.Sound)
    (posts : after.dialogue.Posts side reply.desk (.reply reply.callId reply.outcome) reply.sent)
    (journal : after.journal side = { hosting.journal side with
      replies := (hosting.journal side).replies ++ [reply] })
    (peer : after.journal side.other = hosting.journal side.other)
    (gives : ∀ call ∈ hosting.pending side.other, call.id = reply.callId → ∃ order run ending,
      hosting.Ordered side.other call order ∧ (run, ending) ∈ (hosting.journal side).endings ∧
        order.sent = .ok run.message ∧ Gives (objects side) run ending reply.outcome) :
    Traced objects after := by
  have own := traced.faithful side
  have later : hosting.Later after := by
    refine .of_changes changes ?_ peer
    rw [journal]
    exact ⟨List.prefix_rfl, List.prefix_append _ _, List.prefix_rfl, List.prefix_rfl⟩
  have ended : after.dialogue.ended side = hosting.dialogue.ended side := by
    rw [changes.ended, List.append_nil]
  refine traced.change changes later peer ?_ ?_ ?_ (fun entry listed => .inl listed)
    (working_of_posts (by rw [journal]; exact List.Subset.refl _)) ?_
  · exact
      { plain := by rw [changes.own, own.plain]
        registries := by
          rw [changes.own]
          exact own.registries.grows grows
        ordering := own.ordering.later later (by rw [changes.own]) (by rw [journal])
        replying := by
          intro given listed
          rw [journal] at listed
          rcases List.mem_append.mp listed with earlier | last
          · obtain ⟨sound, posts⟩ := own.replying given earlier
            exact ⟨sound, later.posts posts⟩
          · obtain rfl := List.mem_singleton.mp last
            exact ⟨sound, posts⟩
        hearing := own.hearing.later later ended (by rw [journal])
        working := own.working.later later (by rw [changes.own]) (by rw [journal])
          (by rw [journal]) (by rw [journal]) }
  · intro call waits
    rw [calls] at waits
    exact .inl waits
  · intro dispatch listed
    refine (List.mem_append.mp listed).imp_right fun last call _ named => ?_
    rw [List.mem_singleton.mp last] at named
    cases named
  · intro dispatch listed
    refine (List.mem_append.mp listed).imp_right fun last call waits failed named => ?_
    rw [List.mem_singleton.mp last] at named ⊢
    obtain ⟨order, run, ending, ordered, ran, sent, given⟩ :=
      gives call waits (Errand.reply.inj named).1.symm
    refine ⟨order, reply, ordered.later later, ⟨?_, run, ending, ?_, sent, ?_⟩, rfl, rfl⟩
    · rw [Side.other_other, journal]
      exact List.mem_append_right _ (List.mem_singleton_self _)
    · rw [Side.other_other, journal]
      exact ran
    · rw [Side.other_other]
      exact given

theorem answer_eq (isOpen : (hosting.dialogue.speaker side).desk.channel.terminated = false)
    (id : UInt64) (outcome : Except RemoteError Value) :
    hosting.answer side id outcome =
      (hosting.setDialogue (hosting.dialogue.post side (.reply id outcome))).note side
        fun journal => { journal with
          replies := journal.replies ++ [⟨id, outcome, (hosting.dialogue.speaker side).desk,
            hosting.dialogue.sending side (.reply id outcome)⟩] } := by
  simp only [answer, Dialogue.answer, isOpen, Bool.false_eq_true, if_false]

/-- A side gives a reply for which it has run the call. -/
theorem Traced.answer (traced : Traced objects hosting)
    (orderly : hosting.dialogue.Orderly) {id : UInt64} {outcome : Except RemoteError Value}
    (gives : ∀ call ∈ hosting.pending side.other, call.id = id → ∃ order run ending,
      hosting.Ordered side.other call order ∧ (run, ending) ∈ (hosting.journal side).endings ∧
        order.sent = .ok run.message ∧ Gives (objects side) run ending outcome) :
    Traced objects (hosting.answer side id outcome) := by
  have own := traced.faithful side
  obtain ⟨bytes, changes, posts, _⟩ := orderly.changes_post side own.plain (.reply id outcome)
  rw [answer_eq (orderly.speaker side).isOpen]
  exact traced.reply ⟨id, outcome, (hosting.dialogue.speaker side).desk, _⟩ changes
    ((Desk.grows_chain _).encode Desk.habit_grows _ _) (pending_encode _ _) own.registries posts
    (journal_note_self ..) (journal_note_other ..) gives

/-! ## A call is started -/

/-- The numbers of the messages of earlier orders are those of messages that have been sent. -/
theorem Ordering.lt_of_mem (ordering : hosting.Ordering side) {order : Order τ}
    (listed : order ∈ (hosting.journal side).orders) {number : Ticket}
    (sent : order.sent = .ok number) :
    number < (hosting.dialogue.pair.party side).accepted.length := by
  obtain ⟨_, id, posts⟩ := ordering.posted order listed
  rw [sent] at posts
  cases posts with
  | sent written accepted => exact (List.getElem?_eq_some_iff.mp accepted).1

theorem number?_eq_some {sent : Except PipeError Ticket} {number : Ticket} :
    number? sent = some number ↔ sent = .ok number := by
  cases sent <;> simp [number?, Except.toOption]

/-- A side has entered a call, has posted its message and has noted the order. -/
structure Orders (hosting after : Hosting τ) (side : Side) (call : PendingCall) (order : Order τ)
    (desk : Desk τ) (bytes : List Bytes) : Prop where
  changes : hosting.dialogue.Changes after.dialogue side
    { hosting.dialogue.speaker side with
      started := (hosting.dialogue.speaker side).started + 1
      desk
      dispatches := (hosting.dialogue.speaker side).dispatches ++
        [⟨.call call.id, order.sent⟩] } bytes []
  grows : (hosting.dialogue.speaker side).desk.Grows desk
  calls : desk.channel.calls.pending =
    (hosting.dialogue.speaker side).desk.channel.calls.pending ++ [call]
  fresh : call.id ∉ (hosting.dialogue.speaker side).pending
  caller : call.caller = (hosting.dialogue.speaker side).started
  method : order.method = call.method
  callSite : order.callSite = call.callSite
  registries : order.desk.channel.Sound
  posts : after.dialogue.Posts side order.desk
    (.call ⟨call.id, order.instanceId, order.method.signature, order.values⟩) order.sent
  newest : ∀ number, order.sent = .ok number →
    number = (hosting.dialogue.pair.party side).accepted.length
  journal : after.journal side = { hosting.journal side with
    orders := (hosting.journal side).orders ++ [order] }
  peer : after.journal side.other = hosting.journal side.other

section Starting

variable {call : PendingCall} {order : Order τ} {desk : Desk τ} {bytes : List Bytes}
  (orders : hosting.Orders after side call order desk bytes)
include orders

theorem Orders.later : hosting.Later after := by
  refine .of_changes orders.changes ?_ orders.peer
  rw [orders.journal]
  exact ⟨List.prefix_append _ _, List.prefix_rfl, List.prefix_rfl, List.prefix_rfl⟩

/-- The orders of a side are in order with the new one. -/
theorem Orders.ordering (own : hosting.Ordering side) : after.Ordering side where
  started := by
    rw [orders.journal, orders.changes.own, List.length_append, own.started]
    rfl
  posted := by
    intro given listed
    rw [orders.journal] at listed
    rcases List.mem_append.mp listed with earlier | last
    · obtain ⟨sound, id, posts⟩ := own.posted given earlier
      exact ⟨sound, id, orders.later.posts posts⟩
    · obtain rfl := List.mem_singleton.mp last
      exact ⟨orders.registries, call.id, orders.posts⟩
  apart := by
    rw [orders.journal, List.filterMap_append]
    refine List.nodup_append.mpr ⟨own.apart, ?_, ?_⟩
    · cases sent : number? order.sent <;> simp [sent]
    · -- The message is the newest of its pipe, so no earlier order has it.
      rintro number earlier _ last rfl
      obtain ⟨given, listed, sent⟩ := List.mem_filterMap.mp earlier
      obtain ⟨_, among, newly⟩ := List.mem_filterMap.mp last
      obtain rfl := List.mem_singleton.mp among
      have before := own.lt_of_mem listed (number?_eq_some.mp sent)
      exact absurd before (orders.newest _ (number?_eq_some.mp newly) ▸ Nat.lt_irrefl _)

theorem Orders.faithful (own : hosting.Faithful side) : after.Faithful side where
  plain := by rw [orders.changes.own, own.plain]
  registries := by
    rw [orders.changes.own]
    exact own.registries.grows orders.grows
  ordering := orders.ordering own.ordering
  replying := own.replying.later orders.later (by rw [orders.journal])
  hearing := own.hearing.later orders.later
    (by rw [orders.changes.ended, List.append_nil]) (by rw [orders.journal])
  working := own.working.later orders.later (by rw [orders.changes.own]) (by rw [orders.journal])
    (by rw [orders.journal]) (by rw [orders.journal])

/-- The new call is the one with its id, and its order is the last. -/
theorem Orders.ordered (own : hosting.Ordering side) {other : PendingCall}
    (waits : other ∈ desk.channel.calls.pending) (named : other.id = call.id) :
    after.Ordered side other order := by
  rw [orders.calls] at waits
  rcases List.mem_append.mp waits with earlier | newest
  · exact absurd (named ▸ List.mem_map_of_mem earlier) orders.fresh
  · obtain rfl := List.mem_singleton.mp newest
    refine ⟨?_, orders.method, orders.callSite⟩
    rw [orders.journal, orders.caller, ← own.started]
    exact List.getElem?_concat_length

end Starting

/-- The journals stay in order when a side starts a call. -/
theorem Traced.order (traced : Traced objects hosting) (sound : hosting.dialogue.Sound)
    (call : PendingCall) (order : Order τ) {desk : Desk τ} {bytes : List Bytes}
    (orders : hosting.Orders after side call order desk bytes) : Traced objects after := by
  have own := traced.faithful side
  refine traced.change orders.changes orders.later orders.peer (orders.faithful own) ?_ ?_
    (fun entry listed => .inl listed)
    (working_of_posts (by rw [orders.journal]; exact List.Subset.refl _)) ?_
  · intro other waits
    rw [orders.calls] at waits
    refine (List.mem_append.mp waits).imp_right fun last => ?_
    rw [List.mem_singleton.mp last]
    exact sound.unheld orders.fresh
  · intro dispatch listed
    refine (List.mem_append.mp listed).imp_right fun last other waits named => ?_
    rw [List.mem_singleton.mp last] at named ⊢
    exact ⟨order, orders.ordered own.ordering waits (Errand.call.inj named).symm, rfl⟩
  · intro dispatch listed
    refine (List.mem_append.mp listed).imp_right fun last other _ failed named => ?_
    rw [List.mem_singleton.mp last] at named
    cases named

/-- A call is started. -/
theorem Traced.start (traced : Traced objects hosting) (sound : hosting.dialogue.Sound)
    (side : Side) (instanceId : String) (method : Method) (values : List Value) (callSite : String)
    (room : (hosting.dialogue.speaker side).desk.channel.calls.busyIds.length < UInt64.size) :
    Traced objects (hosting.start side instanceId method values callSite) := by
  have own := traced.faithful side
  obtain ⟨id, table, called, entered, fresh⟩ :=
    (sound.speaker side).exists_starting method callSite room
  have orderly := sound.toOrderly.setSpeaker ((hosting.dialogue.speaker side).starting table) rfl
    ((sound.speaker side).enter entered rfl fresh)
  obtain ⟨bytes, changes, posts, newest⟩ := orderly.changes_post side
    (by rw [Dialogue.speaker_setSpeaker_self]; exact own.plain)
    (.call ⟨id, instanceId, method.signature, values⟩)
  have started : hosting.start side instanceId method values callSite =
      (hosting.setDialogue ((hosting.dialogue.setSpeaker side
          ((hosting.dialogue.speaker side).starting table)).post side
            (.call ⟨id, instanceId, method.signature, values⟩))).note side
        fun journal => { journal with
          orders := journal.orders ++ [⟨instanceId, method, values, callSite,
            ((hosting.dialogue.speaker side).starting table).desk,
            (hosting.dialogue.setSpeaker side
              ((hosting.dialogue.speaker side).starting table)).sending side
                (.call ⟨id, instanceId, method.signature, values⟩)⟩] } := by
    simp only [Hosting.start, Dialogue.start, called]
    rfl
  rw [started]
  simp only [Dialogue.speaker_setSpeaker_self] at changes posts
  have first : hosting.dialogue.Changes (hosting.dialogue.setSpeaker side
      ((hosting.dialogue.speaker side).starting table)) side
        ((hosting.dialogue.speaker side).starting table) [] [] := .setSpeaker rfl
  have whole := first.trans changes
  have entering : (hosting.dialogue.speaker side).desk.Grows
      ((hosting.dialogue.speaker side).starting table).desk := .single (.calls table)
  refine traced.order sound ⟨id, method, callSite, (hosting.dialogue.speaker side).started⟩
    ⟨instanceId, method, values, callSite,
      ((hosting.dialogue.speaker side).starting table).desk, _⟩
    { changes := whole
      grows := entering.trans ((Desk.grows_chain _).encode Desk.habit_grows _ _)
      calls := ?_
      fresh
      caller := rfl
      method := rfl
      callSite := rfl
      registries := own.registries.grows entering
      posts
      newest
      journal := journal_note_self ..
      peer := journal_note_other .. }
  rw [pending_encode]
  exact entered

end Hosting

end Courier
