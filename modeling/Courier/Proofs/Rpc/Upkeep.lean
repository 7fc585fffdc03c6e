import Courier.Proofs.Rpc.Tracing

/-!
# Journals are in order at any time

Of the steps of two channels that host objects there are left those at which a call
passes from one holder to the next: a message is taken, a job is run and ends, and a
task goes on.  A message that is refused, by the pipe or by the peer, is one that could
not be conveyed.

So the journals are in order whatever has happened (`Hosting.Reachable.traced`).
-/

namespace Courier

set_option autoImplicit false

variable {τ η : Type}

/-! ## Messages and tasks -/

/-- What is read of a message is of the kind of its errand, and about the same call. -/
theorem Errand.CarriedBy.read {errand : Errand} {bytes : Bytes} {message : ChannelMessage}
    {σ : Type} {chain : MarshalChain σ} {state after : σ} (carried : errand.CarriedBy bytes)
    (decoded : (ChannelMessage.decode chain bytes).run state = (.ok message, after)) :
    (∃ request, message = .call request ∧ errand = .call request.callId) ∨
      ∃ id failed, errand = .reply id failed ∧
        ((∃ outcome, message = .reply id outcome) ∨ ∃ reason, message = .unreadable id reason) := by
  cases carried with
  | call id instanceId signature arguments =>
    obtain ⟨request, rfl, rfl⟩ := ChannelMessage.decode_call decoded
    exact .inl ⟨request, rfl, rfl⟩
  | result id portable => exact .inr ⟨id, false, rfl, ChannelMessage.decode_return decoded⟩
  | failure id error => exact .inr ⟨id, true, rfl, ChannelMessage.decode_return decoded⟩

namespace Dialogue

variable {dialogue : Dialogue τ} {side : Side}

/-- A task that learns of a failure has a message that was not sent or that the peer has refused. -/
theorem Orderly.failure_cases (orderly : dialogue.Orderly) {dispatch : Dispatch}
    {error : PipeError}
    (known : dispatch.outcome? (dialogue.pair.party side).reports = some (.error error)) :
    dispatch.sent = .error error ∨ ∃ number receipt, dispatch.sent = .ok number ∧
      (dialogue.ended side.other)[number]? = some receipt ∧ receipt ≠ .accepted := by
  rcases orderly.news known with ⟨other, sent, same⟩ | ⟨number, receipt, id, sent, judged, same⟩
  · exact .inl (sent.trans (congrArg _ (Except.error.inj same).symm))
  · refine .inr ⟨number, receipt, sent, judged, ?_⟩
    rintro rfl
    cases same

end Dialogue

namespace Hosting

variable {objects : Side → Nat → ServiceObject η} {hosting after : Hosting τ} {side : Side}
  {handlers : Side → η → Arguments → Ending → Prop}

/-! ## A message is taken -/

theorem Hearing.lt_of_heard (hearing : hosting.Hearing side) {number : Ticket} {desk : Desk τ}
    {read : Except MarshalError ChannelMessage} (heard : hosting.Heard side number desk read) :
    number < (hosting.dialogue.ended side).length := by
  have listed : number ∈ (hosting.journal side).heard.map Prod.fst :=
    List.mem_map_of_mem heard.listed
  rw [hearing.numbers] at listed
  exact List.mem_range.mp listed

/-- The calls of the peer have come by messages that have been heard. -/
theorem Working.lt_of_mem (working : hosting.Working side) (hearing : hosting.Hearing side)
    {number : Ticket} (known : number ∈ (hosting.journal side).posts.map Post.message ++
      (hosting.journal side).endings.map fun entry => entry.1.message) :
    number < (hosting.dialogue.ended side).length := by
  rcases List.mem_append.mp known with waiting | past
  · obtain ⟨post, listed, rfl⟩ := List.mem_map.mp waiting
    obtain ⟨desk, heard⟩ := working.posts post listed
    exact hearing.lt_of_heard heard
  · obtain ⟨entry, listed, rfl⟩ := List.mem_map.mp past
    obtain ⟨desk, heard⟩ := working.endings entry listed
    exact hearing.lt_of_heard heard

theorem called?_eq_some {read : Except MarshalError ChannelMessage} {request : CallRequest} :
    called? read = some request ↔ read = .ok (.call request) := by
  rcases read with fault | ⟨call | ⟨id, outcome⟩ | ⟨id, reason⟩⟩ <;> simp [called?]

/-- What reading a message makes of a speaker. -/
structure Heeds (before after : Speaker τ) (read : Except MarshalError ChannelMessage)
    (receipt : Receipt) : Prop where
  verdict : after.verdict = some receipt
  rests : Rests before after
  jobs : after.jobs = before.jobs ++ (called? read).toList
  refused : receipt ≠ .accepted → ∃ fault, read = .error fault
  completed : ∀ entry ∈ after.completed, entry ∈ before.completed ∨
    ∃ call ∈ before.desk.channel.calls.pending, ∃ message, read = .ok message ∧
      call.caller = entry.1 ∧ Tells call.method call.callSite call.id message entry.2

theorem heeds_hear {speaker : Speaker τ} (distinct : speaker.pending.Nodup) {body : Bytes}
    {read : Except MarshalError ChannelMessage} {desk : Desk τ}
    (run : (ChannelMessage.decode (Desk.chain speaker.further) body).run speaker.desk =
      (read, desk)) : ∃ receipt, Heeds speaker (speaker.hear body) read receipt := by
  have grows : speaker.desk.Grows desk := by
    have decoded := (Desk.grows_chain speaker.further).decode Desk.habit_grows body speaker.desk
    rwa [run] at decoded
  have calls : desk.channel.calls = speaker.desk.channel.calls := by
    have kept := (Desk.keeps_chain speaker.further).decode body speaker.desk
    rw [run] at kept
    exact congrArg Prod.fst kept
  have rests : ∀ verdict, Rests speaker { speaker with desk, verdict } := fun _ =>
    ⟨rfl, fun sound => sound.grows grows, by rw [calls]; exact List.Subset.refl _,
      List.Subset.refl _, rfl⟩
  have answered : ∀ (id : UInt64) (result : PendingCall → CallResult),
      Completes { speaker with desk, verdict := some .accepted }
        (({ speaker with desk, verdict := some .accepted } : Speaker τ).change
          (desk.channel.completeCall id result)) id result := fun id result =>
    completes_change (by rw [Speaker.pending, calls]; exact distinct) id result
  have pending : ∀ call ∈ desk.channel.calls.pending,
      call ∈ speaker.desk.channel.calls.pending := calls ▸ fun _ waits => waits
  unfold Speaker.hear
  rw [run]
  rcases read with fault | ⟨request | ⟨id, outcome⟩ | ⟨id, reason⟩⟩
  · exact ⟨.refused fault.message, rfl, rests _, (List.append_nil _).symm, fun _ => ⟨fault, rfl⟩,
      fun entry listed => .inl listed⟩
  · refine ⟨.accepted, rfl, { rests none with }, rfl, (absurd rfl ·), fun entry listed => ?_⟩
    exact .inl listed
  · have completes := answered id (Channel.resultOf outcome)
    refine ⟨.accepted, completes.verdict, (rests _).trans completes.rests,
      completes.jobs.trans (List.append_nil _).symm, (absurd rfl ·), fun entry listed => ?_⟩
    refine (completes.completed entry listed).imp_right ?_
    rintro ⟨call, waits, rfl, rfl⟩
    refine ⟨call, pending call waits, _, rfl, rfl, ?_⟩
    cases outcome with
    | ok value => exact .value value
    | error error => exact .error error
  · have completes := answered id fun _ => .error (.transport (.marshal reason))
    refine ⟨.accepted, completes.verdict, (rests _).trans completes.rests,
      completes.jobs.trans (List.append_nil _).symm, (absurd rfl ·), fun entry listed => ?_⟩
    refine (completes.completed entry listed).imp_right ?_
    rintro ⟨call, waits, rfl, rfl⟩
    exact ⟨call, pending call waits, _, rfl, rfl, .unreadable reason⟩

/-- A side has shown the next message to its channel and has noted it.  A call is noted as a job. -/
structure Hears (hosting after : Hosting τ) (side : Side) (speaker : Speaker τ)
    (read : Except MarshalError ChannelMessage) (receipt : Receipt) : Prop where
  changes : hosting.dialogue.Changes after.dialogue side speaker [] [receipt]
  heeds : Heeds (hosting.dialogue.speaker side) speaker read receipt
  journal : after.journal side = { hosting.journal side with
    heard := (hosting.journal side).heard ++
      [((hosting.dialogue.ended side).length, (hosting.dialogue.speaker side).desk)]
    posts := (hosting.journal side).posts ++ (called? read).toList.map fun request =>
      ⟨(hosting.dialogue.ended side).length, request, none⟩ }
  peer : after.journal side.other = hosting.journal side.other
  heard : after.Heard side (hosting.dialogue.ended side).length
    (hosting.dialogue.speaker side).desk read

section Hearing

variable {speaker : Speaker τ} {read : Except MarshalError ChannelMessage} {receipt : Receipt}
  (hears : hosting.Hears after side speaker read receipt)
include hears

theorem Hears.later : hosting.Later after := by
  refine .of_changes hears.changes ?_ hears.peer
  rw [hears.journal]
  exact ⟨List.prefix_rfl, List.prefix_rfl, List.prefix_append _ _, List.prefix_rfl⟩

/-- The messages that a side has heard are in order with the new one. -/
theorem Hears.hearing (own : hosting.Hearing side) : after.Hearing side where
  numbers := by
    rw [hears.journal, hears.changes.ended, List.map_append, own.numbers,
      List.length_append, List.length_singleton, List.range_succ]
    rfl
  refused := by
    intro number other judged refuses
    rw [hears.changes.ended] at judged
    rcases getElem?_concat_cases judged with earlier | ⟨rfl, rfl⟩
    · obtain ⟨desk, fault, heard⟩ := own.refused number other earlier refuses
      exact ⟨desk, fault, heard.later hears.later⟩
    · obtain ⟨fault, read⟩ := hears.heeds.refused refuses
      exact ⟨_, fault, read ▸ hears.heard⟩

/-- So are the calls of the peer, if the message is one. -/
theorem Hears.working (own : hosting.Working side) (hearing : hosting.Hearing side) :
    after.Working side where
  jobs := by
    rw [hears.journal, hears.changes.own, hears.heeds.jobs, own.jobs, List.map_append,
      List.map_map]
    exact congrArg _ (List.map_id' _).symm
  posts := by
    intro post listed
    rw [hears.journal] at listed
    rcases List.mem_append.mp listed with earlier | last
    · obtain ⟨desk, heard⟩ := own.posts post earlier
      exact ⟨desk, heard.later hears.later⟩
    · obtain ⟨request, among, rfl⟩ := List.mem_map.mp last
      have read := called?_eq_some.mp (Option.mem_toList.mp among)
      exact ⟨_, read ▸ hears.heard⟩
  endings := by
    intro entry listed
    rw [hears.journal] at listed
    obtain ⟨desk, heard⟩ := own.endings entry listed
    exact ⟨desk, heard.later hears.later⟩
  numbers := by
    rw [hears.journal]
    cases called? read with
    | none => simpa using own.numbers
    | some request =>
      simp only [Option.toList_some, List.map_append, List.map_cons, List.map_nil,
        List.append_assoc, List.singleton_append]
      refine List.perm_middle.nodup_iff.mpr (List.nodup_cons.mpr ⟨fun known => ?_, own.numbers⟩)
      exact Nat.lt_irrefl _ (own.lt_of_mem hearing known)
  runs := by
    rw [hears.journal, List.filterMap_append]
    have idle : ((called? read).toList.map fun request =>
        (⟨(hosting.dialogue.ended side).length, request, none⟩ : Post τ)).filterMap
          Post.run? = [] := by
      cases called? read <;> rfl
    rw [idle, List.append_nil]
    exact own.runs

theorem Hears.faithful (own : hosting.Faithful side) : after.Faithful side where
  plain := by rw [hears.changes.own, hears.heeds.rests.further, own.plain]
  registries := by
    rw [hears.changes.own]
    exact hears.heeds.rests.registries own.registries
  ordering := own.ordering.later hears.later (by rw [hears.changes.own, hears.heeds.rests.started])
    (by rw [hears.journal])
  replying := own.replying.later hears.later (by rw [hears.journal])
  hearing := hears.hearing own.hearing
  working := hears.working own.working own.hearing

/-- The journals stay in order when a side hears a message, if what it does then is linked to what
has been ordered and replied. -/
theorem Hears.traced (traced : Traced objects hosting)
    (called : ∀ request, read = .ok (.call request) →
      ∀ call ∈ hosting.pending side.other, request.callId = call.id → ∃ order,
        hosting.Ordered side.other call order ∧
          order.sent = .ok (hosting.dialogue.ended side).length)
    (answered : ∀ message, read = .ok message → ∀ call ∈ hosting.pending side, ∀ result,
      Tells call.method call.callSite call.id message result → ∃ order reply,
        hosting.Ordered side call order ∧ Replied objects hosting side order reply ∧
          reply.callId = call.id ∧ reply.sent = .ok (hosting.dialogue.ended side).length) :
    Traced objects after := by
  have later := hears.later
  have rests := hears.heeds.rests
  refine traced.change hears.changes later hears.peer (hears.faithful (traced.faithful side))
    (fun call waits => .inl (rests.pending waits))
    (fun dispatch listed => .inl (rests.dispatches listed)) (fun entry listed => ?_)
    (fun post listed => ?_) (fun dispatch listed => .inl (rests.dispatches listed))
  · refine (hears.heeds.completed entry listed).imp_right ?_
    rintro ⟨call, waits, message, rfl, caller, tells⟩
    obtain ⟨order, reply, ordered, replied, named, sent⟩ :=
      answered message rfl call waits entry.2 tells
    refine ⟨order, caller ▸ (ordered.later later).listed, ?_⟩
    rw [← named, ← ordered.method, ← ordered.callSite] at tells
    exact .answered reply (replied.later later) _ sent _ message hears.heard entry.2 tells
  · rw [hears.journal] at listed
    refine (List.mem_append.mp listed).imp (fun earlier => ⟨post, earlier, rfl, rfl⟩) ?_
    intro last call waits named
    obtain ⟨request, among, rfl⟩ := List.mem_map.mp last
    obtain ⟨order, ordered, sent⟩ :=
      called request (called?_eq_some.mp (Option.mem_toList.mp among)) call waits named
    exact ⟨order, ordered.later later, sent⟩

end Hearing

/-- The next message is taken. -/
theorem Traced.take (traced : Traced objects hosting) (sound : hosting.dialogue.Sound)
    (idle : (hosting.dialogue.pair.party side).busy = none) :
    Traced objects (hosting.take side) := by
  have own := traced.faithful side
  cases waiting : (hosting.dialogue.pair.party side).pipe.waiting with
  | nil =>
    simp only [Hosting.take, waiting]
    exact traced
  | cons next rest =>
    obtain ⟨id, body⟩ := next
    obtain ⟨dispatch, listed, sent, carried⟩ := sound.toOrderly.next_dispatch waiting idle
    obtain ⟨read, desk, run⟩ : ∃ read desk,
        (ChannelMessage.decode (Desk.chain (hosting.dialogue.speaker side).further) body).run
          (hosting.dialogue.speaker side).desk = (read, desk) := ⟨_, _, rfl⟩
    -- The receiver has not ended with the message, which therefore still holds its call.
    have holds : dispatch.Holds (hosting.dialogue.ended side) := by
      simp [Dispatch.Holds, sent]
    obtain ⟨receipt, heeds⟩ := heeds_hear (sound.speaker side).distinct run
    have changes := sound.changes_take idle waiting rfl heeds.verdict
    have taken : hosting.take side = (hosting.setDialogue (hosting.dialogue.take side)).note side
        fun journal => { journal with
          heard := journal.heard ++
            [((hosting.dialogue.ended side).length, (hosting.dialogue.speaker side).desk)]
          posts := journal.posts ++ (called? read).toList.map fun request =>
            ⟨(hosting.dialogue.ended side).length, request, none⟩ } := by
      simp only [Hosting.take, waiting, run, sound.length_ended side]
    rw [taken]
    have accepted := sound.toOrderly.next_accepted waiting
    rw [← changes.quiet] at accepted
    refine Hears.traced ⟨changes, heeds, journal_note_self .., journal_note_other ..,
      ⟨?_, own.registries, body, desk, accepted, own.plain ▸ run⟩⟩ traced ?_ ?_
    · rw [journal_note_self]
      exact List.mem_append_right _ (List.mem_singleton_self _)
    · rintro request rfl call waits named
      obtain ⟨_, same, errand⟩ | ⟨_, _, _, ⟨_, other⟩ | ⟨_, other⟩⟩ := carried.read run
      · obtain rfl := ChannelMessage.call.inj same
        rw [← sent]
        exact (traced.linked side.other).calling dispatch listed (by rwa [Side.other_other]) call
          waits (errand.trans (congrArg Errand.call named))
      · cases other
      · cases other
    · rintro message rfl call waits result tells
      obtain ⟨failed, errand⟩ : ∃ failed, dispatch.errand = .reply call.id failed := by
        obtain ⟨_, rfl, _⟩ | ⟨id, failed, errand, ⟨_, rfl⟩ | ⟨_, rfl⟩⟩ := carried.read run
        · cases tells
        · cases tells <;> exact ⟨failed, errand⟩
        · cases tells
          exact ⟨failed, errand⟩
      obtain ⟨order, reply, ordered, replied, posted, same⟩ :=
        (traced.linked side).replying dispatch listed holds call waits failed errand
      exact ⟨order, reply, ordered, replied, (Errand.reply.inj (same.symm.trans errand)).1,
        posted.trans sent⟩

/-! ## A job is run and ends -/

section Jobs

variable {before behind : List (Post τ)} {message : Ticket} {request : CallRequest}

/-- The job of a place, and the others. -/
theorem posts_split {place : Nat} {post : Post τ}
    (found : (hosting.journal side).posts[place]? = some post) :
    ∃ before behind, (hosting.journal side).posts = before ++ post :: behind ∧
      before.length = place := by
  obtain ⟨bound, rfl⟩ := List.getElem?_eq_some_iff.mp found
  exact ⟨_, _, (List.take_append_drop place _).symm.trans (by rw [List.drop_eq_getElem_cons bound]),
    List.length_take_of_le (Nat.le_of_lt bound)⟩

/-- It is noted that a job is run. -/
theorem Traced.noteRun (traced : Traced objects hosting) (desk : Desk τ)
    (split : (hosting.journal side).posts = before ++ ⟨message, request, none⟩ :: behind)
    (dialogue : after.dialogue = hosting.dialogue)
    (journal : after.journal side = { hosting.journal side with
      posts := before ++ ⟨message, request, some desk⟩ :: behind
      runs := (hosting.journal side).runs ++ [⟨message, request, desk⟩] })
    (peer : after.journal side.other = hosting.journal side.other) : Traced objects after := by
  have own := traced.faithful side
  have changes : hosting.dialogue.Changes after.dialogue side (hosting.dialogue.speaker side) []
      [] := dialogue ▸ .refl hosting.dialogue side
  have later : hosting.Later after := by
    refine .of_changes changes ?_ peer
    rw [journal]
    exact ⟨List.prefix_rfl, List.prefix_rfl, List.prefix_rfl, List.prefix_rfl⟩
  have known : ∀ post ∈ (after.journal side).posts, ∃ earlier ∈ (hosting.journal side).posts,
      earlier.message = post.message ∧ earlier.request = post.request := by
    intro post listed
    rw [journal] at listed
    rw [split]
    rcases List.mem_append.mp listed with first | rest
    · exact ⟨post, List.mem_append_left _ first, rfl, rfl⟩
    · rcases List.mem_cons.mp rest with rfl | last
      · exact ⟨_, List.mem_append_right _ (List.mem_cons_self ..), rfl, rfl⟩
      · exact ⟨post, List.mem_append_right _ (List.mem_cons_of_mem _ last), rfl, rfl⟩
  refine traced.change changes later peer ?_ (fun call waits => .inl waits)
    (fun dispatch listed => .inl listed) (fun entry listed => .inl listed)
    (fun post listed => .inl (known post listed)) (fun dispatch listed => .inl listed)
  · exact
      { plain := dialogue ▸ own.plain
        registries := dialogue ▸ own.registries
        ordering := own.ordering.later later (by rw [dialogue]) (by rw [journal])
        replying := own.replying.later later (by rw [journal])
        hearing := own.hearing.later later (by rw [dialogue]) (by rw [journal])
        working :=
          { jobs := by
              rw [journal, dialogue, own.working.jobs, split]
              simp
            posts := by
              intro post listed
              obtain ⟨earlier, among, same, named⟩ := known post listed
              obtain ⟨desk, heard⟩ := own.working.posts earlier among
              exact ⟨desk, same ▸ named ▸ heard.later later⟩
            endings := by
              intro entry listed
              rw [journal] at listed
              obtain ⟨desk, heard⟩ := own.working.endings entry listed
              exact ⟨desk, heard.later later⟩
            numbers := by
              have numbers := own.working.numbers
              rw [split] at numbers
              simpa [journal] using numbers
            runs := by
              have runs := own.working.runs
              have waits : Post.run? (⟨message, request, none⟩ : Post τ) = none := rfl
              have starts : Post.run? ⟨message, request, some desk⟩ =
                some ⟨message, request, desk⟩ := rfl
              rw [split, List.filterMap_append, List.filterMap_cons_none waits] at runs
              rw [journal, List.filterMap_append, List.filterMap_cons_some starts,
                List.append_assoc]
              refine (List.perm_append_singleton _ _).trans ((runs.cons _).trans ?_)
              rw [List.append_assoc]
              exact List.perm_middle.symm } }

/-- A job is run. -/
theorem Traced.run (traced : Traced objects hosting) (side : Side) (place : Nat) :
    Traced objects (hosting.run side place) := by
  unfold Hosting.run
  split
  case h_2 => exact traced
  rename_i message request found
  obtain ⟨before, behind, split, rfl⟩ := posts_split found
  refine traced.noteRun (hosting.dialogue.speaker side).desk split rfl ?_ (journal_note_other ..)
  rw [journal_note_self, split]
  simp

/-- An item is moved to the end. -/
theorem perm_moved {α : Type} (first second third : List α) (item : α) :
    (first ++ item :: second ++ third).Perm (first ++ second ++ (third ++ [item])) := by
  rw [List.append_assoc, List.cons_append, ← List.append_assoc (first ++ second),
    List.append_assoc first second]
  exact List.perm_middle.trans (List.perm_append_singleton _ _).symm

/-- It is noted that a job has ended. -/
theorem Traced.noteEnding (traced : Traced objects hosting) (desk : Desk τ) (ending : Option Ending)
    (split : (hosting.journal side).posts = before ++ ⟨message, request, some desk⟩ :: behind)
    (changes : hosting.dialogue.Changes after.dialogue side
      { hosting.dialogue.speaker side with jobs := (before ++ behind).map Post.request } [] [])
    (journal : after.journal side = { hosting.journal side with
      posts := before ++ behind
      endings := (hosting.journal side).endings ++ [(⟨message, request, desk⟩, ending)] })
    (peer : after.journal side.other = hosting.journal side.other) : Traced objects after := by
  have own := traced.faithful side
  have later : hosting.Later after := by
    refine .of_changes changes ?_ peer
    rw [journal]
    exact ⟨List.prefix_rfl, List.prefix_rfl, List.prefix_rfl, List.prefix_append _ _⟩
  have known : (after.journal side).posts ⊆ (hosting.journal side).posts := by
    rw [journal, split]
    exact ((List.sublist_cons_self _ _).append_left _).subset
  refine traced.change changes later peer ?_ (fun call waits => .inl waits)
    (fun dispatch listed => .inl listed) (fun entry listed => .inl listed)
    (working_of_posts known) (fun dispatch listed => .inl listed)
  exact
    { plain := by rw [changes.own, own.plain]
      registries := by
        rw [changes.own]
        exact own.registries
      ordering := own.ordering.later later (by rw [changes.own]) (by rw [journal])
      replying := own.replying.later later (by rw [journal])
      hearing := own.hearing.later later (by rw [changes.ended, List.append_nil]) (by rw [journal])
      working :=
        { jobs := by rw [journal, changes.own]
          posts := by
            intro post listed
            obtain ⟨desk, heard⟩ := own.working.posts post (known listed)
            exact ⟨desk, heard.later later⟩
          endings := by
            intro entry listed
            rw [journal] at listed
            rcases List.mem_append.mp listed with earlier | last
            · obtain ⟨desk, heard⟩ := own.working.endings entry earlier
              exact ⟨desk, heard.later later⟩
            · obtain rfl := List.mem_singleton.mp last
              have among : ⟨message, request, some desk⟩ ∈ (hosting.journal side).posts :=
                split ▸ List.mem_append_right _ (List.mem_cons_self ..)
              obtain ⟨desk, heard⟩ := own.working.posts _ among
              exact ⟨desk, heard.later later⟩
          numbers := by
            have numbers := own.working.numbers
            rw [split, List.map_append, List.map_cons] at numbers
            rw [journal, List.map_append, List.map_append]
            exact (perm_moved _ _ _ _).nodup_iff.mp numbers
          runs := by
            have runs := own.working.runs
            have ran : Post.run? ⟨message, request, some desk⟩ = some ⟨message, request, desk⟩ :=
              rfl
            rw [split, List.filterMap_append, List.filterMap_cons_some ran] at runs
            rw [journal, List.filterMap_append, List.map_append]
            exact runs.trans (perm_moved _ _ _ _) } }

/-- The job that is being run at a place, and what is left without it. -/
theorem Working.running_split (working : hosting.Working side) {place : Nat} {run : Run τ}
    (running : hosting.running? side place = some run) :
    ∃ before behind, (hosting.journal side).posts =
        before ++ ⟨run.message, run.request, some run.desk⟩ :: behind ∧
      (hosting.journal side).posts.eraseIdx place = before ++ behind ∧
      (hosting.dialogue.speaker side).finish place =
        { hosting.dialogue.speaker side with jobs := (before ++ behind).map Post.request } := by
  obtain ⟨job, noted, found⟩ := running?_eq_some running
  obtain ⟨before, behind, split, rfl⟩ := posts_split found
  have jobs : (hosting.dialogue.speaker side).jobs =
      before.map Post.request ++ noted :: behind.map Post.request := by
    rw [working.jobs, split, List.map_append, List.map_cons]
  have place : before.length = (before.map Post.request).length := (List.length_map _).symm
  -- What is noted of the job is the job itself.
  obtain rfl : run.request = noted := by
    rw [jobs, place, List.getElem?_append_right (Nat.le_refl _), Nat.sub_self] at job
    exact (Option.some.inj job).symm
  refine ⟨before, behind, split, ?_, ?_⟩
  · rw [split, List.eraseIdx_append_of_length_le (Nat.le_refl _), Nat.sub_self]
    rfl
  · rw [Speaker.finish, jobs, place, List.eraseIdx_append_of_length_le (Nat.le_refl _),
      Nat.sub_self, List.map_append]
    rfl

/-- A job ends, and is answered. -/
theorem Traced.finish (traced : Traced objects hosting) (sound : hosting.dialogue.Sound)
    (side : Side) (place : Nat) (ending : Ending) :
    Traced objects (hosting.finish (objects side) side place ending) := by
  unfold Hosting.finish
  split
  · exact traced
  · rename_i run running
    obtain ⟨before, behind, posts, erased, finished⟩ :=
      (traced.faithful side).working.running_split running
    have orderly := sound.toOrderly.setSpeaker ((hosting.dialogue.speaker side).finish place)
      rfl { sound.speaker side with }
    have changes : hosting.dialogue.Changes (hosting.dialogue.setSpeaker side
        ((hosting.dialogue.speaker side).finish place)) side
          { hosting.dialogue.speaker side with jobs := (before ++ behind).map Post.request } []
            [] := finished ▸ .setSpeaker rfl
    have ended : Traced objects ((hosting.setDialogue (hosting.dialogue.setSpeaker side
        ((hosting.dialogue.speaker side).finish place))).note side fun journal =>
          { journal with
            posts := journal.posts.eraseIdx place
            endings := journal.endings ++ [(run, run.ending? (objects side) ending)] }) := by
      refine traced.noteEnding run.desk (run.ending? (objects side) ending) posts changes ?_
        (journal_note_other ..)
      rw [journal_note_self, journal_setDialogue, erased]
    refine ended.answer orderly fun call waits named => ?_
    have waiting : call ∈ hosting.pending side.other := by
      rw [pending, ← changes.peer]
      exact waits
    have among : ⟨run.message, run.request, some run.desk⟩ ∈
        (hosting.journal side.other.other).posts := by
      rw [Side.other_other, posts]
      exact List.mem_append_right _ (List.mem_cons_self ..)
    obtain ⟨order, ordered, sent⟩ :=
      (traced.linked side.other).working _ among call waiting named.symm
    refine ⟨order, run, _, ⟨?_, ordered.method, ordered.callSite⟩, ?_, sent, .outcome⟩
    · rw [journal_note_other]
      exact ordered.listed
    · rw [journal_note_self]
      exact List.mem_append_right _ (List.mem_singleton_self _)

end Jobs

/-! ## A task goes on -/

section Tasks

variable {place : Nat} {dispatch : Dispatch}

theorem rests_dismiss (speaker : Speaker τ) (place : Nat) :
    Rests speaker (speaker.dismiss place) :=
  ⟨rfl, id, List.Subset.refl _, (List.eraseIdx_sublist _ _).subset, rfl⟩

/-- A call fails whose message was not delivered. -/
theorem Traced.fail (traced : Traced objects hosting) (sound : hosting.dialogue.Sound)
    {id : UInt64} {error : PipeError}
    (found : (hosting.dialogue.speaker side).dispatches[place]? = some dispatch)
    (holds : dispatch.Holds (hosting.dialogue.ended side.other))
    (errand : dispatch.errand = .call id)
    (known : dispatch.outcome? (hosting.dialogue.pair.party side).reports = some (.error error)) :
    Traced objects ((hosting.setDialogue (hosting.dialogue.setSpeaker side
      ((hosting.dialogue.speaker side).dismiss place))).follow side (.fail id error)) := by
  have completes := completes_change
    (show ((hosting.dialogue.speaker side).dismiss place).pending.Nodup from
      (sound.speaker side).distinct) id fun _ => .error (.ofPipeError error)
  have changes : hosting.dialogue.Changes ((hosting.dialogue.setSpeaker side
      ((hosting.dialogue.speaker side).dismiss place)).follow side (.fail id error)) side
        (((hosting.dialogue.speaker side).dismiss place).change
          (((hosting.dialogue.speaker side).dismiss place).desk.channel.completeCall id
            fun _ => .error (.ofPipeError error))) [] [] := by
    simp only [Dialogue.follow, Dialogue.speaker_setSpeaker_self, Dialogue.setSpeaker_setSpeaker]
    exact .setSpeaker completes.verdict
  refine traced.rest changes rfl ((rests_dismiss _ place).trans completes.rests) completes.jobs
    fun entry listed => (completes.completed entry listed).imp_right ?_
  rintro ⟨call, waits, rfl, rfl⟩
  obtain ⟨order, ordered, sent⟩ := (traced.linked side).calling dispatch
    (List.mem_of_getElem? found) holds call waits errand
  refine ⟨order, ordered.listed, ?_⟩
  rcases sound.toOrderly.failure_cases known with
    unsent | ⟨number, receipt, written, judged, refuses⟩
  · exact .unsent error (sent.trans unsent)
  · exact .refused error number receipt (sent.trans written) judged refuses

/-- A result that did not get through is one that cannot be conveyed. -/
theorem Traced.not_conveyable (traced : Traced objects hosting)
    (orderly : hosting.dialogue.Orderly) {reply : Reply τ} {value : Value}
    {error : PipeError} {reason : String} (listed : reply ∈ (hosting.journal side).replies)
    (result : reply.outcome = .ok value) (sent : reply.sent = dispatch.sent)
    (known : dispatch.outcome? (hosting.dialogue.pair.party side).reports = some (.error error))
    (unportable : Channel.unportable? false error = some reason) : ¬ value.Conveyable := by
  intro conveyable
  obtain ⟨sound, posts⟩ := (traced.faithful side).replying reply listed
  obtain ⟨bytes, after, written, read⟩ := Desk.conveys_result conveyable sound reply.callId
  rw [result] at posts
  -- It could be written when it was given, and the peer could read it.
  rcases orderly.failure_cases known with unsent | ⟨number, receipt, given, judged, refuses⟩
  · rw [sent, unsent] at posts
    cases posts with
    | full => cases unportable
    | unwritten failed => cases failed.symm.trans written
  · rw [sent, given] at posts
    obtain ⟨desk, fault, heard⟩ :=
      (traced.faithful side.other).hearing.refused number receipt judged refuses
    obtain ⟨bytes', left, accepted, failed⟩ := heard.read
    rw [Side.other_other] at accepted
    cases posts with
    | sent written' accepted' =>
      obtain rfl := Option.some.inj (accepted.symm.trans accepted')
      obtain ⟨same, _⟩ := Prod.mk.inj (written'.symm.trans written)
      obtain rfl := Except.ok.inj same
      obtain ⟨received, last, decoded, _⟩ := read desk heard.sound
      cases failed.symm.trans decoded

/-- A result that did not get through is replaced by an error. -/
theorem Traced.replace (traced : Traced objects hosting) (sound : hosting.dialogue.Sound)
    {id : UInt64} {error : PipeError} {failed : Bool} {reason : String}
    (found : (hosting.dialogue.speaker side).dispatches[place]? = some dispatch)
    (orderly : (hosting.dialogue.setSpeaker side
      ((hosting.dialogue.speaker side).dismiss place)).Orderly)
    (holds : dispatch.Holds (hosting.dialogue.ended side.other))
    (errand : dispatch.errand = .reply id failed)
    (known : dispatch.outcome? (hosting.dialogue.pair.party side).reports = some (.error error))
    (unportable : Channel.unportable? failed error = some reason) :
    Traced objects ((hosting.setDialogue (hosting.dialogue.setSpeaker side
      ((hosting.dialogue.speaker side).dismiss place))).follow side (.replace id reason)) := by
  have rested : Traced objects (hosting.setDialogue (hosting.dialogue.setSpeaker side
      ((hosting.dialogue.speaker side).dismiss place))) :=
    traced.rest (.setSpeaker rfl) rfl (rests_dismiss _ place) rfl fun entry listed => .inl listed
  -- Only a result is ever replaced.
  obtain rfl : failed = false := by
    cases failed with
    | false => rfl
    | true => cases error <;> cases unportable
  refine rested.answer orderly fun call waits named => ?_
  have waiting : call ∈ hosting.pending side.other := by
    rw [pending, ← Dialogue.speaker_setSpeaker_other]
    exact waits
  obtain ⟨order, reply, ordered, ⟨listed, run, ending, ended, sent, gives⟩, posted, same⟩ :=
    (traced.linked side.other).replying dispatch
      (by rw [Side.other_other]; exact List.mem_of_getElem? found) holds call waiting false
      (by rw [errand, named])
  rw [Side.other_other] at listed ended gives
  obtain ⟨value, result⟩ : ∃ value, reply.outcome = .ok value := by
    rw [errand] at same
    cases outcome : reply.outcome with
    | ok value => exact ⟨value, rfl⟩
    | error failure =>
      rw [outcome] at same
      cases same
  have stuck := traced.not_conveyable sound.toOrderly listed result posted known unportable
  exact ⟨order, run, ending, ⟨ordered.listed, ordered.method, ordered.callSite⟩, ended, sent,
    .unportable (gives.of_value result) stuck reason⟩

/-- A task goes on. -/
theorem Traced.settle (traced : Traced objects hosting) (sound : hosting.dialogue.Sound)
    (side : Side) (place : Nat) : Traced objects (hosting.settle side place) := by
  unfold Hosting.settle
  cases found : (hosting.dialogue.speaker side).dispatches[place]? with
  | none =>
    simp only [found]
    exact traced
  | some dispatch =>
    cases known : dispatch.outcome? (hosting.dialogue.pair.party side).reports with
    | none =>
      simp only [found, known]
      exact traced
    | some outcome =>
      simp only [found, known]
      have orderly := sound.toOrderly.setSpeaker ((hosting.dialogue.speaker side).dismiss place) rfl
        ((sound.speaker side).dismiss found fun _ sent => Dialogue.reported_of_outcome known sent)
      rcases sound.toOrderly.outcome_cases (List.mem_of_getElem? found) known with
        ⟨_, rfl⟩ | ⟨holds, error, rfl, _⟩
      · have nothing : Channel.aftermath dispatch.errand (.ok ()) = .nothing := by
          cases dispatch.errand <;> rfl
        rw [nothing]
        exact traced.rest (.setSpeaker rfl) rfl (rests_dismiss _ place) rfl
          fun entry listed => .inl listed
      · cases errand : dispatch.errand with
        | call id => exact traced.fail sound found holds errand known
        | reply id failed =>
          cases unportable : Channel.unportable? failed error with
          | some reason =>
            simp only [Channel.aftermath, unportable]
            exact traced.replace sound found orderly holds errand known unportable
          | none =>
            simp only [Channel.aftermath, unportable]
            have changes : hosting.dialogue.Changes ((hosting.dialogue.setSpeaker side
                ((hosting.dialogue.speaker side).dismiss place)).follow side (.giveUp id error))
                side { (hosting.dialogue.speaker side).dismiss place with
                  givenUp := (hosting.dialogue.speaker side).givenUp ++ [(id, error)] } [] [] := by
              simp only [Dialogue.follow, Dialogue.speaker_setSpeaker_self,
                Dialogue.setSpeaker_setSpeaker]
              exact .setSpeaker rfl
            exact traced.rest changes rfl
              { rests_dismiss (hosting.dialogue.speaker side) place with } rfl
              fun entry listed => .inl listed

end Tasks

/-! ## Steps and runs -/

/-- Nothing but the pipes or the desk of a side has changed. -/
theorem Traced.aside (traced : Traced objects hosting) {dialogue : Dialogue τ} {desk : Desk τ}
    {verdict : Option Receipt}
    (changes : hosting.dialogue.Changes dialogue side
      { hosting.dialogue.speaker side with desk, verdict } [] [])
    (registries : (hosting.dialogue.speaker side).desk.channel.Sound → desk.channel.Sound)
    (calls : desk.channel.calls = (hosting.dialogue.speaker side).desk.channel.calls) :
    Traced objects (hosting.setDialogue dialogue) :=
  traced.rest changes rfl
    ⟨rfl, registries, by rw [calls]; exact List.Subset.refl _, List.Subset.refl _, rfl⟩ rfl
    fun entry listed => .inl listed

theorem Step.traced (step : Step objects handlers hosting after)
    (sound : hosting.dialogue.Sound) (traced : Traced objects hosting) :
    Traced objects after := by
  cases step with
  | transit transit =>
    exact traced.aside (Dialogue.Changes.setPair transit.moves .a) id rfl
  | take side running idle => exact traced.take sound idle
  | conclude side => exact traced.aside (sound.changes_conclude side) id rfl
  | start side instanceId method values callSite room =>
    exact traced.start sound side instanceId method values callSite room
  | run side place => exact traced.run side place
  | finish side place ending => exact traced.finish sound side place ending
  | settle side place => exact traced.settle sound side place
  | work side desk aside grows =>
    exact traced.aside (.setSpeaker rfl) (fun sound => sound.grows grows) (congrArg Prod.fst aside)
  | register side name service =>
    exact traced.aside (.setSpeaker rfl) (fun sound => sound.register name service) rfl

/-- Two channels before anything has happened. -/
theorem Opening.traced (objects : Side → Nat → ServiceObject η) (opening : Opening τ) :
    Traced objects opening.hosting := by
  constructor
  case faithful =>
    intro side
    have ended : opening.hosting.dialogue.ended side = [] := by
      cases side <;> rfl
    exact
      { plain := rfl
        registries := .new _ _ _ _
        ordering := ⟨rfl, List.forall_mem_nil _, .nil⟩
        replying := List.forall_mem_nil _
        hearing := ⟨by rw [ended]; rfl, fun number receipt judged => by
          rw [ended] at judged
          cases judged⟩
        working := ⟨rfl, List.forall_mem_nil _, List.forall_mem_nil _, .nil, .nil⟩ }
  case linked =>
    exact fun side => ⟨List.forall_mem_nil _, List.forall_mem_nil _, List.forall_mem_nil _,
      List.forall_mem_nil _⟩

theorem Reachable.traced {opening : Opening τ}
    (reachable : Reachable objects handlers opening hosting)
    (kept : hosting.dialogue.pair.Kept) : Traced objects hosting := by
  induction reachable with
  | refl => exact opening.traced objects
  | tail reachable step ih =>
    have before := Reachable.kept_of_step reachable step kept
    exact step.traced (Reachable.sound reachable before) (ih before)

end Hosting

end Courier
