import Courier.Proofs.Rpc.Accounts

/-!
# Calls and what completes them

The peer of a channel may send anything: returns for calls that were never made,
for calls that have their result already, twice or in any order, and bytes that
no channel would send.  Messages of calls may fail to be delivered at any time,
and the channel may be closed.  Whatever happens, a caller is told a result once
at most, and it is told the result as soon as something happens that concerns its
call: a return with its id, a failure with its id, or the closing.

The events of a run are kept in a list.  What became of the calls can be read off
this list alone (`CallEvent.records`), without a channel: each call is still
pending, or it was told what the first event after its start that concerns it
says.  `Speaker.Runs.correlated` says that the channel agrees with the list.
-/

namespace Courier

set_option autoImplicit false

/-! ## Events -/

/-- Something that happens to the calls of a channel. -/
inductive CallEvent where
  /-- A call is started.  It is given an id unless the channel has terminated. -/
  | started (id : Option UInt64) (method : Method) (callSite : String)
  /-- A message of the peer is received. -/
  | received (message : ChannelMessage)
  /-- The message of the call with an id was not delivered. -/
  | undelivered (id : UInt64) (error : PipeError)
  | closed

/-- A call that was started: it is pending, or its caller was told a result. -/
inductive CallRecord where
  | pending (call : PendingCall)
  | told (caller : Ticket) (result : CallResult)

namespace CallEvent

/-- What an event tells the caller of a pending call, if it concerns this call. -/
def result? (call : PendingCall) : CallEvent → Option CallResult
  | started .. | received (.call _) => none
  | received (.reply id outcome) =>
    if id = call.id then some (Channel.resultOf outcome call) else none
  | received (.unreadable id reason) =>
    if id = call.id then some (.error (.transport (.marshal reason))) else none
  | undelivered id error => if id = call.id then some (.error (.ofPipeError error)) else none
  | closed => some (.error .closed)

/-- A call is started. -/
def isStart : CallEvent → Bool
  | started .. => true
  | _ => false

/-- How many calls were started. -/
def starts (events : List CallEvent) : Nat := events.countP isStart

end CallEvent

namespace CallRecord

def pending? : CallRecord → Option PendingCall
  | pending call => some call
  | told .. => none

def told? : CallRecord → Option (Ticket × CallResult)
  | pending _ => none
  | told caller result => some (caller, result)

def caller : CallRecord → Ticket
  | pending call => call.caller
  | told caller _ => caller

/-- A call after an event: a pending one is told what concerns it, the others are not touched. -/
def after (event : CallEvent) : CallRecord → CallRecord
  | pending call =>
    match event.result? call with
    | none => pending call
    | some result => told call.caller result
  | told caller result => told caller result

theorem caller_after (event : CallEvent) (record : CallRecord) :
    (record.after event).caller = record.caller := by
  cases record with
  | pending call =>
    simp only [after]
    cases event.result? call <;> rfl
  | told caller result => rfl

/-- A call after some events: the first one that concerns it decides. -/
def afterAll (events : List CallEvent) : CallRecord → CallRecord
  | pending call =>
    match events.findSome? (CallEvent.result? call) with
    | none => pending call
    | some result => told call.caller result
  | told caller result => told caller result

theorem afterAll_cons (event : CallEvent) (events : List CallEvent) (record : CallRecord) :
    afterAll (event :: events) record = afterAll events (after event record) := by
  cases record with
  | told caller result => rfl
  | pending call =>
    simp only [afterAll, List.findSome?_cons, after]
    cases event.result? call <;> rfl

theorem afterAll_eq_pending {events : List CallEvent} {call : PendingCall} :
    afterAll events (pending call) = pending call ↔
      events.findSome? (CallEvent.result? call) = none := by
  simp only [afterAll]
  cases events.findSome? (CallEvent.result? call) <;> simp

theorem afterAll_eq_told {events : List CallEvent} {call : PendingCall} {result : CallResult} :
    afterAll events (pending call) = told call.caller result ↔
      events.findSome? (CallEvent.result? call) = some result := by
  simp only [afterAll]
  cases events.findSome? (CallEvent.result? call) <;> simp

/-- Each caller waits or was told. -/
theorem callers_perm (records : List CallRecord) :
    ((records.filterMap told?).map Prod.fst ++
      (records.filterMap pending?).map PendingCall.caller).Perm (records.map caller) := by
  induction records with
  | nil => exact .refl _
  | cons record records ih =>
    cases record with
    | told caller result => exact ih.cons caller
    | pending call => exact List.perm_middle.trans (ih.cons call.caller)

variable (event : CallEvent) (records : List CallRecord)

/-- The calls that are pending after an event are those that it does not concern. -/
theorem pending_after :
    (records.map (after event)).filterMap pending? =
      (records.filterMap pending?).filter fun call => (event.result? call).isNone := by
  induction records with
  | nil => rfl
  | cons record records ih =>
    rw [List.map_cons, List.filterMap_cons, List.filterMap_cons, ih]
    cases record with
    | told caller result => rfl
    | pending call => cases concerned : event.result? call <;> simp [pending?, after, concerned]

/-- What is told after an event was told before, or is told now to one who waited. -/
theorem told_after :
    ((records.map (after event)).filterMap told?).Perm (records.filterMap told? ++
      (records.filterMap pending?).filterMap fun call =>
        (event.result? call).map fun result => (call.caller, result)) := by
  induction records with
  | nil => exact .refl _
  | cons record records ih =>
    simp only [List.map_cons, List.filterMap_cons]
    cases record with
    | told caller result => exact ih.cons _
    | pending call =>
      cases concerned : event.result? call with
      | none => simpa [pending?, told?, after, concerned] using ih
      | some result =>
        simp only [after, concerned, told?, pending?, List.filterMap_cons, Option.map_some]
        exact (ih.cons _).trans List.perm_middle.symm

end CallRecord

namespace CallEvent

/-- The calls after one more event. -/
def note (records : List CallRecord) (event : CallEvent) : List CallRecord :=
  match event with
  | started (some id) method callSite =>
    records ++ [.pending ⟨id, method, callSite, records.length⟩]
  | started none _ _ => records ++ [.told records.length (.error .closed)]
  | event => records.map (CallRecord.after event)

/-- What became of the calls that were started, in the order in which they were. -/
def records (events : List CallEvent) : List CallRecord := events.foldl note []

theorem records_concat (events : List CallEvent) (event : CallEvent) :
    records (events ++ [event]) = note (records events) event := by
  simp [records, List.foldl_append]

theorem length_records (events : List CallEvent) : (records events).length = starts events := by
  induction events using List.reverseRecOn with
  | nil => rfl
  | append_singleton events event ih =>
    rw [records_concat, starts, List.countP_append, ← starts, ← ih]
    cases event with
    | started id method callSite => cases id <;> simp [note, isStart]
    | _ => simp [note, isStart]

/-- The caller of a call has the number of the call for a ticket. -/
theorem caller_records (events : List CallEvent) :
    (records events).map CallRecord.caller = List.range (starts events) := by
  induction events using List.reverseRecOn with
  | nil => rfl
  | append_singleton events event ih =>
    have length := length_records events
    rw [records_concat, starts, List.countP_append, ← starts]
    cases event with
    | started id method callSite =>
      cases id <;> simp [note, isStart, ih, CallRecord.caller, length, List.range_succ]
    | _ => simpa [note, isStart, Function.comp_def, CallRecord.caller_after] using ih

/-- One more event does to a call what it says of it. -/
theorem getElem?_note {records : List CallRecord} {place : Nat} {record : CallRecord}
    (found : records[place]? = some record) (event : CallEvent) :
    (note records event)[place]? = some (record.after event) := by
  have bound := (List.getElem?_eq_some_iff.mp found).1
  cases event with
  | started id method callSite =>
    have same : record.after (started id method callSite) = record := by cases record <;> rfl
    cases id <;> simp only [note, List.getElem?_append_left bound, found, same]
  | _ => simp only [note, List.getElem?_map, found, Option.map_some]

/-- One event after the other does to a call what the first one that concerns it says. -/
theorem getElem?_foldl_note {records : List CallRecord} {place : Nat} {record : CallRecord}
    (found : records[place]? = some record) (events : List CallEvent) :
    (events.foldl note records)[place]? = some (record.afterAll events) := by
  induction events generalizing records record with
  | nil => cases record <;> exact found
  | cons event events ih =>
    rw [List.foldl_cons, ih (getElem?_note found event), CallRecord.afterAll_cons]

/-- What became of a call that was given an id. -/
theorem getElem?_records (before : List CallEvent) (id : UInt64) (method : Method)
    (callSite : String) (after : List CallEvent) :
    (records (before ++ started (some id) method callSite :: after))[starts before]? =
      some (CallRecord.afterAll after (.pending ⟨id, method, callSite, starts before⟩)) := by
  have entered : (note (records before) (started (some id) method callSite))[starts before]? =
      some (.pending ⟨id, method, callSite, starts before⟩) := by
    simp [note, ← length_records]
  rw [records, List.foldl_append, List.foldl_cons]
  exact getElem?_foldl_note entered after

/-- A call that was given no id was told so. -/
theorem getElem?_records_none (before : List CallEvent) (method : Method) (callSite : String)
    (after : List CallEvent) :
    (records (before ++ started none method callSite :: after))[starts before]? =
      some (.told (starts before) (.error .closed)) := by
  have entered : (note (records before) (started none method callSite))[starts before]? =
      some (.told (starts before) (.error .closed)) := by
    simp [note, ← length_records]
  rw [records, List.foldl_append, List.foldl_cons]
  exact getElem?_foldl_note entered after

/-- The ticket of its caller is the place of a call. -/
theorem mem_records {events : List CallEvent} {record : CallRecord} :
    record ∈ records events ↔ (records events)[record.caller]? = some record := by
  constructor
  · intro listed
    obtain ⟨place, found⟩ := List.mem_iff_getElem?.mp listed
    have caller : ((records events).map CallRecord.caller)[place]? = some record.caller := by
      rw [List.getElem?_map, found, Option.map_some]
    rw [caller_records, List.getElem?_eq_some_iff] at caller
    obtain ⟨_, same⟩ := caller
    rw [← same, List.getElem_range]
    exact found
  · exact List.mem_of_getElem?

/-- Just the calls that are started after the closing get no id. -/
def Refused (events : List CallEvent) : Prop :=
  ∀ before id method callSite after, events = before ++ started id method callSite :: after →
    (id = none ↔ closed ∈ before)

theorem Refused.concat {events : List CallEvent} (refused : Refused events) {event : CallEvent}
    (last : ∀ id method callSite, event = started id method callSite →
      (id = none ↔ closed ∈ events)) : Refused (events ++ [event]) := by
  intro before id method callSite after split
  rcases List.eq_nil_or_concat after with rfl | ⟨after, final, rfl⟩
  · obtain ⟨rfl, same⟩ := List.append_inj' split rfl
    exact last id method callSite (List.singleton_inj.mp same)
  · have longer : events ++ [event] =
        (before ++ started id method callSite :: after) ++ [final] := by
      rw [split]
      simp
    exact refused before id method callSite after (List.append_inj' longer rfl).1

end CallEvent

/-! ## Runs -/

namespace Speaker

variable {τ : Type}

/-- A call is started; gives the id that it gets. -/
def begin (speaker : Speaker τ) (method : Method) (callSite : String) :
    Option UInt64 × Speaker τ :=
  let caller := speaker.started
  match speaker.desk.channel.startCall method callSite caller with
  | none => (none, { speaker with
      started := caller + 1
      completed := speaker.completed ++ [(caller, .error .closed)] })
  | some (id, channel) => (some id, { speaker with
      started := caller + 1
      desk := { speaker.desk with channel } })

/-- The runs of a channel, and what happens to its calls in them.  Calls can only be started while
there is an id that no pending call has. -/
inductive Runs : List CallEvent → Speaker τ → Prop where
  | new (number : Nat) (mark : Nat → UInt64) (singletons : Singletons) (kept : τ)
      (further : List (Stage τ)) : Runs [] (.new (.new number mark singletons) kept further)
  | start {events : List CallEvent} {speaker : Speaker τ} (runs : Runs events speaker)
      (method : Method) (callSite : String)
      (room : speaker.desk.channel.calls.busyIds.length < UInt64.size) :
      Runs (events ++ [.started (speaker.begin method callSite).1 method callSite])
        (speaker.begin method callSite).2
  | receive {events : List CallEvent} {speaker : Speaker τ} (runs : Runs events speaker)
      (message : ChannelMessage) :
      Runs (events ++ [.received message])
        (speaker.change (speaker.desk.channel.receive message))
  | undelivered {events : List CallEvent} {speaker : Speaker τ} (runs : Runs events speaker)
      (id : UInt64) (error : PipeError) :
      Runs (events ++ [.undelivered id error])
        (speaker.change (speaker.desk.channel.callUndelivered id error))
  | close {events : List CallEvent} {speaker : Speaker τ} (runs : Runs events speaker) :
      Runs (events ++ [.closed]) (speaker.change speaker.desk.channel.terminate)
  /-- Something is done that concerns no call of this channel: values are marshaled, a job of the
  peer ends, or what has become of a message is found out. -/
  | aside {events : List CallEvent} {speaker after : Speaker τ} (runs : Runs events speaker)
      (desk : after.desk.standing = speaker.desk.standing)
      (started : after.started = speaker.started)
      (completed : after.completed = speaker.completed) : Runs events after

/-- Whatever bytes arrive, they are a message or they concern no call. -/
theorem Runs.hear {events : List CallEvent} {speaker : Speaker τ} (runs : Runs events speaker)
    (bytes : Bytes) : ∃ later, Runs (events ++ later) (speaker.hear bytes) := by
  have kept := (Desk.keeps_chain speaker.further).decode bytes speaker.desk
  unfold Speaker.hear
  rcases read : (ChannelMessage.decode (Desk.chain speaker.further) bytes).run speaker.desk with
    ⟨fault | message, desk⟩
  · rw [read] at kept
    refine ⟨[], ?_⟩
    rw [List.append_nil]
    exact runs.aside kept rfl rfl
  · rw [read] at kept
    have aside : Runs events { speaker with desk, verdict := some .accepted } :=
      runs.aside kept rfl rfl
    exact ⟨[.received message], aside.receive message⟩

/-- A channel agrees with the events about its calls. -/
structure Agrees (events : List CallEvent) (speaker : Speaker τ) : Prop where
  pending : speaker.desk.channel.calls.pending =
    (CallEvent.records events).filterMap CallRecord.pending?
  told : speaker.completed.Perm ((CallEvent.records events).filterMap CallRecord.told?)
  started : speaker.started = CallEvent.starts events
  distinct : speaker.pending.Nodup
  terminated : speaker.desk.channel.terminated = true ↔ .closed ∈ events
  ended : .closed ∈ events → speaker.desk.channel.calls.pending = []
  refused : CallEvent.Refused events

/-- What an event does that is no start: the calls that it concerns leave the table, and their
callers are told what it says. -/
structure Tells (speaker : Speaker τ) (event : CallEvent) (after : Speaker τ) : Prop where
  pending : after.desk.channel.calls.pending =
    speaker.desk.channel.calls.pending.filter fun call => (event.result? call).isNone
  completed : after.completed = speaker.completed ++
    speaker.desk.channel.calls.pending.filterMap fun call =>
      (event.result? call).map fun result => (call.caller, result)
  started : after.started = speaker.started

/-- Where ids are distinct, an event for one id concerns the call that is found under it. -/
theorem filterMap_eq_find? {pending : List PendingCall} (distinct : (pending.map (·.id)).Nodup)
    (id : UInt64) (result : PendingCall → CallResult) :
    (pending.filterMap fun call =>
        (if id = call.id then some (result call) else none).map fun told => (call.caller, told)) =
      ((pending.find? fun call => call.id = id).map fun call =>
        (call.caller, result call)).toList := by
  induction pending with
  | nil => rfl
  | cons first rest ih =>
    obtain ⟨fresh, distinct⟩ := List.nodup_cons.mp distinct
    by_cases same : first.id = id
    · subst same
      have others : (rest.filterMap fun call =>
          (if first.id = call.id then some (result call) else none).map fun told =>
            (call.caller, told)) = [] := by
        refine List.filterMap_eq_nil_iff.mpr fun call listed => ?_
        rw [if_neg fun same => fresh (List.mem_map.mpr ⟨call, listed, same.symm⟩)]
        rfl
      simp only [List.filterMap_cons, if_true, Option.map_some, others, List.find?_cons,
        decide_true, Option.toList_some]
    · simp only [List.filterMap_cons, if_neg (Ne.symm same), Option.map_none, List.find?_cons,
        decide_eq_false same, ih distinct]

/-- What a channel asks for does not change it. -/
theorem channel_change (speaker : Speaker τ) (changed : Channel × List ChannelEffect) :
    (speaker.change changed).desk.channel = changed.1 := by
  unfold change
  induction changed.2 using List.reverseRecOn with
  | nil => rfl
  | append_singleton effects effect ih =>
    rw [List.foldl_append]
    cases effect <;> exact ih

/-- Callers are told one after the other. -/
theorem change_complete (speaker : Speaker τ) (channel : Channel)
    (told : List (Ticket × CallResult)) :
    speaker.change (channel, told.map fun entry => .complete entry.1 entry.2) =
      { speaker with
        desk := { speaker.desk with channel }
        completed := speaker.completed ++ told } := by
  unfold change
  induction told using List.reverseRecOn with
  | nil => simp
  | append_singleton told entry ih =>
    rw [List.map_append, List.foldl_append, ih]
    simp [perform]

theorem tells_completeCall (speaker : Speaker τ) (distinct : speaker.pending.Nodup) (id : UInt64)
    (result : PendingCall → CallResult) {event : CallEvent}
    (concerns : ∀ call, event.result? call = if id = call.id then some (result call) else none) :
    speaker.Tells event (speaker.change (speaker.desk.channel.completeCall id result)) := by
  have effects : speaker.desk.channel.completeCall id result =
      ({ speaker.desk.channel with calls := (speaker.desk.channel.calls.finish id).2 },
        ((speaker.desk.channel.calls.pending.filterMap fun call =>
          (event.result? call).map fun told => (call.caller, told)).map fun entry =>
            ChannelEffect.complete entry.1 entry.2)) := by
    have found := filterMap_eq_find? distinct id result
    simp only [concerns, found]
    unfold Channel.completeCall CallTable.finish CallTable.pending?
    cases speaker.desk.channel.calls.pending.find? fun call => call.id = id <;> rfl
  rw [effects, change_complete]
  refine ⟨?_, rfl, rfl⟩
  simp only [CallTable.finish, concerns]
  refine List.filter_congr fun call _ => ?_
  by_cases same : id = call.id
  · simp [same]
  · simp [same, Ne.symm same]

theorem tells_receive (speaker : Speaker τ) (distinct : speaker.pending.Nodup)
    (message : ChannelMessage) :
    speaker.Tells (.received message)
      (speaker.change (speaker.desk.channel.receive message)) := by
  cases message with
  | call request =>
    refine ⟨?_, ?_, rfl⟩
    · simp [Channel.receive, change, perform, CallEvent.result?]
    · simp [Channel.receive, change, perform, CallEvent.result?]
  | reply id outcome => exact tells_completeCall speaker distinct id _ fun _ => rfl
  | unreadable id reason => exact tells_completeCall speaker distinct id _ fun _ => rfl

theorem tells_terminate (speaker : Speaker τ) :
    speaker.Tells .closed (speaker.change speaker.desk.channel.terminate) := by
  have effects : speaker.desk.channel.terminate = (speaker.desk.channel.terminate.1,
      (speaker.desk.channel.calls.pending.map fun call =>
        (call.caller, (.error .closed : CallResult))).map fun entry =>
          ChannelEffect.complete entry.1 entry.2) := by
    rw [List.map_map]
    rfl
  rw [effects, change_complete]
  refine ⟨?_, ?_, rfl⟩
  · simp [Channel.terminate, CallTable.abandon, CallEvent.result?]
  · simp [CallEvent.result?]

/-! ## The channel agrees with the events -/

theorem Agrees.new (number : Nat) (mark : Nat → UInt64) (singletons : Singletons) (kept : τ)
    (further : List (Stage τ)) :
    Agrees [] (Speaker.new (.new number mark singletons) kept further) where
  pending := rfl
  told := .refl _
  started := rfl
  distinct := .nil
  terminated := by simp [Speaker.new, Channel.new]
  ended closed := by cases closed
  refused before _ _ _ after split := by cases before <;> cases split

theorem Agrees.tells {events : List CallEvent} {speaker after : Speaker τ}
    (agrees : Agrees events speaker) {event : CallEvent} (tells : speaker.Tells event after)
    (other : event.isStart = false)
    (terminated : after.desk.channel.terminated = true ↔
      speaker.desk.channel.terminated = true ∨ event = .closed) :
    Agrees (events ++ [event]) after := by
  have noted : CallEvent.note (CallEvent.records events) event =
      (CallEvent.records events).map (CallRecord.after event) := by
    cases event with
    | started => cases other
    | _ => rfl
  constructor
  case pending =>
    rw [CallEvent.records_concat, noted, CallRecord.pending_after, tells.pending, agrees.pending]
  case told =>
    rw [CallEvent.records_concat, noted, tells.completed, agrees.pending]
    exact (agrees.told.append_right _).trans (CallRecord.told_after event _).symm
  case started =>
    rw [tells.started, agrees.started]
    simp [CallEvent.starts, List.countP_append, other]
  case distinct =>
    have fewer : after.pending.Sublist speaker.pending := by
      unfold Speaker.pending CallTable.busyIds
      rw [tells.pending]
      exact List.filter_sublist.map _
    exact agrees.distinct.sublist fewer
  case terminated =>
    rw [terminated, agrees.terminated, List.mem_append, List.mem_singleton, eq_comm]
  case ended =>
    intro closed
    rw [tells.pending, List.filter_eq_nil_iff]
    intro call listed
    rcases List.mem_append.mp closed with before | now
    · rw [agrees.ended before] at listed
      cases listed
    · obtain rfl := List.mem_singleton.mp now
      simp [CallEvent.result?]
  case refused =>
    refine agrees.refused.concat ?_
    rintro id method callSite rfl
    cases other

/-- A call that is started is pending under an id that no pending call has. -/
theorem Agrees.enter {events : List CallEvent} {speaker : Speaker τ}
    (agrees : Agrees events speaker) (method : Method) (callSite : String)
    (room : speaker.desk.channel.calls.busyIds.length < UInt64.size)
    (isOpen : speaker.desk.channel.terminated = false) :
    Agrees (events ++
        [.started (some (speaker.desk.channel.calls.start method callSite speaker.started).1) method
          callSite])
      { speaker with
        started := speaker.started + 1
        desk := { speaker.desk with channel := { speaker.desk.channel with
          calls := (speaker.desk.channel.calls.start method callSite speaker.started).2 } } } := by
  have unclosed : .closed ∉ events := fun closed => by
    simp [agrees.terminated.mpr closed] at isOpen
  have length : (CallEvent.records events).length = speaker.started :=
    (CallEvent.length_records events).trans agrees.started.symm
  have fresh := speaker.desk.channel.calls.start_not_mem method callSite speaker.started room
  constructor
  case pending =>
    rw [CallEvent.records_concat, CallEvent.note, List.filterMap_append, ← agrees.pending, length]
    rfl
  case told =>
    rw [CallEvent.records_concat, CallEvent.note, List.filterMap_append]
    exact agrees.told.trans (List.append_nil _ ▸ .refl _)
  case started => simp [CallEvent.starts, List.countP_append, CallEvent.isStart, agrees.started]
  case distinct =>
    simp only [Speaker.pending, CallTable.busyIds, CallTable.start, List.map_append, List.map_cons,
      List.map_nil]
    refine List.nodup_append.mpr ⟨agrees.distinct, List.nodup_singleton _, ?_⟩
    intro busy listed new same clash
    rw [clash, List.mem_singleton.mp same] at listed
    exact fresh listed
  case terminated => simp [isOpen, unclosed]
  case ended => exact fun closed => absurd closed (by simp [unclosed])
  case refused =>
    refine agrees.refused.concat ?_
    rintro _ _ _ ⟨⟩
    simp [unclosed]

/-- A call that is started after the closing is told so at once. -/
theorem Agrees.refuse {events : List CallEvent} {speaker : Speaker τ}
    (agrees : Agrees events speaker) (method : Method) (callSite : String)
    (terminated : speaker.desk.channel.terminated = true) :
    Agrees (events ++ [.started none method callSite]) { speaker with
      started := speaker.started + 1
      completed := speaker.completed ++ [(speaker.started, .error .closed)] } := by
  have closed := agrees.terminated.mp terminated
  have length : (CallEvent.records events).length = speaker.started :=
    (CallEvent.length_records events).trans agrees.started.symm
  constructor
  case pending =>
    rw [CallEvent.records_concat, CallEvent.note, List.filterMap_append, ← agrees.pending]
    simp [CallRecord.pending?]
  case told =>
    rw [CallEvent.records_concat, CallEvent.note, List.filterMap_append, length]
    exact agrees.told.append_right _
  case started => simp [CallEvent.starts, List.countP_append, CallEvent.isStart, agrees.started]
  case distinct => exact agrees.distinct
  case terminated => simp [terminated, closed]
  case ended => exact fun _ => agrees.ended closed
  case refused =>
    refine agrees.refused.concat ?_
    rintro _ _ _ ⟨⟩
    simp [closed]

theorem Agrees.start {events : List CallEvent} {speaker : Speaker τ}
    (agrees : Agrees events speaker) (method : Method) (callSite : String)
    (room : speaker.desk.channel.calls.busyIds.length < UInt64.size) :
    Agrees (events ++ [.started (speaker.begin method callSite).1 method callSite])
      (speaker.begin method callSite).2 := by
  cases terminated : speaker.desk.channel.terminated with
  | true =>
    have refused := agrees.refuse method callSite terminated
    simpa [begin, Channel.startCall, terminated] using refused
  | false =>
    have entered := agrees.enter method callSite room terminated
    simpa [begin, Channel.startCall, terminated] using entered

theorem Agrees.aside {events : List CallEvent} {speaker after : Speaker τ}
    (agrees : Agrees events speaker) (desk : after.desk.standing = speaker.desk.standing)
    (started : after.started = speaker.started) (completed : after.completed = speaker.completed) :
    Agrees events after := by
  obtain ⟨calls, terminated⟩ := Prod.mk.inj desk
  exact
    { pending := by rw [calls, agrees.pending]
      told := completed ▸ agrees.told
      started := started.trans agrees.started
      distinct := by
        unfold Speaker.pending
        rw [calls]
        exact agrees.distinct
      terminated := terminated ▸ agrees.terminated
      ended := fun closed => by rw [calls, agrees.ended closed]
      refused := agrees.refused }

theorem Runs.agrees {events : List CallEvent} {speaker : Speaker τ} (runs : Runs events speaker) :
    Agrees events speaker := by
  induction runs with
  | new number mark singletons kept further => exact .new number mark singletons kept further
  | start _ method callSite room ih => exact ih.start method callSite room
  | @receive _ speaker _ message ih =>
    refine ih.tells (tells_receive speaker ih.distinct message) rfl ?_
    rw [channel_change]
    cases message <;> simp [Channel.receive, Channel.completeCall]
  | @undelivered _ speaker _ id error ih =>
    refine ih.tells (tells_completeCall speaker ih.distinct id _ fun _ => rfl) rfl ?_
    rw [Channel.callUndelivered, channel_change]
    simp [Channel.completeCall]
  | @close _ speaker _ ih =>
    refine ih.tells (tells_terminate speaker) rfl ?_
    rw [channel_change]
    simp [Channel.terminate]
  | aside _ desk started completed ih => exact ih.aside desk started completed

theorem Agrees.mem_pending {events : List CallEvent} {speaker : Speaker τ}
    (agrees : Agrees events speaker) {call : PendingCall} :
    call ∈ speaker.desk.channel.calls.pending ↔
      (CallEvent.records events)[call.caller]? = some (.pending call) := by
  have listed : call ∈ (CallEvent.records events).filterMap CallRecord.pending? ↔
      .pending call ∈ CallEvent.records events := by
    rw [List.mem_filterMap]
    constructor
    · rintro ⟨record, listed, same⟩
      cases record with
      | told => cases same
      | pending other => exact Option.some.inj same ▸ listed
    · exact fun listed => ⟨_, listed, rfl⟩
  rw [agrees.pending, listed, CallEvent.mem_records]
  rfl

theorem Agrees.mem_completed {events : List CallEvent} {speaker : Speaker τ}
    (agrees : Agrees events speaker) {caller : Ticket} {result : CallResult} :
    (caller, result) ∈ speaker.completed ↔
      (CallEvent.records events)[caller]? = some (.told caller result) := by
  have listed : (caller, result) ∈ (CallEvent.records events).filterMap CallRecord.told? ↔
      .told caller result ∈ CallEvent.records events := by
    rw [List.mem_filterMap]
    constructor
    · rintro ⟨record, listed, same⟩
      cases record with
      | pending => cases same
      | told other result =>
        obtain ⟨rfl, rfl⟩ := Prod.mk.inj (Option.some.inj same)
        exact listed
    · exact fun listed => ⟨_, listed, rfl⟩
  rw [agrees.told.mem_iff, listed, CallEvent.mem_records]
  rfl

/-! ## What callers are told -/

/-- What holds of the calls of a channel to which some events have happened. -/
structure Correlated (events : List CallEvent) (speaker : Speaker τ) : Prop where
  /-- No two pending calls have one id. -/
  distinct : speaker.pending.Nodup
  /-- No caller is told twice. -/
  once : (speaker.completed.map Prod.fst).Nodup
  /-- Of all calls that were started, each waits or was told. -/
  callers : (speaker.completed.map Prod.fst ++ speaker.callers).Perm
    (List.range (CallEvent.starts events))
  /-- A call waits, as it was entered, as long as nothing that happens concerns it. -/
  waits : ∀ before id method callSite after,
    events = before ++ .started (some id) method callSite :: after →
      let call := ⟨id, method, callSite, CallEvent.starts before⟩
      call ∈ speaker.desk.channel.calls.pending ↔ after.findSome? (CallEvent.result? call) = none
  /-- Its caller is told what the first event says that concerns it, and nothing else. -/
  told : ∀ before id method callSite after,
    events = before ++ .started (some id) method callSite :: after →
      let call := ⟨id, method, callSite, CallEvent.starts before⟩
      ∀ result, (call.caller, result) ∈ speaker.completed ↔
        after.findSome? (CallEvent.result? call) = some result
  /-- A call that is started before the closing is given an id, and no other. -/
  given : ∀ before id method callSite after,
    events = before ++ .started id method callSite :: after → (id = none ↔ .closed ∈ before)
  /-- A call that is started after the closing is told just that. -/
  late : ∀ before method callSite after,
    events = before ++ .started none method callSite :: after →
      ∀ result, (CallEvent.starts before, result) ∈ speaker.completed ↔ result = .error .closed
  /-- After the closing no call waits. -/
  ended : .closed ∈ events → speaker.desk.channel.calls.pending = []

/-- **Each caller is told once, by the first event that concerns its call**, whatever the peer
sends, whatever is not delivered and whenever the channel is closed. -/
theorem Runs.correlated {events : List CallEvent} {speaker : Speaker τ}
    (runs : Runs events speaker) : Correlated events speaker := by
  have agrees := runs.agrees
  have callers : (speaker.completed.map Prod.fst ++ speaker.callers).Perm
      (List.range (CallEvent.starts events)) := by
    rw [Speaker.callers, agrees.pending, ← CallEvent.caller_records]
    exact ((agrees.told.map Prod.fst).append_right _).trans (CallRecord.callers_perm _)
  constructor
  case distinct => exact agrees.distinct
  case once =>
    have nodup := callers.nodup_iff.mpr List.nodup_range
    exact (List.nodup_append.mp nodup).1
  case callers => exact callers
  case waits =>
    rintro before id method callSite after rfl call
    rw [agrees.mem_pending, CallEvent.getElem?_records, Option.some_inj]
    exact CallRecord.afterAll_eq_pending
  case told =>
    rintro before id method callSite after rfl call result
    rw [agrees.mem_completed, CallEvent.getElem?_records, Option.some_inj]
    exact CallRecord.afterAll_eq_told
  case given => exact agrees.refused
  case late =>
    rintro before method callSite after rfl result
    rw [agrees.mem_completed, CallEvent.getElem?_records_none]
    simp [eq_comm]
  case ended => exact agrees.ended

/-- A method without arguments that declares no errors. -/
def ping : Method := ⟨⟨"i", "m", []⟩, []⟩

/-- Three calls are started, and the second is answered before the first. -/
def crossed : Speaker Unit :=
  let fresh : Speaker Unit := .new (.new 0 (fun _ => 0) (.empty .byName)) () []
  let started := (((fresh.begin ping "one").2.begin ping "two").2.begin ping "three").2
  let second := started.change (started.desk.channel.receive (.reply 2 (.ok (.bool true))))
  second.change (second.desk.channel.receive (.reply 1 (.error (.new "k" "m"))))

/-- The second call is answered again and a call that there is not is answered too, the third call
is not delivered, and of two more calls one is started before the closing and one after it. -/
def departed : Speaker Unit :=
  let repeated := crossed.change (crossed.desk.channel.receive (.reply 2 (.ok (.bool false))))
  let stray := repeated.change (repeated.desk.channel.receive (.unreadable 9 "r"))
  let failed := stray.change (stray.desk.channel.callUndelivered 3 (.tooManyInFlight 1))
  let fourth := (failed.begin ping "four").2
  ((fourth.change fourth.desk.channel.terminate).begin ping "five").2

theorem runs_departed :
    Runs [.started (some 1) ping "one", .started (some 2) ping "two",
      .started (some 3) ping "three", .received (.reply 2 (.ok (.bool true))),
      .received (.reply 1 (.error (.new "k" "m"))), .received (.reply 2 (.ok (.bool false))),
      .received (.unreadable 9 "r"), .undelivered 3 (.tooManyInFlight 1),
      .started (some 4) ping "four", .closed, .started none ping "five"] departed := by
  have started := (((Runs.new 0 (fun _ => 0) (.empty .byName) () []).start ping "one"
    (by decide)).start ping "two" (by decide +kernel)).start ping "three" (by decide +kernel)
  have crossed : Runs _ crossed := (started.receive (.reply 2 (.ok (.bool true)))).receive
    (.reply 1 (.error (.new "k" "m")))
  have failed := ((crossed.receive (.reply 2 (.ok (.bool false)))).receive
    (.unreadable 9 "r")).undelivered 3 (.tooManyInFlight 1)
  exact ((failed.start ping "four" (by decide +kernel)).close).start ping "five"
    (by decide +kernel)

/-- Each caller is told what concerns its own call. -/
theorem correlated_departed :
    departed.desk.channel.calls.pending = [] ∧ departed.completed.length = 5 ∧
      (0, .error (.ofRemoteError ping "one" (.new "k" "m"))) ∈ departed.completed ∧
      (1, .ok (.bool true)) ∈ departed.completed ∧
      (2, .error (.ofPipeError (.tooManyInFlight 1))) ∈ departed.completed ∧
      (3, .error .closed) ∈ departed.completed ∧ (4, .error .closed) ∈ departed.completed := by
  have correlated := runs_departed.correlated
  refine ⟨correlated.ended (by simp), rfl, ?_, ?_, ?_, ?_, ?_⟩
  · exact (correlated.told [] 1 ping "one" _ rfl _).mpr rfl
  · exact (correlated.told [_] 2 ping "two" _ rfl _).mpr rfl
  · exact (correlated.told [_, _] 3 ping "three" _ rfl _).mpr rfl
  · exact (correlated.told [_, _, _, _, _, _, _, _] 4 ping "four" _ rfl _).mpr rfl
  · exact (correlated.late [_, _, _, _, _, _, _, _, _, _] ping "five" _ rfl _).mpr rfl

end Speaker

/-! ## The sides of a dialogue -/

namespace Dialogue

variable {τ : Type} {dialogue : Dialogue τ}

/-- Both channels run. -/
def Running (dialogue : Dialogue τ) : Prop :=
  ∀ side, ∃ events, Speaker.Runs events (dialogue.speaker side)

theorem Running.set (running : dialogue.Running) {side : Side} {speaker : Speaker τ}
    (runs : ∃ events, Speaker.Runs events speaker) :
    (dialogue.setSpeaker side speaker).Running := by
  intro other
  by_cases same : other = side
  · subst same
    simpa only [setSpeaker, Function.update_self] using runs
  · simpa only [setSpeaker, Function.update_of_ne same] using running other

/-- Something is done at one side that concerns no call of its channel. -/
theorem Running.aside (running : dialogue.Running) {side : Side} {after : Speaker τ}
    (desk : after.desk.standing = (dialogue.speaker side).desk.standing)
    (started : after.started = (dialogue.speaker side).started)
    (completed : after.completed = (dialogue.speaker side).completed) :
    (dialogue.setSpeaker side after).Running := by
  obtain ⟨events, runs⟩ := running side
  exact running.set ⟨events, runs.aside desk started completed⟩

theorem Running.post (running : dialogue.Running) (side : Side) (message : ChannelMessage) :
    (dialogue.post side message).Running := by
  have kept := (Desk.keeps_chain (dialogue.speaker side).further).encode message
    (dialogue.speaker side).desk
  unfold Dialogue.post
  exact (show (dialogue.setPair _).Running from running).aside kept rfl rfl

theorem Running.answer (running : dialogue.Running) (side : Side) (id : UInt64)
    (outcome : Except RemoteError Value) : (dialogue.answer side id outcome).Running := by
  unfold Dialogue.answer
  split
  · exact running
  · exact running.post side _

theorem Running.start (running : dialogue.Running) (side : Side) (instanceId : String)
    (method : Method) (values : List Value) (callSite : String)
    (room : (dialogue.speaker side).desk.channel.calls.busyIds.length < UInt64.size) :
    (dialogue.start side instanceId method values callSite).Running := by
  obtain ⟨events, runs⟩ := running side
  have begun := runs.start method callSite room
  unfold Speaker.begin at begun
  unfold Dialogue.start
  cases entered : (dialogue.speaker side).desk.channel.startCall method callSite
      (dialogue.speaker side).started with
  | none =>
    simp only [entered] at begun ⊢
    exact running.set ⟨_, begun⟩
  | some entry =>
    simp only [entered] at begun ⊢
    exact (running.set ⟨_, begun⟩).post side _

theorem Running.follow (running : dialogue.Running) (side : Side) (aftermath : Channel.Aftermath) :
    (dialogue.follow side aftermath).Running := by
  cases aftermath with
  | nothing => exact running
  | fail id error =>
    obtain ⟨events, runs⟩ := running side
    exact running.set ⟨_, runs.undelivered id error⟩
  | replace id reason => exact running.answer side id _
  | giveUp id error => exact running.aside rfl rfl rfl

theorem Running.step {stream : StreamId} (running : dialogue.Running) {after : Dialogue τ}
    (step : Step stream dialogue after) : after.Running := by
  cases step with
  | attach | arrive => exact running
  | take side =>
    unfold Dialogue.take
    split
    · exact running
    · obtain ⟨events, runs⟩ := running side
      obtain ⟨later, heard⟩ := runs.hear _
      exact (show (dialogue.setPair _).Running from running).set ⟨_, heard⟩
  | conclude side =>
    unfold Dialogue.conclude
    dsimp only
    split
    · exact running
    · exact (show (dialogue.setPair _).Running from running).aside rfl rfl rfl
  | start side instanceId method values callSite room =>
    exact running.start side instanceId method values callSite room
  | finish side place outcome =>
    unfold Dialogue.finish
    dsimp only
    split
    · exact running
    · have finished : (dialogue.setSpeaker side ((dialogue.speaker side).finish place)).Running :=
        running.aside rfl rfl rfl
      exact finished.answer side _ outcome
  | settle side place =>
    unfold Dialogue.settle
    dsimp only
    split
    · exact running
    · split
      · exact running
      · have dismissed :
            (dialogue.setSpeaker side ((dialogue.speaker side).dismiss place)).Running :=
          running.aside rfl rfl rfl
        exact dismissed.follow side _
  | work side desk aside => exact running.aside aside rfl rfl

/-- The channels of every dialogue run, and so their callers are told what concerns them. -/
theorem Reachable.running {opening : Opening τ} (reachable : Reachable opening dialogue) :
    dialogue.Running := by
  induction reachable with
  | refl =>
    intro side
    exact ⟨[], .new (opening.number side) (opening.mark side) (opening.singletons side)
      (opening.kept side) (opening.further side)⟩
  | tail _ step ih => exact ih.step step

end Dialogue

end Courier
