import Courier.Proofs.Numbering
import Courier.Proofs.Pipe.Independence
import Courier.Settings.Basic

/-!
# Ids of messages without an answer

A message is sent under the first id, from the one after the last, that no message without
an answer has.  The search for it goes round in the cycle of ids and has no bound of its
own.  It ends because the number of messages without an answer is limited far below the
number of ids, whatever the settings ask for: among the ids of one more probe than there
are such messages one is free (`Exchange.allocated_of_enqueue`).

So no two messages without an answer ever have the same id, and an id that is given out
again has been answered for good in the meantime (`Exchange.enqueue_distinct`).
-/

namespace Courier

set_option autoImplicit false

/-- Answers leave of every message that they do not settle everything but its body. -/
theorem Answer.sublist_settleAll {α : Type} (outbound : List Outbound) (answers : List Answer)
    (part : Outbound → α) (bodiless : ∀ entry, part { entry with body := none } = part entry) :
    ((settleAll outbound answers).map part).Sublist (outbound.map part) := by
  have same : (part ∘ fun entry : Outbound =>
      if entry.id ∈ answers.map Answer.id then { entry with body := none } else entry) = part := by
    funext entry
    by_cases named : entry.id ∈ answers.map Answer.id
    · exact (congrArg part (if_pos named)).trans (bodiless entry)
    · exact congrArg part (if_neg named)
  rw [settleAll_eq, List.map_map, same]
  exact List.filter_sublist.map part

namespace Exchange

/-! ## One message -/

/-- The counters of the messages without an answer are all below the next one, and each is related
to those behind it. -/
structure Numbered (related : Nat → Nat → Prop) (exchange : Exchange) : Prop where
  pairwise : (exchange.outbound.map Outbound.sequence).Pairwise related
  past : ∀ entry ∈ exchange.outbound, entry.sequence < exchange.sent

/-- The messages without an answer were sent at different times, all before now. -/
def Sequenced (exchange : Exchange) : Prop := exchange.Numbered (· ≠ ·)

/-- What entering a message under an id does. -/
structure Allocated (before : Exchange) (body : Bytes) (ticket : Ticket) (id : MessageId)
    (after : Exchange) : Prop where
  /-- The search for the id ends, after one probe more than there are busy ids at the latest. -/
  probes : ∃ probes ≤ before.outbound.length + 1,
    Numbering.Probes MessageId.next before.busyIds before.nextId probes id
  free : id ∉ before.busyIds
  /-- The message comes behind all others, and these stay as they are. -/
  outbound : after.outbound = before.outbound ++ [⟨id, before.sent, some body, ticket⟩]
  inbound : after.inbound = before.inbound
  nextId : after.nextId = id.next
  sent : after.sent = before.sent + 1

variable {exchange after : Exchange} {body : Bytes} {ticket : Ticket} {limit : Nat} {id : MessageId}

/-- As long as there are more ids than messages without an answer, a message gets one. -/
theorem allocated_of_enqueue (few : exchange.outbound.length < 0x1000000)
    (entered : exchange.enqueue body ticket limit = .ok (id, after)) :
    Allocated exchange body ticket id after := by
  have count : exchange.busyIds.length = exchange.outbound.length := List.length_map _
  have free := MessageId.firstFree_not_mem (count ▸ few) exchange.nextId
  obtain ⟨probes, bound, search⟩ := Numbering.exists_probes free
  rcases exchange.enqueue_cases body ticket limit with ⟨full, refused⟩ | ⟨room, -⟩
  · cases refused.symm.trans entered
  · rw [enqueue, if_neg (Nat.not_le_of_lt room)] at entered
    cases entered
    exact ⟨⟨probes, count ▸ bound, search⟩, free, rfl, rfl, rfl, rfl⟩

/-- So it does under every limit that a pipe can have. -/
theorem allocated_of_limit {settings : PipeSettings}
    (entered : exchange.enqueue body ticket settings.inFlightLimit = .ok (id, after)) :
    Allocated exchange body ticket id after := by
  refine allocated_of_enqueue ?_ entered
  rcases exchange.enqueue_cases body ticket settings.inFlightLimit with ⟨full, refused⟩ | ⟨room, -⟩
  · cases refused.symm.trans entered
  · have limit := settings.inFlightLimit_le
    simp only [PipeSettings.inFlightCeiling] at limit
    omega

namespace Allocated

variable (allocated : Allocated exchange body ticket id after)

include allocated

theorem busyIds : after.busyIds = exchange.busyIds ++ [id] := by
  rw [Exchange.busyIds, allocated.outbound, List.map_append]
  rfl

theorem distinct (distinct : exchange.busyIds.Nodup) : after.busyIds.Nodup := by
  rw [allocated.busyIds, ← List.concat_eq_append]
  exact distinct.concat allocated.free

end Allocated

namespace Numbered

variable {related : Nat → Nat → Prop} (numbered : exchange.Numbered related)

include numbered

/-- The counter of a message that is sent is larger than all others. -/
theorem enter (ascends : ∀ one other, one < other → related one other)
    (outbound : after.outbound = exchange.outbound ++ [⟨id, exchange.sent, some body, ticket⟩])
    (sent : after.sent = exchange.sent + 1) : after.Numbered related where
  pairwise := by
    rw [outbound, List.map_append, List.pairwise_append]
    refine ⟨numbered.pairwise, List.pairwise_singleton _ _, fun one listed last new => ?_⟩
    obtain ⟨entry, earlier, rfl⟩ := List.mem_map.mp listed
    cases List.mem_singleton.mp new
    exact ascends _ _ (numbered.past entry earlier)
  past entry listed := by
    rw [outbound] at listed
    rw [sent]
    rcases List.mem_append.mp listed with earlier | new
    · exact Nat.lt_succ_of_lt (numbered.past entry earlier)
    · cases List.mem_singleton.mp new
      exact Nat.lt_succ_self _

theorem fewer (left : (after.outbound.map Outbound.sequence).Sublist
      (exchange.outbound.map Outbound.sequence))
    (sent : after.sent = exchange.sent) : after.Numbered related where
  pairwise := numbered.pairwise.sublist left
  past entry listed := by
    obtain ⟨earlier, before, same⟩ := List.mem_map.mp (left.subset (List.mem_map_of_mem listed))
    rw [sent, ← same]
    exact numbered.past earlier before

end Numbered

/-- A message that is allocated an id is sent at a time of its own. -/
theorem Allocated.sequenced (allocated : Allocated exchange body ticket id after)
    (sequenced : exchange.Sequenced) : after.Sequenced :=
  sequenced.enter (fun _ _ => Nat.ne_of_lt) allocated.outbound allocated.sent

end Exchange

/-! ## Any number of messages -/

/-- The limit that a message is sent with is one that a pipe can have. -/
def ExchangeOperation.WithinLimit : ExchangeOperation → Prop
  | .enqueue _ _ limit => ∃ settings : PipeSettings, limit = settings.inFlightLimit
  | _ => True

namespace ExchangeEvent

variable {event : ExchangeEvent} {id : MessageId} {ticket : Ticket}

theorem exists_of_accepted? (accepted : event.accepted? = some (id, ticket)) :
    ∃ body limit, event.operation = .enqueue body ticket limit ∧
      event.before.enqueue body ticket limit = .ok (id, event.after) := by
  obtain ⟨exchange, operation⟩ := event
  cases operation with
  | enqueue body waiting limit =>
    simp only [accepted?] at accepted
    split at accepted
    · rename_i given after entered
      cases accepted
      exact ⟨body, limit, rfl, by rw [entered, ExchangeEvent.after, Exchange.operate, entered]⟩
    · cases accepted
  | _ => cases accepted

/-- A message that is accepted is allocated an id. -/
theorem allocated_of_accepted? (within : event.operation.WithinLimit)
    (accepted : event.accepted? = some (id, ticket)) :
    ∃ body, event.before.Allocated body ticket id event.after := by
  obtain ⟨body, limit, operation, entered⟩ := exists_of_accepted? accepted
  rw [operation] at within
  obtain ⟨settings, rfl⟩ := within
  exact ⟨body, Exchange.allocated_of_limit entered⟩

/-- What an event that sends nothing leaves in the outbound table was there before, and in the same
order; at most its body is gone. -/
structure Quiet (event : ExchangeEvent) : Prop where
  accepted : event.accepted? = none
  sent : event.after.sent = event.before.sent
  outbound : ∀ {α : Type} (part : Outbound → α),
    (∀ entry, part { entry with body := none } = part entry) →
      (event.after.outbound.map part).Sublist (event.before.outbound.map part)

/-- An event enters a message, whatever the limit, or is quiet. -/
theorem enters_or_quiet (event : ExchangeEvent) :
    (∃ body ticket id, event.accepted? = some (id, ticket) ∧
      event.after.outbound =
        event.before.outbound ++ [⟨id, event.before.sent, some body, ticket⟩] ∧
      event.after.sent = event.before.sent + 1) ∨ event.Quiet := by
  obtain ⟨exchange, operation⟩ := event
  cases operation with
  | enqueue body ticket limit =>
    by_cases full : limit ≤ exchange.outbound.length
    · have refused : exchange.enqueue body ticket limit = .error (.tooManyInFlight limit) :=
        if_pos full
      have same : exchange.operate (.enqueue body ticket limit) = exchange := by
        rw [Exchange.operate, refused]
      refine .inr ⟨by simp only [accepted?, refused], congrArg Exchange.sent same, fun part _ => ?_⟩
      rw [ExchangeEvent.after, same]
    · have entered : exchange.enqueue body ticket limit = .ok _ := if_neg full
      refine .inl ⟨body, ticket,
        Numbering.firstFree MessageId.next exchange.busyIds exchange.nextId, ?_, ?_, ?_⟩
      · simp only [accepted?, entered]
      · rw [ExchangeEvent.after, Exchange.operate, entered]
      · rw [ExchangeEvent.after, Exchange.operate, entered]
  | handle packet =>
    have handled := exchange.handle_handled packet
    refine .inr ⟨rfl, handled.sent, fun part bodiless => ?_⟩
    rw [after_of_handle rfl, handled.outbound]
    exact Answer.sublist_settleAll _ _ part bodiless
  | conclude id verdict =>
    refine .inr ⟨rfl, (exchange.conclude_counters id verdict).1, fun part _ => ?_⟩
    rw [ExchangeEvent.after, Exchange.operate, exchange.outbound_conclude]
  | resync => exact .inr ⟨rfl, rfl, fun _ _ => .refl _⟩

/-- The counters stay as they are related, if larger ones may follow. -/
theorem numbered_after (event : ExchangeEvent) {related : Nat → Nat → Prop}
    (ascends : ∀ one other, one < other → related one other)
    (numbered : event.before.Numbered related) : event.after.Numbered related := by
  rcases event.enters_or_quiet with ⟨_, _, _, -, outbound, sent⟩ | quiet
  · exact numbered.enter ascends outbound sent
  · exact numbered.fewer (quiet.outbound Outbound.sequence fun _ => rfl) quiet.sent

/-- An event keeps the ids of messages without an answer distinct. -/
theorem distinct_after (within : event.operation.WithinLimit)
    (distinct : event.before.busyIds.Nodup) : event.after.busyIds.Nodup := by
  rcases event.enters_or_quiet with ⟨_, _, _, accepted, -⟩ | quiet
  · obtain ⟨_, allocated⟩ := allocated_of_accepted? within accepted
    exact allocated.distinct distinct
  · exact distinct.sublist (quiet.outbound Outbound.id fun _ => rfl)

end ExchangeEvent

/-- What holds after a history in which messages are sent under the limits of a pipe. -/
structure Unshared (history : List ExchangeEvent) (last : Exchange) : Prop where
  /-- No two messages without an answer have the same id. -/
  distinct : last.busyIds.Nodup
  /-- The id that a message gets is that of no message without an answer. -/
  free : ∀ event ∈ history, ∀ id ticket, event.accepted? = some (id, ticket) →
    id ∉ event.before.busyIds
  /-- Between two messages of the same id the first one is answered for good. -/
  settled : ∀ id ticket ticket' first between second, first :: (between ++ [second]) <:+: history →
    first.accepted? = some (id, ticket) → second.accepted? = some (id, ticket') →
    ∃ event ∈ between, ∃ packet, event.operation = .handle packet ∧ id ∈ packet.finals

namespace Exchange

variable {exchange : Exchange} {operations : List ExchangeOperation}

theorem mem_of_mem_history {event : ExchangeEvent}
    (happened : event ∈ exchange.history operations) : event.operation ∈ operations := by
  induction operations generalizing exchange with
  | nil => cases happened
  | cons operation operations ih =>
    rcases List.mem_cons.mp happened with rfl | later
    · exact List.mem_cons_self
    · exact List.mem_cons_of_mem _ (ih later)

/-- What every event within the limits of a pipe keeps holds after any number of them. -/
theorem operateAll_within (Holds : Exchange → Prop)
    (step : ∀ event : ExchangeEvent, event.operation.WithinLimit → Holds event.before →
      Holds event.after)
    (start : Holds exchange) (within : ∀ operation ∈ operations, operation.WithinLimit) :
    Holds (exchange.operateAll operations) := by
  induction operations generalizing exchange with
  | nil => exact start
  | cons operation operations ih =>
    obtain ⟨here, later⟩ := List.forall_mem_cons.mp within
    exact ih (step ⟨exchange, operation⟩ here start) later

theorem Numbered.operateAll {related : Nat → Nat → Prop} (numbered : exchange.Numbered related)
    (ascends : ∀ one other, one < other → related one other)
    (operations : List ExchangeOperation) : (exchange.operateAll operations).Numbered related :=
  operateAll_invariant (Numbered related)
    (fun exchange operation => ExchangeEvent.numbered_after ⟨exchange, operation⟩ ascends)
    numbered operations

theorem busyIds_eq (exchange : Exchange) : exchange.busyIds = exchange.claims.map Prod.fst := by
  rw [claims, List.map_map]
  rfl

/-- A message that has no answer before and one after an event is answered for good by it. -/
theorem settles_of_leaves {event : ExchangeEvent} {id : MessageId}
    (busy : id ∈ event.before.busyIds) (left : id ∉ event.after.busyIds) :
    ∃ packet, event.operation = .handle packet ∧ id ∈ packet.finals := by
  cases event.moves with
  | refuse body ticket limit operation full handed accepted refused after reaction =>
    exact absurd (after ▸ busy) left
  | enter body ticket limit other operation room handed accepted refused after reaction =>
    rw [busyIds, after, List.map_append] at left
    exact absurd (List.mem_append_left _ busy) left
  | rest handed accepted refused after reaction =>
    rw [busyIds, after] at left
    exact absurd busy left
  | handle packet operation handed accepted refused after reaction =>
    refine ⟨packet, operation, ?_⟩
    by_contra unanswered
    rw [busyIds_eq] at busy
    rw [after, busyIds_eq, claims_handle] at left
    obtain ⟨claim, listed, rfl⟩ := List.mem_map.mp busy
    exact left (List.mem_map_of_mem (List.mem_filter.mpr ⟨listed, decide_eq_true unanswered⟩))

/-- A message that has no answer at the beginning and one at the end was answered for good. -/
theorem exists_settles {id : MessageId} (busy : id ∈ exchange.busyIds)
    (left : id ∉ (exchange.operateAll operations).busyIds) :
    ∃ event ∈ exchange.history operations,
      ∃ packet, event.operation = .handle packet ∧ id ∈ packet.finals := by
  obtain ⟨early, event, rest, cut, before, after, -⟩ :=
    exists_change (fun exchange => id ∈ exchange.busyIds) busy left
  exact ⟨event, by simp [cut], settles_of_leaves before after⟩

theorem unshared_history (distinct : exchange.busyIds.Nodup)
    (within : ∀ operation ∈ operations, operation.WithinLimit) :
    Unshared (exchange.history operations) (exchange.operateAll operations) where
  distinct := operateAll_within (fun exchange => exchange.busyIds.Nodup)
    (fun _ => ExchangeEvent.distinct_after) distinct within
  free event happened id ticket accepted := by
    obtain ⟨_, allocated⟩ :=
      ExchangeEvent.allocated_of_accepted? (within _ (mem_of_mem_history happened)) accepted
    exact allocated.free
  settled id ticket ticket' first between second stretch accepted again := by
    have happened (event : ExchangeEvent) (listed : event ∈ first :: (between ++ [second])) :
        event.operation.WithinLimit := within _ (mem_of_mem_history (stretch.subset listed))
    obtain ⟨_, allocated⟩ :=
      ExchangeEvent.allocated_of_accepted? (happened first (by simp)) accepted
    obtain ⟨_, fresh⟩ := ExchangeEvent.allocated_of_accepted? (happened second (by simp)) again
    obtain ⟨earlier, meantime, -, rfl, last⟩ := exists_of_stretch stretch
    refine exists_settles ?_ (last ▸ fresh.free)
    rw [allocated.busyIds]
    exact List.mem_append_right _ List.mem_cons_self

/-- **An id is given out again only after the message that had it was answered for good.** -/
theorem enqueue_distinct (exchange : Exchange) (distinct : exchange.busyIds.Nodup) :
    (∀ (settings : PipeSettings) body ticket, exchange.outbound.length < settings.inFlightLimit →
      ∃ id after, exchange.enqueue body ticket settings.inFlightLimit = .ok (id, after) ∧
        exchange.Allocated body ticket id after ∧ after.busyIds.Nodup ∧
        (exchange.Sequenced → after.Sequenced)) ∧
    ∀ operations : List ExchangeOperation, (∀ operation ∈ operations, operation.WithinLimit) →
      Unshared (exchange.history operations) (exchange.operateAll operations) ∧
        (exchange.Sequenced → (exchange.operateAll operations).Sequenced) := by
  refine ⟨fun settings body ticket room => ?_, fun operations within => ⟨?_, fun sequenced => ?_⟩⟩
  · rcases exchange.enqueue_cases body ticket settings.inFlightLimit with
      ⟨full, -⟩ | ⟨_, id, after, entered, -⟩
    · exact absurd full (Nat.not_le_of_lt room)
    · have allocated := allocated_of_limit entered
      exact ⟨id, after, entered, allocated, allocated.distinct distinct, allocated.sequenced⟩
  · exact unshared_history distinct within
  · exact sequenced.operateAll (fun _ _ => Nat.ne_of_lt) operations

/-- Three messages have no answer; the search for an id begins at one that is taken, the last of the
cycle, and the one behind it is taken too. -/
def wrapping : Exchange :=
  ⟨.ofNat 0xFFFFFF, 7,
    [⟨.ofNat 5, 2, none, 10⟩, ⟨.ofNat 0xFFFFFF, 5, some [1], 11⟩, ⟨.ofNat 0, 6, some [2], 12⟩], []⟩

/-- No more than four messages may be without an answer. -/
def narrow : PipeSettings := ⟨4, 1024, true⟩

/-- A message is sent, one more is refused, and the last id of the cycle is answered for. -/
def roundabout : List ExchangeOperation :=
  [.enqueue [3] 13 narrow.inFlightLimit, .enqueue [4] 14 narrow.inFlightLimit,
    .handle (.ackDelivered (.ofNat 0xFFFFFF)), .enqueue [5] 15 narrow.inFlightLimit]

/-- The search comes to the beginning of the cycle, and finds the second id there free. -/
theorem enqueue_distinct_wrapping :
    wrapping.busyIds.Nodup ∧ wrapping.outbound.length < narrow.inFlightLimit ∧
      (∃ after, wrapping.enqueue [3] 13 narrow.inFlightLimit = .ok (.ofNat 1, after) ∧
        wrapping.Allocated [3] 13 (.ofNat 1) after) ∧
      (∀ operation ∈ roundabout, operation.WithinLimit) ∧
      (wrapping.operateAll roundabout).busyIds = [.ofNat 5, .ofNat 0, .ofNat 1, .ofNat 2] ∧
      Unshared (wrapping.history roundabout) (wrapping.operateAll roundabout) := by
  have distinct : wrapping.busyIds.Nodup := by decide
  have room : wrapping.outbound.length < narrow.inFlightLimit := by decide
  have within : ∀ operation ∈ roundabout, operation.WithinLimit := by
    intro operation listed
    simp only [roundabout, List.mem_cons, List.not_mem_nil, or_false] at listed
    rcases listed with rfl | rfl | rfl | rfl
    · exact ⟨narrow, rfl⟩
    · exact ⟨narrow, rfl⟩
    · trivial
    · exact ⟨narrow, rfl⟩
  obtain ⟨step, run⟩ := wrapping.enqueue_distinct distinct
  obtain ⟨id, after, entered, allocated, -⟩ := step narrow [3] 13 room
  have first : id = .ofNat 1 := by
    cases entered
    rfl
  exact ⟨distinct, room, ⟨after, first ▸ entered, first ▸ allocated⟩, within, by decide,
    (run roundabout within).1⟩

end Exchange

end Courier
