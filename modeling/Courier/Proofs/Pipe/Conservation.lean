import Courier.Proofs.Pipe.History

/-!
# Where the tickets are

Whoever sends a message hands in a ticket and waits.  Whatever the peer answers, no ticket
is lost and none is used twice: each is still in the outbound table, or has been resolved,
or was refused because too many messages were in flight.  `ExchangeEvent.perm_places` says
for one event which tickets it moves, and from it the accounts balance at the end of every
history (`Exchange.conserved_history`).

Only a final answer moves a ticket out of the table: an acknowledgement that the message
was delivered, alone or as an entry of a sync, or a refusal.  Every one of them is answered
by a release, whether the message is known or not.
-/

namespace Courier

set_option autoImplicit false

/-! ## Final answers -/

namespace Packet

/-- The messages that a packet answers for good, in order. -/
def finals : Packet → List MessageId
  | ackDelivered id => [id]
  | nack id _ => [id]
  | sync acks => acks.filterMap fun ack => if ack.state = .delivered then some ack.id else none
  | _ => []

/-- The message that a packet releases. -/
def released? : Packet → Option MessageId
  | ackOfNack id => some id
  | _ => none

end Packet

namespace Packet

theorem finals_eq (packet : Packet) :
    packet.finals = (packet.answers.filterMap Answer.settled?).map Prod.fst := by
  cases packet with
  | sync acks =>
    rw [finals, answers, List.filterMap_map, List.map_filterMap]
    refine List.filterMap_congr fun ack _ => ?_
    obtain ⟨state, id⟩ := ack
    cases state <;> rfl
  | _ => rfl

theorem filterMap_released? (packets : List Packet) :
    packets.filterMap released? = (packets.flatMap notices).filterMap Notice.released? := by
  induction packets with
  | nil => rfl
  | cons packet packets ih =>
    rw [List.flatMap_cons, List.filterMap_append, ← ih]
    cases packet <;> rfl

end Packet

theorem Answer.filterMap_reply (answers : List Answer) :
    (answers.flatMap reply).filterMap Notice.released? =
      (answers.filterMap settled?).map Prod.fst := by
  induction answers with
  | nil => rfl
  | cons answer answers ih =>
    rw [List.flatMap_cons, List.filterMap_append, ih]
    cases answer <;> rfl

/-! ## Tickets of the outbound table -/

/-- A ticket, and the id under which its message was sent. -/
def Outbound.claim (entry : Outbound) : MessageId × Ticket := (entry.id, entry.ticket)

namespace Answer

variable (outbound : List Outbound)

theorem map_claim_settle (answer : Answer) :
    (answer.settle outbound).map Outbound.claim =
      (outbound.map Outbound.claim).filter fun claim =>
        some claim.1 ≠ answer.settled?.map Prod.fst := by
  cases answer with
  | stored id =>
    rw [List.filter_eq_self.mpr (by simp [settled?])]
    simp only [settle, List.map_map]
    refine List.map_congr_left fun entry _ => ?_
    by_cases same : entry.id = id <;> simp [same, Outbound.claim]
  | settled id verdict =>
    simp only [settle, List.filter_map]
    congr 1
    exact List.filter_congr fun entry _ => decide_eq_decide.mpr (by simp [Outbound.claim, settled?])

/-- What is settled is gone, and all the rest is still there in its order. -/
theorem map_claim_settleAll (answers : List Answer) :
    (settleAll outbound answers).map Outbound.claim =
      (outbound.map Outbound.claim).filter fun claim =>
        claim.1 ∉ (answers.filterMap settled?).map Prod.fst := by
  induction answers generalizing outbound with
  | nil => simp [settleAll]
  | cons answer answers ih =>
    rw [settleAll, List.foldl_cons, ← settleAll, ih, map_claim_settle, List.filter_filter]
    refine List.filter_congr fun claim _ => ?_
    cases answer with
    | stored id => simp [settled?]
    | settled id verdict =>
      have more : (settled id verdict :: answers).filterMap settled? =
          (id, verdict) :: answers.filterMap settled? := rfl
      have final : (settled id verdict).settled?.map Prod.fst = some id := rfl
      simp only [more, final, List.map_cons, List.mem_cons, not_or, ne_eq, Option.some.injEq,
        Bool.decide_and, Bool.and_comm]

/-- An answer takes tickets from the table only to resolve them. -/
theorem perm_settle (answer : Answer) :
    (outbound.map Outbound.ticket).Perm
      ((answer.settle outbound).map Outbound.ticket ++ (answer.reports outbound).map Prod.fst) := by
  cases answer with
  | stored id =>
    have same : (outbound.map fun entry =>
        if entry.id = id then { entry with body := none } else entry).map Outbound.ticket =
        outbound.map Outbound.ticket := by
      rw [List.map_map]
      refine List.map_congr_left fun entry _ => ?_
      by_cases here : entry.id = id <;> simp [here]
    simp [settle, reports, same]
  | settled id verdict =>
    have parted := (List.filter_append_perm (fun entry : Outbound => decide (entry.id = id))
      outbound).map Outbound.ticket
    rw [List.map_append] at parted
    have told : (reports outbound (settled id verdict)).map Prod.fst =
        (outbound.filter fun entry => decide (entry.id = id)).map Outbound.ticket := by
      rw [reports, List.map_map]
      rfl
    rw [told]
    simpa [settle] using (List.perm_append_comm.trans parted).symm

theorem perm_settleAll (answers : List Answer) :
    (outbound.map Outbound.ticket).Perm
      ((settleAll outbound answers).map Outbound.ticket ++
        (reportsAll outbound answers).map Prod.fst) := by
  induction answers generalizing outbound with
  | nil => simp [settleAll, reportsAll]
  | cons answer answers ih =>
    have first := perm_settle outbound answer
    have rest := (ih (answer.settle outbound)).append_right
      ((answer.reports outbound).map Prod.fst)
    rw [List.append_assoc] at rest
    rw [reportsAll, List.map_append]
    exact (first.trans rest).trans (List.perm_append_comm.append_left _)

/-- What is reported is reported of a message in the table that is settled in this way. -/
theorem exists_of_mem_reportsAll {answers : List Answer} {ticket : Ticket} {outcome : Outcome}
    (reported : (ticket, outcome) ∈ reportsAll outbound answers) :
    ∃ id verdict, settled id verdict ∈ answers ∧ (id, ticket) ∈ outbound.map Outbound.claim ∧
      outcome = id.outcome verdict := by
  induction answers generalizing outbound with
  | nil => cases reported
  | cons answer answers ih =>
    rcases List.mem_append.mp reported with now | later
    · cases answer with
      | stored id => cases now
      | settled id verdict =>
        obtain ⟨entry, chosen, told⟩ := List.mem_map.mp now
        obtain ⟨listed, same⟩ := List.mem_filter.mp chosen
        obtain rfl := of_decide_eq_true same
        cases told
        exact ⟨entry.id, verdict, List.mem_cons_self, List.mem_map.mpr ⟨entry, listed, rfl⟩, rfl⟩
    · obtain ⟨id, verdict, among, claimed, told⟩ := ih _ later
      rw [map_claim_settle] at claimed
      exact ⟨id, verdict, List.mem_cons_of_mem _ among, List.mem_of_mem_filter claimed, told⟩

end Answer

/-! ## What one event moves -/

namespace Exchange

/-- The tickets without an outcome, each with the id of its message. -/
def claims (exchange : Exchange) : List (MessageId × Ticket) :=
  exchange.outbound.map Outbound.claim

/-- The tickets without an outcome. -/
def tickets (exchange : Exchange) : List Ticket := exchange.outbound.map Outbound.ticket

variable (exchange : Exchange)

@[simp] theorem length_tickets : exchange.tickets.length = exchange.outbound.length :=
  List.length_map _

theorem enqueue_cases (body : Bytes) (ticket : Ticket) (limit : Nat) :
    (limit ≤ exchange.outbound.length ∧
      exchange.enqueue body ticket limit = .error (.tooManyInFlight limit)) ∨
    (exchange.outbound.length < limit ∧ ∃ id after,
      exchange.enqueue body ticket limit = .ok (id, after) ∧
        after.outbound = exchange.outbound ++ [⟨id, exchange.sent, some body, ticket⟩]) := by
  by_cases full : limit ≤ exchange.outbound.length
  · exact .inl ⟨full, if_pos full⟩
  · exact .inr ⟨Nat.lt_of_not_le full, _, _, if_neg full, rfl⟩

/-- Handling a packet leaves the tickets that it does not answer for good. -/
theorem claims_handle (packet : Packet) :
    (exchange.handle packet).2.claims =
      exchange.claims.filter fun claim => claim.1 ∉ packet.finals := by
  rw [claims, (exchange.handle_handled packet).outbound, Answer.map_claim_settleAll,
    packet.finals_eq]
  rfl

theorem perm_handle (packet : Packet) :
    exchange.tickets.Perm
      ((exchange.handle packet).2.tickets ++ (exchange.handle packet).1.outcomes.map Prod.fst) := by
  have handled := exchange.handle_handled packet
  rw [tickets, tickets, handled.outbound, handled.outcomes]
  exact Answer.perm_settleAll exchange.outbound packet.answers

/-- Every final answer is answered by one release, in order. -/
theorem released_handle (packet : Packet) :
    (exchange.handle packet).1.answers.filterMap Packet.released? = packet.finals := by
  rw [Packet.filterMap_released?, (exchange.handle_handled packet).released,
    Answer.filterMap_reply, packet.finals_eq]

theorem outbound_conclude (id : MessageId) (verdict : Except String Unit) :
    (exchange.conclude id verdict).2.outbound = exchange.outbound := by
  unfold conclude
  split <;> rfl

end Exchange

namespace ExchangeEvent

/-- The ticket that is handed in with a message. -/
def ticket? (event : ExchangeEvent) : Option Ticket :=
  match event.operation with
  | .enqueue _ ticket _ => some ticket
  | _ => none

/-- The ticket that is accepted with a message, and the id of the message. -/
def accepted? (event : ExchangeEvent) : Option (MessageId × Ticket) :=
  match event.operation with
  | .enqueue body ticket limit =>
    match event.before.enqueue body ticket limit with
    | .ok (id, _) => some (id, ticket)
    | .error _ => none
  | _ => none

/-- The ticket that is given back with a message that is not accepted, and why. -/
def refused? (event : ExchangeEvent) : Option (Ticket × PipeError) :=
  match event.operation with
  | .enqueue body ticket limit =>
    match event.before.enqueue body ticket limit with
    | .ok _ => none
    | .error error => some (ticket, error)
  | _ => none

/-- What can become of the tickets: one is refused, one is entered under an id, or a packet is
handled; nothing else moves any. -/
inductive Moves (event : ExchangeEvent) : Prop where
  | refuse (body : Bytes) (ticket : Ticket) (limit : Nat)
      (operation : event.operation = .enqueue body ticket limit)
      (full : limit ≤ event.before.outbound.length)
      (handed : event.ticket? = some ticket) (accepted : event.accepted? = none)
      (refused : event.refused? = some (ticket, .tooManyInFlight limit))
      (after : event.after = event.before) (reaction : event.reaction = .none)
  | enter (body : Bytes) (ticket : Ticket) (limit : Nat) (id : MessageId)
      (operation : event.operation = .enqueue body ticket limit)
      (room : event.before.outbound.length < limit)
      (handed : event.ticket? = some ticket) (accepted : event.accepted? = some (id, ticket))
      (refused : event.refused? = none)
      (after : event.after.outbound =
        event.before.outbound ++ [⟨id, event.before.sent, some body, ticket⟩])
      (reaction : event.reaction = .none)
  | handle (packet : Packet) (operation : event.operation = .handle packet)
      (handed : event.ticket? = none) (accepted : event.accepted? = none)
      (refused : event.refused? = none)
      (after : event.after = (event.before.handle packet).2)
      (reaction : event.reaction = (event.before.handle packet).1)
  | rest (handed : event.ticket? = none) (accepted : event.accepted? = none)
      (refused : event.refused? = none) (after : event.after.outbound = event.before.outbound)
      (reaction : event.reaction = .none)

theorem moves (event : ExchangeEvent) : event.Moves := by
  obtain ⟨exchange, operation⟩ := event
  cases operation with
  | enqueue body ticket limit =>
    rcases exchange.enqueue_cases body ticket limit with
      ⟨full, done⟩ | ⟨room, id, after, done, outbound⟩
    · exact .refuse body ticket limit rfl full rfl (by simp [accepted?, done])
        (by simp [refused?, done]) (by simp [ExchangeEvent.after, Exchange.operate, done]) rfl
    · exact .enter body ticket limit id rfl room rfl (by simp [accepted?, done])
        (by simp [refused?, done]) (by simpa [ExchangeEvent.after, Exchange.operate, done]) rfl
  | handle packet => exact .handle packet rfl rfl rfl rfl rfl rfl
  | conclude id verdict => exact .rest rfl rfl rfl (exchange.outbound_conclude id verdict) rfl
  | resync => exact .rest rfl rfl rfl rfl rfl

/-- **One event.**  The tickets that were in the table and the one that is handed in are afterwards
in the table, resolved, or given back. -/
theorem perm_places (event : ExchangeEvent) :
    (event.before.tickets ++ event.ticket?.toList).Perm
      (event.after.tickets ++ event.reaction.outcomes.map Prod.fst ++
        (event.refused?.map Prod.fst).toList) := by
  cases event.moves with
  | refuse body ticket limit operation full handed accepted refused after reaction =>
    simp [handed, refused, after, reaction, Reaction.none]
  | enter body ticket limit id operation room handed accepted refused after reaction =>
    simp [handed, refused, after, reaction, Reaction.none, Exchange.tickets]
  | handle packet operation handed accepted refused after reaction =>
    simpa [handed, refused, after, reaction] using event.before.perm_handle packet
  | rest handed accepted refused after reaction =>
    simp [handed, refused, after, reaction, Reaction.none, Exchange.tickets]

/-- A ticket that is new in the table was accepted with this message. -/
theorem accepted?_of_arrives {event : ExchangeEvent} {claim : MessageId × Ticket}
    (absent : claim ∉ event.before.claims) (present : claim ∈ event.after.claims) :
    event.accepted? = some claim := by
  cases event.moves with
  | refuse body ticket limit operation full handed accepted refused after reaction =>
    exact absurd (after ▸ present) absent
  | enter body ticket limit id operation room handed accepted refused after reaction =>
    rw [Exchange.claims, after, List.map_append, List.mem_append] at present
    rcases present with before | new
    · exact absurd before absent
    · rw [accepted, List.mem_singleton.mp new]
      rfl
  | handle packet operation handed accepted refused after reaction =>
    rw [after, Exchange.claims_handle] at present
    exact absurd (List.mem_of_mem_filter present) absent
  | rest handed accepted refused after reaction =>
    rw [Exchange.claims, after] at present
    exact absurd present absent

/-- A ticket is given back only while the table is full, and nothing else changes. -/
theorem exists_of_refused? {event : ExchangeEvent} {ticket : Ticket} {error : PipeError}
    (refusal : event.refused? = some (ticket, error)) :
    ∃ body limit, event.operation = .enqueue body ticket limit ∧ error = .tooManyInFlight limit ∧
      limit ≤ event.before.outbound.length ∧ event.after = event.before := by
  cases event.moves with
  | refuse body _ limit operation full handed accepted refused after reaction =>
    cases refusal.symm.trans refused
    exact ⟨body, limit, operation, rfl, full, after⟩
  | enter body _ limit id operation room handed accepted refused after reaction =>
    cases refusal.symm.trans refused
  | handle packet operation handed accepted refused after reaction =>
    cases refusal.symm.trans refused
  | rest handed accepted refused after reaction => cases refusal.symm.trans refused

/-- A ticket is resolved only while a packet is handled that settles its message in this way. -/
theorem exists_of_mem_outcomes {event : ExchangeEvent} {ticket : Ticket} {outcome : Outcome}
    (resolved : (ticket, outcome) ∈ event.reaction.outcomes) :
    ∃ packet id verdict, event.operation = .handle packet ∧
      .settled id verdict ∈ packet.answers ∧ (id, ticket) ∈ event.before.claims ∧
      outcome = id.outcome verdict := by
  cases event.moves with
  | handle packet operation handed accepted refused after reaction =>
    rw [reaction, (event.before.handle_handled packet).outcomes] at resolved
    obtain ⟨id, verdict, among, claimed, told⟩ := Answer.exists_of_mem_reportsAll _ resolved
    exact ⟨packet, id, verdict, operation, among, claimed, told⟩
  | refuse body ticket limit operation full handed accepted refused after reaction =>
    rw [reaction] at resolved
    cases resolved
  | enter body ticket limit id operation room handed accepted refused after reaction =>
    rw [reaction] at resolved
    cases resolved
  | rest handed accepted refused after reaction =>
    rw [reaction] at resolved
    cases resolved

/-- A packet without a final answer resolves nothing. -/
theorem outcomes_eq_nil {event : ExchangeEvent} {packet : Packet}
    (operation : event.operation = .handle packet) (nothing : packet.finals = []) :
    event.reaction.outcomes = [] := by
  refine List.eq_nil_iff_forall_not_mem.mpr ?_
  rintro ⟨ticket, outcome⟩ resolved
  obtain ⟨other, id, verdict, same, settled, -⟩ := exists_of_mem_outcomes resolved
  cases operation.symm.trans same
  have final : id ∈ packet.finals := by
    rw [packet.finals_eq]
    exact List.mem_map.mpr ⟨(id, verdict), List.mem_filterMap.mpr ⟨_, settled, rfl⟩, rfl⟩
  rw [nothing] at final
  cases final

/-- The table grows only as far as the sender allows. -/
theorem length_after (event : ExchangeEvent) :
    event.after.outbound.length ≤ event.before.outbound.length ∨
      ∃ body ticket limit, event.operation = .enqueue body ticket limit ∧
        event.after.outbound.length ≤ limit := by
  cases event.moves with
  | refuse body ticket limit operation full handed accepted refused after reaction =>
    exact .inl (after ▸ Nat.le_refl _)
  | enter body ticket limit id operation room handed accepted refused after reaction =>
    refine .inr ⟨body, ticket, limit, operation, ?_⟩
    rw [after, List.length_append, List.length_singleton]
    exact room
  | handle packet operation handed accepted refused after reaction =>
    have fewer := (event.before.perm_handle packet).length_eq
    rw [List.length_append, Exchange.length_tickets, Exchange.length_tickets] at fewer
    rw [after]
    exact .inl (by omega)
  | rest handed accepted refused after reaction => exact .inl (after ▸ Nat.le_refl _)

/-- A ticket that is handed in is either accepted or given back. -/
theorem length_ticket? (event : ExchangeEvent) :
    event.ticket?.toList.length =
      event.accepted?.toList.length + event.refused?.toList.length := by
  cases event.moves <;> simp_all

end ExchangeEvent

namespace Packet

theorem settled_ok_mem_answers {packet : Packet} {id : MessageId}
    (settled : .settled id (.ok ()) ∈ packet.answers) :
    packet = .ackDelivered id ∨ ∃ acks, packet = .sync acks ∧ ⟨.delivered, id⟩ ∈ acks := by
  cases packet with
  | ackDelivered other =>
    cases List.mem_singleton.mp settled
    exact .inl rfl
  | sync acks =>
    obtain ⟨⟨state, other⟩, among, said⟩ := List.mem_map.mp settled
    cases state <;> cases said
    exact .inr ⟨acks, rfl, among⟩
  | nack other reason => cases List.mem_singleton.mp settled
  | ackReceived other => cases List.mem_singleton.mp settled
  | data other body => cases settled
  | ackOfNack other => cases settled

theorem settled_error_mem_answers {packet : Packet} {id : MessageId} {reason : String}
    (settled : .settled id (.error reason) ∈ packet.answers) : packet = .nack id reason := by
  cases packet with
  | nack other told =>
    cases List.mem_singleton.mp settled
    rfl
  | sync acks =>
    obtain ⟨⟨state, other⟩, among, said⟩ := List.mem_map.mp settled
    cases state <;> cases said
  | ackDelivered other => cases List.mem_singleton.mp settled
  | ackReceived other => cases List.mem_singleton.mp settled
  | data other body => cases settled
  | ackOfNack other => cases settled

end Packet

/-! ## Whole histories -/

theorem filterMap_cons_eq_append {α β : Type} (choose : α → Option β) (first : α) (rest : List α) :
    (first :: rest).filterMap choose = (choose first).toList ++ rest.filterMap choose := by
  rw [List.filterMap_cons]
  cases choose first <;> rfl

namespace Exchange

variable {operations : List ExchangeOperation}

/-- The tickets of a history are in one place each: those that were in the table, and those that
were handed in. -/
theorem perm_history (exchange : Exchange) (operations : List ExchangeOperation) :
    (exchange.tickets ++ (exchange.history operations).filterMap ExchangeEvent.ticket?).Perm
      ((exchange.operateAll operations).tickets ++
        ((exchange.history operations).flatMap fun event => event.reaction.outcomes).map Prod.fst ++
        ((exchange.history operations).filterMap ExchangeEvent.refused?).map Prod.fst) := by
  induction operations generalizing exchange with
  | nil => simp [history, operateAll]
  | cons operation operations ih =>
    refine List.perm_iff_count.mpr fun ticket => ?_
    have now := (ExchangeEvent.perm_places ⟨exchange, operation⟩).count_eq ticket
    have later := (ih (exchange.operate operation)).count_eq ticket
    simp only [history, operateAll, List.foldl_cons, filterMap_cons_eq_append, List.flatMap_cons,
      List.map_append, List.count_append, ExchangeEvent.after, Option.toList_map] at now later ⊢
    omega

theorem length_filterMap_ticket? (events : List ExchangeEvent) :
    (events.filterMap ExchangeEvent.ticket?).length =
      (events.filterMap ExchangeEvent.accepted?).length +
        (events.filterMap ExchangeEvent.refused?).length := by
  induction events with
  | nil => rfl
  | cons event events ih =>
    have now := event.length_ticket?
    simp only [filterMap_cons_eq_append, List.length_append] at now ⊢
    omega

/-- A table with room for `bound` messages never holds more, if no message is sent with a higher
limit. -/
theorem length_outbound_le {bound : Nat} {exchange : Exchange}
    (start : exchange.outbound.length ≤ bound)
    (limits : ∀ event ∈ exchange.history operations, ∀ body ticket limit,
      event.operation = .enqueue body ticket limit → limit ≤ bound) :
    (exchange.operateAll operations).outbound.length ≤ bound := by
  induction operations generalizing exchange with
  | nil => exact start
  | cons operation operations ih =>
    refine ih ?_ fun event happened => limits event (List.mem_cons_of_mem _ happened)
    rcases ExchangeEvent.length_after ⟨exchange, operation⟩ with
      fewer | ⟨body, ticket, limit, given, within⟩
    · exact Nat.le_trans fewer start
    · exact Nat.le_trans within (limits _ List.mem_cons_self body ticket limit given)

/-- A ticket in the table was accepted before, under the id that it has there. -/
theorem exists_accepted? {claim : MessageId × Ticket}
    (claimed : claim ∈ (new.operateAll operations).claims) :
    ∃ event ∈ new.history operations, event.accepted? = some claim := by
  obtain ⟨early, event, rest, cut, before, after, -⟩ :=
    exists_change (fun exchange => claim ∉ exchange.claims) List.not_mem_nil (not_not.mpr claimed)
  exact ⟨event, by simp [cut], ExchangeEvent.accepted?_of_arrives before (not_not.mp after)⟩

/-- The same of a ticket that an event of a history meets. -/
theorem accepted_of_prefix {early : List ExchangeEvent} {event : ExchangeEvent}
    (happened : early ++ [event] <+: new.history operations) {claim : MessageId × Ticket}
    (claimed : claim ∈ event.before.claims) : ∃ sent ∈ early, sent.accepted? = some claim := by
  obtain ⟨late, whole⟩ := happened
  rw [List.append_assoc] at whole
  obtain ⟨first, second, -, rfl, rest⟩ := exists_of_history_eq_append whole.symm
  cases second with
  | nil => cases rest
  | cons operation second =>
    obtain ⟨rfl, -⟩ := List.cons.inj rest
    exact exists_accepted? claimed

end Exchange

/-- What holds of the tickets at any time: after a history whose last exchange is `last`. -/
structure Conserved (history : List ExchangeEvent) (last : Exchange) : Prop where
  /-- Every ticket that was handed in is in one place: in the outbound table, resolved, or given
  back. -/
  places : (history.filterMap ExchangeEvent.ticket?).Perm
    (last.tickets ++ (history.flatMap fun event => event.reaction.outcomes).map Prod.fst ++
      (history.filterMap ExchangeEvent.refused?).map Prod.fst)
  /-- A ticket is given back only because as many messages are in flight as its sender allows. -/
  refused : ∀ event ∈ history, ∀ ticket error, event.refused? = some (ticket, error) →
    ∃ body limit, event.operation = .enqueue body ticket limit ∧ error = .tooManyInFlight limit ∧
      limit ≤ event.before.outbound.length ∧ event.after = event.before
  /-- What is in flight is what was accepted and has not been resolved. -/
  inFlight : last.outbound.length +
      (history.flatMap fun event => event.reaction.outcomes).length =
    (history.filterMap ExchangeEvent.accepted?).length
  bounded : ∀ bound, (∀ event ∈ history, ∀ body ticket limit,
    event.operation = .enqueue body ticket limit → limit ≤ bound) → last.outbound.length ≤ bound
  /-- A ticket is resolved as delivered only while its message, which was accepted before, is
  acknowledged so. -/
  delivered : ∀ early event, early ++ [event] <+: history → ∀ ticket,
    (ticket, .ok ()) ∈ event.reaction.outcomes →
    ∃ id, (id, ticket) ∈ event.before.claims ∧
      (∃ sent ∈ early, sent.accepted? = some (id, ticket)) ∧
      (event.operation = .handle (.ackDelivered id) ∨
        ∃ acks, event.operation = .handle (.sync acks) ∧ ⟨.delivered, id⟩ ∈ acks)
  /-- A ticket is resolved with an error only while its message, which was accepted before, is
  refused for this reason. -/
  rejected : ∀ early event, early ++ [event] <+: history → ∀ ticket error,
    (ticket, .error error) ∈ event.reaction.outcomes →
    ∃ id reason, (id, ticket) ∈ event.before.claims ∧
      (∃ sent ∈ early, sent.accepted? = some (id, ticket)) ∧
      event.operation = .handle (.nack id reason) ∧ error = .rejected id reason
  /-- Every final answer, to a message that is known or not, is answered by one release. -/
  released : ∀ event ∈ history, ∀ packet, event.operation = .handle packet →
    event.reaction.answers.filterMap Packet.released? = packet.finals
  /-- A packet takes the tickets of the messages that it answers for good, and no others. -/
  settled : ∀ event ∈ history, ∀ packet, event.operation = .handle packet →
    event.after.claims = event.before.claims.filter fun claim => claim.1 ∉ packet.finals
  /-- A packet without a final answer resolves nothing. -/
  receipt : ∀ event ∈ history, ∀ packet, event.operation = .handle packet → packet.finals = [] →
    event.reaction.outcomes = [] ∧ event.after.claims = event.before.claims
  /-- Giving up resolves all the rest. -/
  abandoned : (history.filterMap ExchangeEvent.ticket?).Perm
      (last.abandon.1.map Prod.fst ++
        (history.flatMap fun event => event.reaction.outcomes).map Prod.fst ++
        (history.filterMap ExchangeEvent.refused?).map Prod.fst) ∧
    (∀ resolved ∈ last.abandon.1, resolved.2 = .error .closed) ∧
    last.abandon.2.outbound = [] ∧ last.abandon.2.inbound = []

namespace Exchange

/-- **No ticket is lost or used twice, whatever the peer says.** -/
theorem conserved_history (operations : List ExchangeOperation) :
    Conserved (new.history operations) (new.operateAll operations) where
  places := new.perm_history operations
  refused _ _ _ _ refusal := ExchangeEvent.exists_of_refused? refusal
  inFlight := by
    have all := (new.perm_history operations).length_eq
    have handed := length_filterMap_ticket? (new.history operations)
    simp only [List.length_append, List.length_map, length_tickets] at all
    simp only [new, List.length_nil, Nat.zero_add] at all handed ⊢
    omega
  bounded bound limits := length_outbound_le (Nat.zero_le bound) limits
  delivered early event happened ticket resolved := by
    obtain ⟨packet, id, verdict, operation, settled, claimed, told⟩ :=
      ExchangeEvent.exists_of_mem_outcomes resolved
    refine ⟨id, claimed, accepted_of_prefix happened claimed, ?_⟩
    rw [operation]
    cases verdict with
    | error reason => cases told
    | ok =>
      rcases Packet.settled_ok_mem_answers settled with rfl | ⟨acks, rfl, among⟩
      · exact .inl rfl
      · exact .inr ⟨acks, rfl, among⟩
  rejected early event happened ticket error resolved := by
    obtain ⟨packet, id, verdict, operation, settled, claimed, told⟩ :=
      ExchangeEvent.exists_of_mem_outcomes resolved
    cases verdict with
    | ok => cases told
    | error reason =>
      cases told
      refine ⟨id, reason, claimed, accepted_of_prefix happened claimed, ?_, rfl⟩
      rw [operation, Packet.settled_error_mem_answers settled]
  released event _ packet operation := by
    rw [ExchangeEvent.reaction_of_handle operation]
    exact event.before.released_handle packet
  settled event _ packet operation := by
    rw [ExchangeEvent.after_of_handle operation]
    exact event.before.claims_handle packet
  receipt event _ packet operation nothing := by
    refine ⟨ExchangeEvent.outcomes_eq_nil operation nothing, ?_⟩
    rw [ExchangeEvent.after_of_handle operation, claims_handle, nothing]
    simp
  abandoned := by
    have told : (new.operateAll operations).abandon.1.map Prod.fst =
        (new.operateAll operations).tickets := by
      simp [abandon, tickets]
    rw [told]
    refine ⟨new.perm_history operations, fun resolved among => ?_, rfl, rfl⟩
    obtain ⟨entry, -, rfl⟩ := List.mem_map.mp among
    rfl

/-- A sync may name one message several times, and messages that were never sent: the ticket is
resolved once, and every final answer is answered. -/
example :
    let first := MessageId.ofNat 0
    let unknown := MessageId.ofNat 9
    let history := new.history
      [.enqueue [1] 10 2, .enqueue [2] 11 2, .enqueue [3] 12 2,
        .handle (.sync [⟨.received, first⟩, ⟨.delivered, first⟩, ⟨.delivered, unknown⟩,
          ⟨.delivered, first⟩])]
    history.filterMap ExchangeEvent.refused? = [(12, .tooManyInFlight 2)] ∧
      (history.map fun event => event.reaction.answers) =
        [[], [], [], [.ackOfNack first, .ackOfNack unknown, .ackOfNack first]] ∧
      (history.map fun event => event.reaction.outcomes.map Prod.fst) = [[], [], [], [10]] := by
  decide

end Exchange

end Courier
