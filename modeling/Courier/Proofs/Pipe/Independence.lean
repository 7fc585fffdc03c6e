import Courier.Proofs.Pipe.Conservation
import Courier.Proofs.Pipe.Lifecycle

/-!
# Packets that come twice, and packets in another order

A packet may come again, after a stream is replaced or because the peer says what it has
said before, and packets about different messages may be told in any order.  Neither makes
a difference.  A packet that comes again is answered as it was the first time, and nothing
else happens; of two unrelated packets each is handled as if the other did not exist, so
their order shows only in the order of what is asked for (`Exchange.handle_independent`).

The reason is that a packet leaves a mark and not a count: the outbound table after some
answers depends only on which messages they settle and which they name
(`Answer.settleAll_eq`), and a notice does nothing to the entry of another message
(`Notice.lookup?_note_of_ne`).
-/

namespace Courier

set_option autoImplicit false

/-! ## The outbound table after several answers -/

namespace Answer

/-- The messages that are settled for good by several answers. -/
def finals (answers : List Answer) : List MessageId := (answers.filterMap settled?).map Prod.fst

theorem finals_append (first second : List Answer) :
    finals (first ++ second) = finals first ++ finals second := by
  simp [finals]

theorem finals_cons (answer : Answer) (answers : List Answer) :
    finals (answer :: answers) = finals [answer] ++ finals answers :=
  finals_append [answer] answers

variable (outbound : List Outbound)

/-- What is settled is gone, and what else was named has no body any more. -/
theorem settleAll_eq (answers : List Answer) :
    settleAll outbound answers =
      (outbound.filter fun entry => entry.id ∉ finals answers).map fun entry =>
        if entry.id ∈ answers.map Answer.id then { entry with body := none } else entry := by
  induction answers generalizing outbound with
  | nil => simp [settleAll, finals]
  | cons answer answers ih =>
    rw [settleAll, List.foldl_cons, ← settleAll, ih]
    cases answer with
    | stored id =>
      have same : finals (stored id :: answers) = finals answers := rfl
      simp only [settle, List.filter_map, List.map_map, same]
      have kept : (fun entry : Outbound => decide (entry.id ∉ finals answers)) ∘
          (fun entry => if entry.id = id then { entry with body := none } else entry) =
          fun entry => decide (entry.id ∉ finals answers) := by
        funext entry
        by_cases here : entry.id = id <;> simp [here]
      rw [kept]
      refine List.map_congr_left fun entry _ => ?_
      by_cases here : entry.id = id
      · simp [here, Answer.id]
      · simp [here, Answer.id]
    | settled id verdict =>
      have more : finals (settled id verdict :: answers) = id :: finals answers := rfl
      simp only [settle, List.filter_filter, more]
      have kept : (fun entry : Outbound =>
          decide (entry.id ∉ finals answers) && decide (entry.id ≠ id)) =
          fun entry => decide (entry.id ∉ id :: finals answers) := by
        funext entry
        simp [Bool.and_comm]
      rw [kept]
      refine List.map_congr_left fun entry listed => ?_
      have different : entry.id ≠ id := by
        have absent := of_decide_eq_true (List.mem_filter.mp listed).2
        exact fun same => absent (same ▸ List.mem_cons_self)
      simp [Answer.id, different]

/-- Answers that settle and name the same messages leave the same table. -/
theorem settleAll_congr {first second : List Answer}
    (finals_iff : ∀ id, id ∈ finals first ↔ id ∈ finals second)
    (named_iff : ∀ id, id ∈ first.map Answer.id ↔ id ∈ second.map Answer.id) :
    settleAll outbound first = settleAll outbound second := by
  simp only [settleAll_eq, finals_iff, named_iff]

theorem settleAll_twice (answers : List Answer) :
    settleAll (settleAll outbound answers) answers = settleAll outbound answers := by
  rw [← settleAll_append]
  exact settleAll_congr outbound (by simp [finals_append]) (by simp)

theorem settleAll_comm (first second : List Answer) :
    settleAll (settleAll outbound first) second = settleAll (settleAll outbound second) first := by
  rw [← settleAll_append, ← settleAll_append]
  refine settleAll_congr outbound (fun id => ?_) (fun id => ?_)
  · rw [finals_append, finals_append, List.mem_append, List.mem_append, or_comm]
  · rw [List.map_append, List.map_append, List.mem_append, List.mem_append, or_comm]

/-! ## What is reported -/

/-- Who waits for a message. -/
def waiters (id : MessageId) : List Ticket :=
  (outbound.filter fun entry => entry.id = id).map Outbound.ticket

theorem reports_settled (id : MessageId) (verdict : Except String Unit) :
    reports outbound (settled id verdict) =
      (waiters outbound id).map fun ticket => (ticket, id.outcome verdict) := by
  rw [waiters, List.map_map]
  rfl

theorem waiters_eq (id : MessageId) :
    waiters outbound id =
      ((outbound.map Outbound.claim).filter fun claim => claim.1 = id).map Prod.snd := by
  rw [List.filter_map, List.map_map]
  rfl

/-- Answers take away those who wait for what they settle, and nobody else. -/
theorem waiters_settleAll (answers : List Answer) (id : MessageId) :
    waiters (settleAll outbound answers) id =
      if id ∈ finals answers then [] else waiters outbound id := by
  rw [waiters_eq, waiters_eq, map_claim_settleAll, List.filter_filter]
  by_cases final : id ∈ finals answers
  · rw [if_pos final, List.map_eq_nil_iff, List.filter_eq_nil_iff]
    intro claim _ both
    obtain ⟨same, absent⟩ := (Bool.and_eq_true_iff.mp both).imp of_decide_eq_true of_decide_eq_true
    exact absent (same ▸ final)
  · rw [if_neg final]
    congr 1
    refine List.filter_congr fun claim _ => ?_
    by_cases same : claim.1 = id
    · have kept : decide (claim.1 ∉ (answers.filterMap settled?).map Prod.fst) = true :=
        decide_eq_true (same ▸ final)
      rw [kept, Bool.and_true]
    · rw [decide_eq_false same, Bool.false_and]

theorem waiters_settle (answer : Answer) (id : MessageId) :
    waiters (answer.settle outbound) id =
      if id ∈ finals [answer] then [] else waiters outbound id :=
  waiters_settleAll outbound [answer] id

/-- What several answers report depends only on who waits for the messages that they settle. -/
theorem reportsAll_congr {outbound' : List Outbound} {answers : List Answer}
    (same : ∀ id ∈ finals answers, waiters outbound id = waiters outbound' id) :
    reportsAll outbound answers = reportsAll outbound' answers := by
  induction answers generalizing outbound outbound' with
  | nil => rfl
  | cons answer answers ih =>
    simp only [finals_cons answer answers, List.mem_append] at same
    have first : answer.reports outbound = answer.reports outbound' := by
      cases answer with
      | stored id => rfl
      | settled id verdict =>
        rw [reports_settled, reports_settled, same id (.inl List.mem_cons_self)]
    have rest : reportsAll (answer.settle outbound) answers =
        reportsAll (answer.settle outbound') answers :=
      ih _ fun id final => by rw [waiters_settle, waiters_settle, same id (.inr final)]
    rw [reportsAll, reportsAll, first, rest]

/-- Answers that come again report nothing. -/
theorem reportsAll_twice (answers : List Answer) :
    reportsAll (settleAll outbound answers) answers = [] := by
  have nobody (answers : List Answer) : reportsAll [] answers = [] := by
    induction answers with
    | nil => rfl
    | cons answer answers ih => cases answer <;> exact ih
  have same : reportsAll (settleAll outbound answers) answers = reportsAll [] answers := by
    refine reportsAll_congr _ fun id final => ?_
    rw [waiters_settleAll, if_pos final]
    rfl
  exact same.trans (nobody answers)

/-- Answers about other messages do not change what is reported. -/
theorem reportsAll_settleAll {first second : List Answer}
    (apart : ∀ id ∈ finals second, id ∉ finals first) :
    reportsAll (settleAll outbound first) second = reportsAll outbound second :=
  reportsAll_congr _ fun id final => by rw [waiters_settleAll, if_neg (apart id final)]

end Answer

/-! ## The inbound table after a notice -/

/-- Two inbound tables say the same of every message. -/
structure SameEntries (first second : List (MessageId × Disposition)) : Prop where
  perm : first.Perm second
  lookup : ∀ id, lookup? first id = lookup? second id

namespace SameEntries

theorem refl (inbound : List (MessageId × Disposition)) : SameEntries inbound inbound :=
  ⟨.refl _, fun _ => rfl⟩

theorem of_eq {first second : List (MessageId × Disposition)} (same : first = second) :
    SameEntries first second := same ▸ .refl first

end SameEntries

namespace Notice

/-- The message that a notice is about. -/
def id : Notice → MessageId
  | data id _ => id
  | release id => id

variable (inbound : List (MessageId × Disposition))

/-- A notice does nothing to the entry of another message. -/
theorem lookup?_note_of_ne {notice : Notice} {id : MessageId} (different : notice.id ≠ id) :
    lookup? (notice.note inbound) id = lookup? inbound id := by
  cases notice with
  | data other body => exact (lookup?_note_data other body).trans (if_neg different)
  | release other =>
    have different : other ≠ id := different
    simp only [note]
    induction inbound with
    | nil => rfl
    | cons entry inbound ih =>
      by_cases kept : entry.1 ≠ other ∨ entry.2 = .received
      · rw [List.filter_cons, if_pos (decide_eq_true kept), lookup?_cons, lookup?_cons, ih]
      · have here : entry.1 = other := not_not.mp fun other => kept (.inl other)
        rw [List.filter_cons, if_neg (mt of_decide_eq_true kept), ih, lookup?_cons, here,
          if_neg different]

theorem lookup?_noteAll_of_ne {notices : List Notice} {id : MessageId}
    (different : ∀ notice ∈ notices, notice.id ≠ id) :
    lookup? (noteAll inbound notices) id = lookup? inbound id := by
  induction notices generalizing inbound with
  | nil => rfl
  | cons notice notices ih =>
    obtain ⟨here, later⟩ := List.forall_mem_cons.mp different
    exact (ih _ later).trans (lookup?_note_of_ne inbound here)

/-- A message that has been told of is known. -/
theorem lookup?_note_self (id : MessageId) (body : Bytes) :
    lookup? ((data id body).note inbound) id = some ((lookup? inbound id).getD .received) :=
  (lookup?_note_data id body).trans (if_pos rfl)

/-- A notice that comes again changes nothing. -/
theorem note_twice (notice : Notice) : notice.note (notice.note inbound) = notice.note inbound := by
  cases notice with
  | data id body =>
    rw [note, lookup?_note_self]
  | release id =>
    simp only [note, List.filter_filter, Bool.and_self]

theorem note_data (id : MessageId) (body : Bytes) :
    (data id body).note inbound =
      inbound ++ if lookup? inbound id = none then [(id, .received)] else [] := by
  rw [note]
  cases lookup? inbound id with
  | none => rfl
  | some disposition => exact (List.append_nil _).symm

/-- A message that is told of is not what the release of another one takes away. -/
theorem note_release_data {one other : MessageId} (different : one ≠ other) (body : Bytes) :
    (release one).note ((data other body).note inbound) =
      (data other body).note ((release one).note inbound) := by
  have unchanged : lookup? ((release one).note inbound) other = lookup? inbound other :=
    lookup?_note_of_ne inbound different
  rw [note_data, note_data, unchanged]
  simp only [note, List.filter_append]
  split <;> simp

/-- Two messages that are told of are entered in this order or in that. -/
theorem note_data_data {one other : MessageId} (different : one ≠ other) (body body' : Bytes) :
    SameEntries ((data other body').note ((data one body).note inbound))
      ((data one body).note ((data other body').note inbound)) where
  perm := by
    have one_new : lookup? ((data other body').note inbound) one = lookup? inbound one :=
      lookup?_note_of_ne inbound different.symm
    have other_new : lookup? ((data one body).note inbound) other = lookup? inbound other :=
      lookup?_note_of_ne inbound different
    rw [note_data _ other, other_new, note_data _ one, note_data _ one, one_new, note_data _ other,
      List.append_assoc, List.append_assoc]
    exact List.perm_append_comm.append_left inbound
  lookup id := by
    simp only [lookup?_note_data]
    by_cases here : one = id
    · have there : other ≠ id := fun same => different (here.trans same.symm)
      simp only [if_pos here, if_neg there]
    · simp only [if_neg here]

/-- Of two notices about different messages either order leaves the same entries. -/
theorem note_comm {first second : Notice} (different : first.id ≠ second.id) :
    SameEntries (second.note (first.note inbound)) (first.note (second.note inbound)) := by
  cases first with
  | release one =>
    cases second with
    | release other =>
      simp only [note, List.filter_filter, Bool.and_comm]
      exact .refl _
    | data other body => exact .of_eq (note_release_data inbound different body).symm
  | data one body =>
    cases second with
    | release other => exact .of_eq (note_release_data inbound different.symm body)
    | data other body' => exact note_data_data inbound different body body'

end Notice

/-! ## Packets -/

namespace Packet

/-- One of the two tables of an exchange. -/
inductive Table where
  | inbound
  | outbound
deriving DecidableEq

/-- The table that a packet acts on. -/
def table : Packet → Table
  | data _ _ => .inbound
  | ackOfNack _ => .inbound
  | _ => .outbound

/-- The messages that a packet is about. -/
def subjects : Packet → List MessageId
  | data id _ => [id]
  | ackReceived id => [id]
  | ackDelivered id => [id]
  | nack id _ => [id]
  | ackOfNack id => [id]
  | sync acks => acks.map Ack.id

/-- Two packets act on different tables, or are about different messages. -/
def Unrelated (first second : Packet) : Prop :=
  first.table ≠ second.table ∨ ∀ id ∈ first.subjects, id ∉ second.subjects

instance (first second : Packet) : Decidable (first.Unrelated second) :=
  inferInstanceAs (Decidable (_ ∨ _))

theorem Unrelated.symm {first second : Packet} (unrelated : first.Unrelated second) :
    second.Unrelated first :=
  unrelated.imp Ne.symm fun apart id there here => apart id here there

variable {first second packet : Packet}

theorem Unrelated.apart (unrelated : first.Unrelated second) (same : first.table = second.table)
    {id : MessageId} (here : id ∈ first.subjects) : id ∉ second.subjects :=
  unrelated.resolve_left (not_not.mpr same) id here

theorem mem_subjects_of_notice {notice : Notice} (said : notice ∈ packet.notices) :
    packet.table = .inbound ∧ notice.id ∈ packet.subjects := by
  cases packet with
  | data id body =>
    cases List.mem_singleton.mp said
    exact ⟨rfl, List.mem_cons_self⟩
  | ackOfNack id =>
    cases List.mem_singleton.mp said
    exact ⟨rfl, List.mem_cons_self⟩
  | _ => cases said

theorem mem_subjects_of_final {id : MessageId} (final : id ∈ packet.finals) :
    packet.table = .outbound ∧ id ∈ packet.subjects := by
  cases packet with
  | sync acks =>
    obtain ⟨⟨state, other⟩, among, told⟩ := List.mem_filterMap.mp final
    refine ⟨rfl, List.mem_map.mpr ⟨_, among, ?_⟩⟩
    cases state <;> cases told
    rfl
  | ackDelivered other => exact ⟨rfl, final⟩
  | nack other reason => exact ⟨rfl, final⟩
  | _ => cases final

theorem Unrelated.notices (unrelated : first.Unrelated second) {notice other : Notice}
    (here : notice ∈ first.notices) (there : other ∈ second.notices) : notice.id ≠ other.id := by
  obtain ⟨table, subject⟩ := mem_subjects_of_notice here
  obtain ⟨table', subject'⟩ := mem_subjects_of_notice there
  exact fun same => unrelated.apart (table.trans table'.symm) subject (same ▸ subject')

theorem Unrelated.finals (unrelated : first.Unrelated second) {id : MessageId}
    (here : id ∈ first.finals) : id ∉ second.finals := by
  intro there
  obtain ⟨table, subject⟩ := mem_subjects_of_final here
  obtain ⟨table', subject'⟩ := mem_subjects_of_final there
  exact unrelated.apart (table.trans table'.symm) subject subject'

/-- What a packet is answered with. -/
def replies (inbound : List (MessageId × Disposition)) : Packet → List Packet
  | data id _ => [((lookup? inbound id).getD .received).answer id]
  | packet => packet.finals.map .ackOfNack

theorem replies_congr {inbound inbound' : List (MessageId × Disposition)} (packet : Packet)
    (same : ∀ notice ∈ packet.notices, lookup? inbound notice.id = lookup? inbound' notice.id) :
    packet.replies inbound = packet.replies inbound' := by
  cases packet with
  | data id body =>
    have same : lookup? inbound id = lookup? inbound' id := same _ List.mem_cons_self
    rw [replies, replies, same]
  | _ => rfl

theorem deliveriesAll_congr {inbound inbound' : List (MessageId × Disposition)} (packet : Packet)
    (same : ∀ notice ∈ packet.notices, lookup? inbound notice.id = lookup? inbound' notice.id) :
    Notice.deliveriesAll inbound packet.notices = Notice.deliveriesAll inbound' packet.notices := by
  cases packet with
  | data id body =>
    have same : lookup? inbound id = lookup? inbound' id := same _ List.mem_cons_self
    simp only [notices, Notice.deliveriesAll, Notice.deliveries, same]
  | _ => rfl

end Packet

namespace Exchange

variable (exchange : Exchange)

theorem answers_onAcks (acks : List Ack) :
    (exchange.onAcks acks).1.answers = (Packet.sync acks).finals.map .ackOfNack := by
  induction acks generalizing exchange with
  | nil => rfl
  | cons ack acks ih =>
    obtain ⟨state, id⟩ := ack
    rw [onAcks, Reaction.answers_append, ih]
    cases state <;> rfl

theorem answers_handle (packet : Packet) :
    (exchange.handle packet).1.answers = packet.replies exchange.inbound := by
  cases packet with
  | data id body =>
    let event : ExchangeEvent := ⟨exchange, .handle (.data id body)⟩
    exact (event.reaction_data rfl).1
  | sync acks => exact exchange.answers_onAcks acks
  | _ => rfl

/-- What becomes of a packet: the inbound table decides about what it tells, and the outbound table
about what it answers. -/
theorem handle_eq (packet : Packet) :
    exchange.handle packet =
      (⟨packet.replies exchange.inbound, Notice.deliveriesAll exchange.inbound packet.notices,
          Answer.reportsAll exchange.outbound packet.answers⟩,
        { exchange with
          outbound := Answer.settleAll exchange.outbound packet.answers
          inbound := Notice.noteAll exchange.inbound packet.notices }) := by
  have handled := exchange.handle_handled packet
  refine Prod.ext ?_ ?_
  · rw [← answers_handle, ← handled.deliveries, ← handled.outcomes]
  · rw [← handled.outbound, ← handled.inbound, ← handled.nextId, ← handled.sent]

/-- A packet that comes again finds an inbound table that says the same of it. -/
theorem noteAll_twice (packet : Packet) :
    let after := Notice.noteAll exchange.inbound packet.notices
    Notice.noteAll after packet.notices = after ∧
      Notice.deliveriesAll after packet.notices = [] ∧
      packet.replies after = packet.replies exchange.inbound := by
  cases packet with
  | data id body =>
    have known := Notice.lookup?_note_self exchange.inbound id body
    have same := Notice.note_twice exchange.inbound (.data id body)
    refine ⟨same, ?_, ?_⟩ <;>
      simp [Packet.notices, Notice.noteAll, Notice.deliveriesAll, Notice.deliveries,
        Packet.replies, known]
  | ackOfNack id => exact ⟨Notice.note_twice exchange.inbound (.release id), rfl, rfl⟩
  | _ => exact ⟨rfl, rfl, rfl⟩

/-- A packet that comes again is answered as before, and nothing else happens. -/
theorem handle_twice (packet : Packet) :
    (exchange.handle packet).2.handle packet =
      (⟨(exchange.handle packet).1.answers, [], []⟩, (exchange.handle packet).2) := by
  obtain ⟨entries, nothing, replies⟩ := exchange.noteAll_twice packet
  rw [handle_eq exchange packet, handle_eq, Answer.settleAll_twice, Answer.reportsAll_twice,
    entries, nothing, replies]

variable {first second : Packet} (unrelated : first.Unrelated second)

include unrelated

/-- What is asked for after an unrelated packet is what would have been asked for before it. -/
theorem reaction_of_unrelated :
    ((exchange.handle first).2.handle second).1 = (exchange.handle second).1 := by
  have entries : ∀ notice ∈ second.notices,
      lookup? (Notice.noteAll exchange.inbound first.notices) notice.id =
        lookup? exchange.inbound notice.id := fun notice said =>
    Notice.lookup?_noteAll_of_ne _ fun other there => unrelated.notices there said
  have reported : Answer.reportsAll (Answer.settleAll exchange.outbound first.answers)
      second.answers = Answer.reportsAll exchange.outbound second.answers :=
    Answer.reportsAll_settleAll _ fun id final there => by
      rw [Answer.finals, ← Packet.finals_eq] at final there
      exact unrelated.finals there final
  rw [handle_eq exchange first, handle_eq, handle_eq exchange second, reported,
    second.replies_congr entries, second.deliveriesAll_congr entries]

/-- Two unrelated packets leave the same inbound entries in either order. -/
theorem sameEntries_of_unrelated :
    SameEntries (Notice.noteAll (Notice.noteAll exchange.inbound first.notices) second.notices)
      (Notice.noteAll (Notice.noteAll exchange.inbound second.notices) first.notices) := by
  cases here : first.notices with
  | nil => exact .refl _
  | cons notice more =>
    cases there : second.notices with
    | nil => exact .refl _
    | cons other further =>
      have different : notice.id ≠ other.id :=
        unrelated.notices (here ▸ List.mem_cons_self) (there ▸ List.mem_cons_self)
      -- A packet has one notice at most.
      obtain rfl : more = [] := by cases first <;> cases here <;> rfl
      obtain rfl : further = [] := by cases second <;> cases there <;> rfl
      exact Notice.note_comm exchange.inbound different

end Exchange

/-- What was handed over or reported about one thing comes from one of two lists, so the order of
the lists does not show. -/
theorem filter_append_comm {α : Type} {choose : α → Bool} {first second : List α}
    (apart : ∀ item ∈ first, ∀ other ∈ second, choose item → ¬ choose other) :
    (first ++ second).filter choose = (second ++ first).filter choose := by
  rw [List.filter_append, List.filter_append]
  by_cases none : first.filter choose = []
  · rw [none, List.append_nil, List.nil_append]
  · obtain ⟨item, chosen⟩ := List.exists_mem_of_ne_nil _ none
    obtain ⟨listed, chosen⟩ := List.mem_filter.mp chosen
    have other : second.filter choose = [] :=
      List.filter_eq_nil_iff.mpr fun other there => apart item listed other there chosen
    rw [other, List.append_nil, List.nil_append]

/-- Two orders of the same packets come to the same: the tables agree, every message is handed over
and every sender is told alike, and the answers differ in their order at most. -/
structure SameEffect (exchange : Exchange) (one other : Reaction × Exchange) : Prop where
  nextId : one.2.nextId = other.2.nextId
  sent : one.2.sent = other.2.sent
  outbound : one.2.outbound = other.2.outbound
  inbound : SameEntries one.2.inbound other.2.inbound
  answers : one.1.answers.Perm other.1.answers
  deliveries : one.1.deliveries.Perm other.1.deliveries
  /-- Under one id the same is handed over in the same order. -/
  deliveriesOf : ∀ id, (one.1.deliveries.filter fun delivery => delivery.1 = id) =
    other.1.deliveries.filter fun delivery => delivery.1 = id
  outcomes : one.1.outcomes.Perm other.1.outcomes
  /-- Who waits for one message only is told the same in the same order. -/
  outcomesOf : ∀ id ticket, (∀ other, (other, ticket) ∈ exchange.claims → other = id) →
    (one.1.outcomes.filter fun outcome => outcome.1 = ticket) =
      other.1.outcomes.filter fun outcome => outcome.1 = ticket

theorem Reaction.append_none (reaction : Reaction) : reaction ++ Reaction.none = reaction := by
  change Reaction.mk _ _ _ = _
  simp [Reaction.none]

namespace Exchange

variable (exchange : Exchange)

theorem handleAll_pair (first second : Packet) :
    exchange.handleAll [first, second] =
      ((exchange.handle first).1 ++ ((exchange.handle first).2.handle second).1,
        ((exchange.handle first).2.handle second).2) := by
  simp only [handleAll, Reaction.append_none]

theorem mem_subjects_of_delivery {packet : Packet} {delivery : MessageId × Bytes}
    (handed : delivery ∈ (exchange.handle packet).1.deliveries) :
    packet.table = .inbound ∧ delivery.1 ∈ packet.subjects := by
  rcases ExchangeEvent.deliveries_eq_nil_or ⟨exchange, .handle packet⟩ with
    nothing | ⟨id, body, data, -, one⟩
  · rw [ExchangeEvent.reaction_of_handle rfl] at nothing
    rw [nothing] at handed
    cases handed
  · cases data
    rw [ExchangeEvent.reaction_of_handle rfl] at one
    rw [one] at handed
    cases List.mem_singleton.mp handed
    exact ⟨rfl, List.mem_cons_self⟩

theorem mem_subjects_of_outcome {packet : Packet} {ticket : Ticket} {outcome : Outcome}
    (told : (ticket, outcome) ∈ (exchange.handle packet).1.outcomes) :
    packet.table = .outbound ∧ ∃ id ∈ packet.subjects, (id, ticket) ∈ exchange.claims := by
  let event : ExchangeEvent := ⟨exchange, .handle packet⟩
  obtain ⟨_, id, verdict, operation, settled, claimed, -⟩ := event.exists_of_mem_outcomes told
  cases operation
  have final : id ∈ packet.finals := by
    rw [packet.finals_eq]
    exact List.mem_map.mpr ⟨(id, verdict), List.mem_filterMap.mpr ⟨_, settled, rfl⟩, rfl⟩
  obtain ⟨table, subject⟩ := Packet.mem_subjects_of_final final
  exact ⟨table, id, subject, claimed⟩

/-- The order of two unrelated packets makes no difference. -/
theorem sameEffect_of_unrelated {first second : Packet} (unrelated : first.Unrelated second) :
    SameEffect exchange (exchange.handleAll [first, second])
      (exchange.handleAll [second, first]) := by
  rw [handleAll_pair, handleAll_pair, exchange.reaction_of_unrelated unrelated,
    exchange.reaction_of_unrelated unrelated.symm]
  have tables (first second : Packet) := (exchange.handle first).2.handle_eq second
  constructor
  case answers => exact List.perm_append_comm
  case deliveries => exact List.perm_append_comm
  case outcomes => exact List.perm_append_comm
  case deliveriesOf =>
    refine fun id => filter_append_comm fun delivery handed other handed' same same' => ?_
    obtain ⟨table, subject⟩ := exchange.mem_subjects_of_delivery handed
    obtain ⟨table', subject'⟩ := exchange.mem_subjects_of_delivery handed'
    rw [of_decide_eq_true same] at subject
    rw [of_decide_eq_true same'] at subject'
    exact unrelated.apart (table.trans table'.symm) subject subject'
  case outcomesOf =>
    rintro id ticket only
    refine filter_append_comm ?_
    rintro ⟨_, outcome⟩ told ⟨_, outcome'⟩ told' same same'
    obtain rfl := of_decide_eq_true same
    obtain rfl := of_decide_eq_true same'
    obtain ⟨table, one, subject, claimed⟩ := exchange.mem_subjects_of_outcome told
    obtain ⟨table', other, subject', claimed'⟩ := exchange.mem_subjects_of_outcome told'
    rw [only one claimed] at subject
    rw [only other claimed'] at subject'
    exact unrelated.apart (table.trans table'.symm) subject subject'
  all_goals rw [tables first second, tables second first, exchange.handle_eq first,
    exchange.handle_eq second]
  case outbound => exact Answer.settleAll_comm ..
  case inbound => exact exchange.sameEntries_of_unrelated unrelated

/-- **A packet that comes again is answered again and does nothing new, and unrelated packets may come
in any order.** -/
theorem handle_independent (packet : Packet) :
    (exchange.handle packet).1.answers = packet.replies exchange.inbound ∧
      (exchange.handle packet).2.handle packet =
        (⟨(exchange.handle packet).1.answers, [], []⟩, (exchange.handle packet).2) ∧
      ∀ other, packet.Unrelated other →
        ((exchange.handle packet).2.handle other).1 = (exchange.handle other).1 ∧
          SameEffect exchange (exchange.handleAll [packet, other])
            (exchange.handleAll [other, packet]) :=
  ⟨exchange.answers_handle packet, exchange.handle_twice packet, fun _ unrelated =>
    ⟨exchange.reaction_of_unrelated unrelated, exchange.sameEffect_of_unrelated unrelated⟩⟩

/-- Two messages are without an answer, and the receiver is at one that came in. -/
def bustling : Exchange :=
  ⟨.ofNat 2, 2, [⟨.ofNat 0, 0, some [1], 10⟩, ⟨.ofNat 1, 1, some [2], 11⟩],
    [(.ofNat 0, .received)]⟩

/-- A sync about one message, which says two things of it and names an unknown one, and the refusal
of the other message. -/
theorem handle_independent_bustling :
    let sync := Packet.sync
      [⟨.received, .ofNat 0⟩, ⟨.delivered, .ofNat 0⟩, ⟨.delivered, .ofNat 9⟩]
    let refusal := Packet.nack (.ofNat 1) "full"
    sync.Unrelated refusal ∧
      (bustling.handleAll [refusal, sync]).1.outcomes =
        [(11, .error (.rejected (.ofNat 1) "full")), (10, .ok ())] ∧
      SameEffect bustling (bustling.handleAll [sync, refusal])
        (bustling.handleAll [refusal, sync]) := by
  intro sync refusal
  have unrelated : sync.Unrelated refusal := by decide
  exact ⟨unrelated, by decide, ((bustling.handle_independent sync).2.2 refusal unrelated).2⟩

end Exchange

end Courier
