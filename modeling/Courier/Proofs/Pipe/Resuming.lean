import Courier.Proofs.Pipe.Allocation

/-!
# What is said on a new stream

On a new stream an end says what it owes to the peer, and nothing else: how far the
receiver is with each message that came in, which messages it refused and for what reason,
and again every message of which the peer has not said that it stored or settled it, in
the order of sending (`Exchange.resync_history`).

What is owed of the messages sent is read off the history (`owed`): each message that was
accepted, and that no later packet names.  So neither the ids, which may go round the cycle
and leave some out, nor the order in which the peer answers play a part.  Nor does the
order in which the tables are kept: the messages sent can be put in order by their
counters (`Exchange.Numbered`), and those received are sorted by their ids.
-/

namespace Courier

set_option autoImplicit false

/-! ## Messages sent -/

namespace ExchangeEvent

/-- The message that is accepted, under its id. -/
def entered? (event : ExchangeEvent) : Option (MessageId × Bytes) :=
  match event.operation with
  | .enqueue body ticket limit =>
    match event.before.enqueue body ticket limit with
    | .ok (id, _) => some (id, body)
    | .error _ => none
  | _ => none

/-- The messages of which the peer says that it stored or settled them. -/
def answered (event : ExchangeEvent) : List MessageId :=
  match event.operation with
  | .handle packet => packet.answers.map Answer.id
  | _ => []

end ExchangeEvent

/-- The messages that are accepted in the course of a history and that no later event answers, in
the order in which they are sent. -/
def owed : List ExchangeEvent → List (MessageId × Bytes)
  | [] => []
  | event :: later =>
    (event.entered?.filter fun message => ∀ other ∈ later, message.1 ∉ other.answered).toList ++
      owed later

namespace Outbound

/-- The message, while its body is needed. -/
def message? (entry : Outbound) : Option (MessageId × Bytes) :=
  entry.body.map fun body => (entry.id, body)

end Outbound

namespace Exchange

variable (exchange : Exchange)

/-- The messages whose bodies are needed. -/
def messages : List (MessageId × Bytes) := exchange.outbound.filterMap Outbound.message?

theorem unconfirmed_eq :
    exchange.unconfirmed = exchange.messages.map fun message => .data message.1 message.2 := by
  rw [messages, List.map_filterMap]
  refine List.filterMap_congr fun entry _ => ?_
  rw [Outbound.message?, Option.map_map]
  rfl

end Exchange

theorem Answer.mem_map_id_of_mem_finals {answers : List Answer} {id : MessageId}
    (final : id ∈ finals answers) : id ∈ answers.map Answer.id := by
  obtain ⟨⟨_, verdict⟩, among, rfl⟩ := List.mem_map.mp final
  obtain ⟨answer, said, told⟩ := List.mem_filterMap.mp among
  refine List.mem_map.mpr ⟨answer, said, ?_⟩
  cases answer <;> cases told
  rfl

/-- Answers leave the messages that they do not name. -/
theorem Answer.filterMap_settleAll (outbound : List Outbound) (answers : List Answer) :
    (settleAll outbound answers).filterMap Outbound.message? =
      (outbound.filterMap Outbound.message?).filter fun message =>
        message.1 ∉ answers.map Answer.id := by
  rw [settleAll_eq, List.filterMap_map, List.filterMap_filter, List.filter_filterMap]
  refine List.filterMap_congr fun entry _ => ?_
  rw [Function.comp_apply]
  by_cases named : entry.id ∈ answers.map Answer.id
  · rw [if_pos named, Outbound.message?, Outbound.message?]
    cases entry.body <;> simp [Option.filter, -List.mem_map, named]
  · have unsettled : entry.id ∉ finals answers :=
      fun final => named (mem_map_id_of_mem_finals final)
    rw [if_neg named, if_pos (decide_eq_true unsettled), Outbound.message?]
    cases entry.body <;> simp [Option.filter, -List.mem_map, named]

namespace ExchangeEvent

/-- What an event leaves: the messages that it does not answer, and the one that it accepts. -/
theorem messages_after (event : ExchangeEvent) :
    event.after.messages =
      (event.before.messages.filter fun message => message.1 ∉ event.answered) ++
        event.entered?.toList := by
  obtain ⟨exchange, operation⟩ := event
  cases operation with
  | enqueue body ticket limit =>
    rcases exchange.enqueue_cases body ticket limit with
      ⟨full, refused⟩ | ⟨room, id, after, done, outbound⟩
    · simp [ExchangeEvent.after, Exchange.operate, refused, entered?, answered]
    · simp [ExchangeEvent.after, Exchange.operate, done, entered?, answered, Exchange.messages,
        outbound, Outbound.message?]
  | handle packet =>
    rw [after_of_handle rfl, Exchange.messages, (exchange.handle_handled packet).outbound,
      Answer.filterMap_settleAll]
    exact (List.append_nil _).symm
  | conclude id verdict =>
    have same : (exchange.conclude id verdict).2.messages = exchange.messages :=
      congrArg (List.filterMap _) (exchange.outbound_conclude id verdict)
    simp [ExchangeEvent.after, Exchange.operate, same, entered?, answered]
  | resync => simp [ExchangeEvent.after, Exchange.operate, entered?, answered]

end ExchangeEvent

namespace Exchange

/-- After a history the messages that are needed are those of before that it does not answer, and
what it owes. -/
theorem messages_operateAll (exchange : Exchange) (operations : List ExchangeOperation) :
    (exchange.operateAll operations).messages =
      (exchange.messages.filter fun message =>
        ∀ event ∈ exchange.history operations, message.1 ∉ event.answered) ++
      owed (exchange.history operations) := by
  induction operations generalizing exchange with
  | nil => simp [operateAll, history, owed]
  | cons operation operations ih =>
    have now : (exchange.operate operation).messages = _ :=
      ExchangeEvent.messages_after ⟨exchange, operation⟩
    rw [operateAll, List.foldl_cons, ← operateAll, ih, now, List.filter_append, List.filter_filter,
      history, owed, List.append_assoc, Option.toList_filter]
    simp only [List.forall_mem_cons, Bool.decide_and, Bool.and_comm]

end Exchange

/-! ## Messages received -/

/-- What a sync says of a message. -/
def AckState.disposition : AckState → Disposition
  | received => .received
  | delivered => .delivered

namespace Disposition

theorem ack?_eq_some_iff {id : MessageId} {disposition : Disposition} {ack : Ack} :
    disposition.ack? id = some ack ↔ disposition = ack.state.disposition ∧ id = ack.id := by
  obtain ⟨state, other⟩ := ack
  cases disposition <;> cases state <;> simp [ack?, AckState.disposition]

/-- The reason for which a message was refused. -/
def reason? : Disposition → Option String
  | refused reason => some reason
  | _ => none

theorem reason?_eq_some_iff {disposition : Disposition} {reason : String} :
    disposition.reason? = some reason ↔ disposition = refused reason := by
  cases disposition <;> simp [reason?]

end Disposition

/-! ## Order -/

section Order

variable {α : Type} (key : α → Nat) {entries : List α}

theorem pairwise_mergeSort_key (entries : List α) :
    (entries.mergeSort fun one other => decide (key one ≤ key other)).Pairwise
      fun one other => key one ≤ key other := by
  refine (List.pairwise_mergeSort ?_ ?_ entries).imp fun le => of_decide_eq_true le
  · intro one other third first second
    exact decide_eq_true (Nat.le_trans (of_decide_eq_true first) (of_decide_eq_true second))
  · intro one other
    simpa using Nat.le_total (key one) (key other)

/-- Entries whose keys ascend are found again by sorting, however they are shuffled. -/
theorem mergeSort_key_of_perm (ascending : (entries.map key).Pairwise (· < ·)) {table : List α}
    (same : table.Perm entries) :
    table.mergeSort (fun one other => decide (key one ≤ key other)) = entries := by
  have sorted : entries.Pairwise fun one other => key one ≤ key other :=
    (List.pairwise_map.mp ascending).imp Nat.le_of_lt
  have shuffled : (table.mergeSort fun one other => decide (key one ≤ key other)).Perm entries :=
    (List.mergeSort_perm ..).trans same
  refine shuffled.eq_of_pairwise (fun one other among listed le ge => ?_)
    (pairwise_mergeSort_key key table) sorted
  exact List.inj_on_of_nodup_map (ascending.imp Nat.ne_of_lt) (shuffled.subset among) listed
    (Nat.le_antisymm le ge)

end Order

namespace Exchange

variable {exchange : Exchange} (distinct : exchange.InboundDistinct)

/-- The refused messages, with the reasons, in ascending order. -/
def refusals (exchange : Exchange) : List (MessageId × String) :=
  exchange.ascending.filterMap fun entry => entry.2.reason?.map fun reason => (entry.1, reason)

theorem nacks_eq (exchange : Exchange) :
    exchange.nacks = exchange.refusals.map fun refusal => .nack refusal.1 refusal.2 := by
  rw [nacks, refusals, List.map_filterMap]
  refine List.filterMap_congr fun entry _ => ?_
  obtain ⟨id, disposition⟩ := entry
  cases disposition <;> rfl

include distinct

theorem mem_ascending_iff (id : MessageId) (disposition : Disposition) :
    (id, disposition) ∈ exchange.ascending ↔ exchange.disposition? id = some disposition := by
  rw [mem_ascending, disposition?_eq_lookup?]
  refine ⟨fun listed => lookup?_of_mem distinct listed, fun found => ?_⟩
  obtain ⟨entry, among, rfl⟩ := Option.map_eq_some_iff.mp found
  have same : entry.1 = id := by simpa using List.find?_some among
  exact same ▸ List.mem_of_find?_eq_some among

/-- The inbound messages come in ascending order, and each once. -/
theorem pairwise_ascending :
    exchange.ascending.Pairwise fun one other => one.1.toNat < other.1.toNat := by
  have sorted : exchange.ascending.Pairwise fun one other => one.1.toNat ≤ other.1.toNat :=
    pairwise_mergeSort_key (fun entry => entry.1.toNat) exchange.inbound
  have apart : exchange.ascending.Pairwise fun one other => one.1 ≠ other.1 := by
    have same : (exchange.ascending.map Prod.fst).Perm (exchange.inbound.map Prod.fst) :=
      (List.mergeSort_perm ..).map _
    exact List.pairwise_map.mp (same.nodup_iff.mpr distinct)
  refine sorted.imp₂ (fun one other le different => ?_) apart
  exact Nat.lt_of_le_of_ne le fun same => different (MessageId.toNat_inj.mp same)

theorem mem_acks_iff (ack : Ack) :
    ack ∈ exchange.acks ↔ exchange.disposition? ack.id = some ack.state.disposition := by
  rw [acks, List.mem_filterMap, ← mem_ascending_iff distinct]
  simp only [Disposition.ack?_eq_some_iff]
  constructor
  · rintro ⟨⟨id, disposition⟩, listed, rfl, rfl⟩
    exact listed
  · exact fun listed => ⟨_, listed, rfl, rfl⟩

theorem pairwise_acks : exchange.acks.Pairwise fun one other => one.id.toNat < other.id.toNat := by
  refine (pairwise_ascending distinct).filterMap _ ?_
  rintro one other less ack said ack' said'
  rw [← (Disposition.ack?_eq_some_iff.mp said).2, ← (Disposition.ack?_eq_some_iff.mp said').2]
  exact less

theorem mem_refusals_iff (id : MessageId) (reason : String) :
    (id, reason) ∈ exchange.refusals ↔ exchange.disposition? id = some (.refused reason) := by
  rw [refusals, List.mem_filterMap, ← mem_ascending_iff distinct]
  simp only [Option.map_eq_some_iff, Disposition.reason?_eq_some_iff]
  constructor
  · rintro ⟨⟨other, disposition⟩, listed, told, rfl, same⟩
    cases same
    exact listed
  · exact fun listed => ⟨_, listed, reason, rfl, rfl⟩

theorem pairwise_refusals :
    exchange.refusals.Pairwise fun one other => one.1.toNat < other.1.toNat := by
  refine (pairwise_ascending distinct).filterMap _ ?_
  rintro one other less refusal said refusal' said'
  obtain ⟨_, -, rfl⟩ := Option.map_eq_some_iff.mp said
  obtain ⟨_, -, rfl⟩ := Option.map_eq_some_iff.mp said'
  exact less

/-- What was refused at the end and not at the beginning was refused by a verdict that counted, for
the reason given then, and has not been released since. -/
theorem exists_refuses {id : MessageId} {reason : String} {operations : List ExchangeOperation}
    (start : exchange.disposition? id ≠ some (.refused reason))
    (refused : (exchange.operateAll operations).disposition? id = some (.refused reason)) :
    ∃ early concluded late, exchange.history operations = early ++ concluded :: late ∧
      concluded.Concludes id ∧ concluded.operation = .conclude id (.error reason) ∧
      ∀ later ∈ late, ¬ later.Releases id := by
  obtain ⟨early, concluded, late, cut, before, after, since⟩ :=
    exists_last_change (fun exchange => exchange.disposition? id = some (.refused reason)) start
      refused
  have counts : concluded.Concludes id ∧ concluded.operation = .conclude id (.error reason) := by
    have happened : concluded ∈ exchange.history operations := by simp [cut]
    have turn := ExchangeEvent.turn (distinct.of_mem_history happened) id
    rw [after] at turn
    generalize standing : concluded.before.disposition? id = former at turn before
    generalize settled : some (Disposition.refused reason) = latter at turn before
    cases turn with
    | stay => exact absurd rfl before
    | arrive body data => cases settled
    | leave released unsettled => cases settled
    | settle verdict concluding =>
      have told : verdict = .error reason := by
        cases verdict <;> cases settled
        rfl
      exact ⟨(ExchangeEvent.concludes_iff concluding).mpr standing, told ▸ concluding⟩
  refine ⟨early, concluded, late, cut, counts.1, counts.2, fun later listed releases => ?_⟩
  have happened : later ∈ exchange.history operations := by simp [cut, listed]
  obtain ⟨stood, stands⟩ := since later listed
  rw [ExchangeEvent.after, disposition?_operate (distinct.of_mem_history happened), releases,
    stood] at stands
  simp [ExchangeOperation.advance] at stands

end Exchange

/-! ## The whole announcement -/

/-- What is said after a history of the messages that came in. -/
structure Standings (history : List ExchangeEvent) (last : Exchange) (acks : List Ack)
    (refusals : List (MessageId × String)) : Prop where
  /-- The sync names just the messages that are with the receiver or delivered, as they stand. -/
  acked : ∀ ack, ack ∈ acks ↔ last.disposition? ack.id = some ack.state.disposition
  acksAscend : acks.Pairwise fun one other => one.id.toNat < other.id.toNat
  refused : ∀ id reason,
    (id, reason) ∈ refusals ↔ last.disposition? id = some (.refused reason)
  refusalsAscend : refusals.Pairwise fun one other => one.1.toNat < other.1.toNat
  /-- The reason is the one of the verdict that counted. -/
  original : ∀ id reason, (id, reason) ∈ refusals →
    ∃ early concluded late, history = early ++ concluded :: late ∧ concluded.Concludes id ∧
      concluded.operation = .conclude id (.error reason) ∧ ∀ later ∈ late, ¬ later.Releases id

/-- Whether an operation asks for the announcement. -/
def ExchangeOperation.announces : ExchangeOperation → Bool
  | .resync => true
  | _ => false

namespace Exchange

/-- An end stands as if no announcement had ever been asked for. -/
theorem operateAll_filter_announces (exchange : Exchange) (operations : List ExchangeOperation) :
    exchange.operateAll (operations.filter fun operation => !operation.announces) =
      exchange.operateAll operations := by
  induction operations generalizing exchange with
  | nil => rfl
  | cons operation operations ih =>
    cases operation with
    | resync => exact ih exchange
    | enqueue body ticket limit => exact ih (exchange.operate (.enqueue body ticket limit))
    | handle packet => exact ih (exchange.operate (.handle packet))
    | conclude id verdict => exact ih (exchange.operate (.conclude id verdict))

/-- An end that has sent and received nothing, and begins to number its messages anywhere. -/
def startingAt (start : MessageId) : Exchange := { new with nextId := start }

variable (start : MessageId) (operations : List ExchangeOperation)

theorem standings_history :
    Standings ((startingAt start).history operations) ((startingAt start).operateAll operations)
      ((startingAt start).operateAll operations).acks
      ((startingAt start).operateAll operations).refusals :=
  have empty : (startingAt start).InboundDistinct := List.nodup_nil
  have distinct := empty.operateAll operations
  { acked := mem_acks_iff distinct
    acksAscend := pairwise_acks distinct
    refused := mem_refusals_iff distinct
    refusalsAscend := pairwise_refusals distinct
    original := fun id reason listed =>
      exists_refuses empty (by simp [startingAt, new, disposition?])
        ((mem_refusals_iff distinct id reason).mp listed) }

/-- What is owed is left in the table, and sorting the table by the counters puts it in order,
however it is kept. -/
theorem messages_eq_owed :
    ((startingAt start).operateAll operations).messages =
        owed ((startingAt start).history operations) ∧
      ∀ table : List Outbound, table.Perm ((startingAt start).operateAll operations).outbound →
        (table.mergeSort fun one other => decide (one.sequence ≤ other.sequence)).filterMap
            Outbound.message? = owed ((startingAt start).history operations) := by
  have kept : ((startingAt start).operateAll operations).messages =
      owed ((startingAt start).history operations) :=
    messages_operateAll (startingAt start) operations
  have empty : (startingAt start).Numbered (· < ·) := ⟨.nil, fun _ listed => nomatch listed⟩
  have numbered := empty.operateAll (fun _ _ less => less) operations
  refine ⟨kept, fun table same => ?_⟩
  rw [mergeSort_key_of_perm Outbound.sequence numbered.pairwise same]
  exact kept

/-- **On a new stream just what is owed is said, in the order of sending.**  Saying it leaves no
trace: the end stands as it does without the announcements of the run. -/
theorem resync_history :
    let history := (startingAt start).history operations
    let last := (startingAt start).operateAll operations
    (∃ acks refusals,
      last.resync =
        .sync acks :: refusals.map (fun refusal => .nack refusal.1 refusal.2) ++
          (owed history).map (fun message => .data message.1 message.2) ∧
      Standings history last acks refusals) ∧
    (∀ table : List Outbound, table.Perm last.outbound →
      (table.mergeSort fun one other => decide (one.sequence ≤ other.sequence)).filterMap
        Outbound.message? = owed history) ∧
    (startingAt start).operateAll (operations.filter fun operation => !operation.announces) =
      last := by
  obtain ⟨kept, shuffled⟩ := messages_eq_owed start operations
  refine ⟨⟨_, _, ?_, standings_history start operations⟩, shuffled,
    operateAll_filter_announces (startingAt start) operations⟩
  rw [resync, nacks_eq, unconfirmed_eq, kept]

/-- The ids go round the cycle and leave out one that is taken; the answers come in any order. -/
example :
    owed ((startingAt (.ofNat 0xFFFFFE)).history
      [.enqueue [1] 1 9, .enqueue [2] 2 9, .enqueue [3] 3 9,
        .handle (.ackDelivered (.ofNat 0xFFFFFF)), .handle (.data (.ofNat 0) [8]),
        .enqueue [4] 4 9, .handle (.sync [⟨.received, .ofNat 0⟩])]) =
      [(.ofNat 0xFFFFFE, [1]), (.ofNat 1, [4])] := by
  decide

end Exchange

end Courier
