import Courier.Proofs.Pipe.History
import Mathlib.Data.List.Nodup

/-!
# The life of a message at its receiver

The peer may say anything at any time, and the receiver may end with any message when it
likes.  Still every id has one life cycle at the receiver, which only three things can
advance: data makes an unknown message a received one, the first verdict settles it, and
a release makes the receiver forget a message that is settled.  Nothing else counts:
data that comes again, later verdicts, and a release of a message that the receiver is
still at.  `ExchangeOperation.advance` is this cycle, and the inbound table follows it
through every history (`Exchange.disposition?_operateAll`).

So a message is handed over under the same id again only after a verdict on the first one
and a release after that, in this order (`HandedOnce`).
-/

namespace Courier

set_option autoImplicit false

/-! ## Entries of the inbound table -/

section Lookup

variable {inbound : List (MessageId × Disposition)} {id : MessageId}

theorem lookup?_concat (entry : MessageId × Disposition) :
    lookup? (inbound ++ [entry]) id =
      (lookup? inbound id).or (if entry.1 = id then some entry.2 else none) := by
  induction inbound with
  | nil => rw [List.nil_append, lookup?_cons]; rfl
  | cons first inbound ih =>
    rw [List.cons_append, lookup?_cons, lookup?_cons, ih]
    split <;> rfl

theorem lookup?_of_mem (distinct : (inbound.map Prod.fst).Nodup) {entry : MessageId × Disposition}
    (listed : entry ∈ inbound) : lookup? inbound entry.1 = some entry.2 := by
  induction inbound with
  | nil => cases listed
  | cons first inbound ih =>
    obtain ⟨fresh, distinct⟩ := List.nodup_cons.mp distinct
    rw [lookup?_cons]
    rcases List.mem_cons.mp listed with rfl | further
    · exact if_pos rfl
    · have different : first.1 ≠ entry.1 := fun same =>
        fresh (List.mem_map.mpr ⟨entry, further, same.symm⟩)
      rw [if_neg different]
      exact ih distinct further

/-- What is put down for one message is found under its id only. -/
theorem lookup?_map_replace (other : MessageId) (disposition : Disposition) :
    lookup? (inbound.map fun entry => if entry.1 = other then (other, disposition) else entry) id =
      (lookup? inbound id).map fun standing => if other = id then disposition else standing := by
  induction inbound with
  | nil => rfl
  | cons entry inbound ih =>
    rw [List.map_cons, lookup?_cons, lookup?_cons, ih]
    by_cases here : entry.1 = other
    · by_cases same : other = id <;> simp [here, same]
    · by_cases same : entry.1 = id
      · have different : other ≠ id := fun equal => here (same.trans equal.symm)
        simp [same, different, Ne.symm different]
      · simp [here, same]

/-- A release takes a settled message out, and leaves all others. -/
theorem lookup?_note_release (distinct : (inbound.map Prod.fst).Nodup) (other : MessageId) :
    lookup? ((Notice.release other).note inbound) id =
      if other = id ∧ lookup? inbound id ≠ some .received then none else lookup? inbound id := by
  simp only [Notice.note]
  induction inbound with
  | nil => simp [lookup?]
  | cons entry inbound ih =>
    obtain ⟨fresh, distinct⟩ := List.nodup_cons.mp distinct
    specialize ih distinct
    by_cases kept : entry.1 ≠ other ∨ entry.2 = .received
    · rw [List.filter_cons, if_pos (decide_eq_true kept), lookup?_cons, lookup?_cons]
      by_cases same : entry.1 = id
      · simp only [if_pos same]
        rcases kept with different | received
        · rw [if_neg fun both => different (same.trans both.1.symm)]
        · rw [received, if_neg fun both => both.2 rfl]
      · simpa only [if_neg same] using ih
    · rw [List.filter_cons, if_neg (mt of_decide_eq_true kept), ih, lookup?_cons]
      obtain ⟨rfl, settled⟩ : entry.1 = other ∧ entry.2 ≠ .received := by simpa using kept
      by_cases same : entry.1 = id
      · -- The table has this id only here, so nothing of it is left.
        have absent : lookup? inbound id = none := lookup?_eq_none_iff_not_mem.mpr (same ▸ fresh)
        simp [absent, same, settled]
      · simp [same]

/-- Data puts an unknown message down as received, and leaves a known one as it is. -/
theorem lookup?_note_data (other : MessageId) (body : Bytes) :
    lookup? ((Notice.data other body).note inbound) id =
      if other = id then some ((lookup? inbound id).getD .received) else lookup? inbound id := by
  simp only [Notice.note]
  cases known : lookup? inbound other with
  | some disposition =>
    by_cases same : other = id
    · simp [← same, known]
    · simp [same]
  | none =>
    simp only [lookup?_concat]
    by_cases same : other = id
    · simp [← same, known]
    · simp [same]

theorem nodup_note (distinct : (inbound.map Prod.fst).Nodup) (notice : Notice) :
    ((notice.note inbound).map Prod.fst).Nodup := by
  cases notice with
  | release other => exact distinct.sublist (List.filter_sublist.map _)
  | data other body =>
    simp only [Notice.note]
    cases known : lookup? inbound other with
    | some disposition => exact distinct
    | none =>
      have fresh : other ∉ inbound.map Prod.fst := lookup?_eq_none_iff_not_mem.mp known
      simpa using distinct.concat fresh

end Lookup

/-! ## The life cycle -/

/-- How far the receiver is with the message of an id after an operation, given how far it was. -/
def ExchangeOperation.advance (id : MessageId) (standing : Option Disposition) :
    ExchangeOperation → Option Disposition
  | .handle (.data other _) =>
    if other = id then some (standing.getD .received) else standing
  | .handle (.ackOfNack other) =>
    if other = id ∧ standing ≠ some .received then none else standing
  | .conclude other verdict =>
    if other = id ∧ standing = some .received then some (.ofVerdict verdict) else standing
  | _ => standing

/-- The steps of the life cycle, and what takes each of them. -/
inductive Turn (id : MessageId) (operation : ExchangeOperation) :
    Option Disposition → Option Disposition → Prop where
  | stay (standing : Option Disposition) : Turn id operation standing standing
  | arrive (body : Bytes) (data : operation = .handle (.data id body)) :
      Turn id operation none (some .received)
  | settle (verdict : Except String Unit) (concluding : operation = .conclude id verdict) :
      Turn id operation (some .received) (some (.ofVerdict verdict))
  | leave {disposition : Disposition} (released : operation = .handle (.ackOfNack id))
      (settled : disposition ≠ .received) : Turn id operation (some disposition) none

theorem ExchangeOperation.turn_advance (operation : ExchangeOperation) (id : MessageId)
    (standing : Option Disposition) :
    Turn id operation standing (operation.advance id standing) := by
  cases operation with
  | enqueue => exact .stay standing
  | resync => exact .stay standing
  | conclude other verdict =>
    simp only [advance]
    split
    · obtain ⟨rfl, rfl⟩ := ‹other = id ∧ standing = some .received›
      exact .settle verdict rfl
    · exact .stay standing
  | handle packet =>
    cases packet with
    | data other body =>
      simp only [advance]
      split
      · subst other
        cases standing with
        | none => exact .arrive body rfl
        | some disposition => exact .stay (some disposition)
      · exact .stay standing
    | ackOfNack other =>
      simp only [advance]
      split
      · obtain ⟨rfl, left⟩ := ‹other = id ∧ standing ≠ some .received›
        cases standing with
        | none => exact .stay none
        | some disposition => exact .leave rfl fun received => left (congrArg some received)
      · exact .stay standing
    | _ => exact .stay standing

namespace Exchange

variable {exchange : Exchange}

/-- No id stands twice in the inbound table. -/
def InboundDistinct (exchange : Exchange) : Prop := (exchange.inbound.map Prod.fst).Nodup

theorem conclude_cases (exchange : Exchange) (id : MessageId) (verdict : Except String Unit) :
    (exchange.disposition? id = some .received ∧
      exchange.conclude id verdict =
        (some ((Disposition.ofVerdict verdict).answer id),
          exchange.setDisposition id (.ofVerdict verdict))) ∨
    (exchange.disposition? id ≠ some .received ∧
      exchange.conclude id verdict = (none, exchange)) := by
  by_cases received : exchange.disposition? id = some .received
  · exact .inl ⟨received, exchange.conclude_of_received verdict received⟩
  · exact .inr ⟨received, exchange.conclude_of_settled verdict received⟩

theorem inbound_enqueue (exchange : Exchange) (body : Bytes) (ticket : Ticket) (limit : Nat) :
    (exchange.operate (.enqueue body ticket limit)).inbound = exchange.inbound := by
  by_cases full : limit ≤ exchange.outbound.length <;> simp [operate, enqueue, full]

theorem InboundDistinct.noteAll (distinct : exchange.InboundDistinct) (notices : List Notice) :
    ((Notice.noteAll exchange.inbound notices).map Prod.fst).Nodup := by
  unfold InboundDistinct at distinct
  generalize exchange.inbound = inbound at distinct
  induction notices generalizing inbound with
  | nil => exact distinct
  | cons notice notices ih => exact ih _ (nodup_note distinct notice)

theorem InboundDistinct.operate (distinct : exchange.InboundDistinct)
    (operation : ExchangeOperation) : (exchange.operate operation).InboundDistinct := by
  cases operation with
  | enqueue body ticket limit =>
    unfold InboundDistinct
    rwa [inbound_enqueue]
  | handle packet =>
    unfold InboundDistinct
    rw [Exchange.operate, (exchange.handle_handled packet).inbound]
    exact distinct.noteAll _
  | conclude id verdict =>
    have ids (disposition : Disposition) :
        (exchange.setDisposition id disposition).inbound.map Prod.fst =
          exchange.inbound.map Prod.fst := by
      simp only [setDisposition, List.map_map]
      refine List.map_congr_left fun entry _ => ?_
      by_cases same : entry.1 = id <;> simp [same]
    unfold InboundDistinct
    obtain ⟨-, done⟩ | ⟨-, done⟩ := exchange.conclude_cases id verdict
    · rw [Exchange.operate, done, ids]
      exact distinct
    · rw [Exchange.operate, done]
      exact distinct
  | resync => exact distinct

theorem InboundDistinct.operateAll (distinct : exchange.InboundDistinct)
    (operations : List ExchangeOperation) : (exchange.operateAll operations).InboundDistinct :=
  operateAll_invariant InboundDistinct (fun _ operation distinct => distinct.operate operation)
    distinct operations

theorem inboundDistinct_after (operations : List ExchangeOperation) :
    (new.operateAll operations).InboundDistinct :=
  have start : new.InboundDistinct := List.nodup_nil
  start.operateAll operations

/-- Every operation takes every id one step along the life cycle. -/
theorem disposition?_operate (distinct : exchange.InboundDistinct) (operation : ExchangeOperation)
    (id : MessageId) :
    (exchange.operate operation).disposition? id =
      operation.advance id (exchange.disposition? id) := by
  simp only [disposition?_eq_lookup?]
  cases operation with
  | enqueue body ticket limit =>
    rw [inbound_enqueue]
    rfl
  | handle packet =>
    rw [operate, (exchange.handle_handled packet).inbound]
    cases packet with
    | data other body => exact lookup?_note_data other body
    | ackOfNack other => exact lookup?_note_release distinct other
    | ackReceived other => rfl
    | ackDelivered other => rfl
    | nack other reason => rfl
    | sync acks => rfl
  | conclude other verdict =>
    obtain ⟨received, done⟩ | ⟨settled, done⟩ := exchange.conclude_cases other verdict
    · rw [operate, done, setDisposition, lookup?_map_replace]
      by_cases same : other = id
      · subst same
        rw [disposition?_eq_lookup?] at received
        simp [ExchangeOperation.advance, received]
      · simp [ExchangeOperation.advance, same]
    · rw [operate, done]
      by_cases same : other = id
      · subst same
        rw [disposition?_eq_lookup?] at settled
        simp [ExchangeOperation.advance, settled]
      · simp [ExchangeOperation.advance, same]
  | resync => rfl

/-- The inbound table follows the life cycle of every id through every history. -/
theorem disposition?_operateAll (distinct : exchange.InboundDistinct)
    (operations : List ExchangeOperation) (id : MessageId) :
    (exchange.operateAll operations).disposition? id =
      operations.foldl (ExchangeOperation.advance id) (exchange.disposition? id) := by
  induction operations generalizing exchange with
  | nil => rfl
  | cons operation operations ih =>
    rw [List.foldl_cons, ← disposition?_operate distinct]
    exact ih (distinct.operate operation)

end Exchange

/-! ## Turns of the life cycle -/

namespace ExchangeEvent

/-- A message is handed over under an id. -/
def HandsOver (id : MessageId) (event : ExchangeEvent) : Prop :=
  ∃ body, (id, body) ∈ event.reaction.deliveries

/-- The receiver ends with the message of an id, and a packet for the peer is returned. -/
def Concludes (id : MessageId) (event : ExchangeEvent) : Prop :=
  ∃ verdict, event.operation = .conclude id verdict ∧
    (event.before.conclude id verdict).1.isSome = true

/-- The peer says that it has retired the message of an id. -/
def Releases (id : MessageId) (event : ExchangeEvent) : Prop :=
  event.operation = .handle (.ackOfNack id)

variable {event : ExchangeEvent} {id : MessageId}

/-- What is answered to data, and what is handed over. -/
theorem reaction_data {body : Bytes} (data : event.operation = .handle (.data id body)) :
    event.reaction.answers =
        [((event.before.disposition? id).getD .received).answer id] ∧
      event.reaction.deliveries =
        if event.before.disposition? id = none then [(id, body)] else [] := by
  obtain ⟨exchange, operation⟩ := event
  cases data
  simp only [reaction, Exchange.handle, Exchange.onData]
  cases exchange.disposition? id <;> exact ⟨rfl, rfl⟩

/-- Only data of an unknown message is handed over. -/
theorem deliveries_eq_nil_or (event : ExchangeEvent) :
    event.reaction.deliveries = [] ∨
      ∃ id body, event.operation = .handle (.data id body) ∧
        event.before.disposition? id = none ∧ event.reaction.deliveries = [(id, body)] := by
  obtain ⟨exchange, operation⟩ := event
  cases operation with
  | handle packet =>
    cases packet with
    | data id body =>
      by_cases unknown : exchange.disposition? id = none
      · refine .inr ⟨id, body, rfl, unknown, ?_⟩
        exact (reaction_data rfl).2.trans (if_pos unknown)
      · exact .inl ((reaction_data rfl).2.trans (if_neg unknown))
    | sync acks => exact .inl (exchange.handle_handled (.sync acks)).deliveries
    | _ => exact .inl rfl
  | _ => exact .inl rfl

theorem HandsOver.unknown (handed : event.HandsOver id) :
    (∃ body, event.operation = .handle (.data id body)) ∧ event.before.disposition? id = none := by
  obtain ⟨body, delivered⟩ := handed
  rcases event.deliveries_eq_nil_or with nothing | ⟨other, payload, data, unknown, one⟩
  · rw [nothing] at delivered
    cases delivered
  · rw [one, List.mem_singleton, Prod.mk.injEq] at delivered
    obtain ⟨rfl, rfl⟩ := delivered
    exact ⟨⟨body, data⟩, unknown⟩

variable (distinct : event.before.InboundDistinct)

include distinct

theorem turn (id : MessageId) :
    Turn id event.operation (event.before.disposition? id) (event.after.disposition? id) := by
  rw [after, Exchange.disposition?_operate distinct]
  exact event.operation.turn_advance id _

theorem HandsOver.received (handed : event.HandsOver id) :
    event.after.disposition? id = some .received := by
  obtain ⟨⟨body, data⟩, unknown⟩ := handed.unknown
  rw [after, Exchange.disposition?_operate distinct, data, unknown]
  exact if_pos rfl

omit distinct in
theorem concludes_iff {verdict : Except String Unit}
    (concluding : event.operation = .conclude id verdict) :
    event.Concludes id ↔ event.before.disposition? id = some .received := by
  rcases event.before.conclude_cases id verdict with ⟨received, done⟩ | ⟨settled, done⟩
  · refine iff_of_true ⟨verdict, concluding, ?_⟩ received
    rw [done]
    rfl
  · refine iff_of_false ?_ settled
    rintro ⟨other, same, told⟩
    cases concluding.symm.trans same
    rw [done] at told
    cases told

omit distinct in
theorem Concludes.received (concluded : event.Concludes id) :
    event.before.disposition? id = some .received := by
  have ⟨verdict, concluding, _⟩ := concluded
  exact (concludes_iff concluding).mp concluded

/-- A verdict that counts settles the message. -/
theorem Concludes.settled {verdict : Except String Unit} (concluded : event.Concludes id)
    (concluding : event.operation = .conclude id verdict) :
    event.after.disposition? id = some (.ofVerdict verdict) := by
  rw [after, Exchange.disposition?_operate distinct, concluding]
  exact if_pos ⟨rfl, (concludes_iff concluding).mp concluded⟩

/-- A message that is with the receiver stays there until a verdict counts. -/
theorem concludes_of_leaves (received : event.before.disposition? id = some .received)
    (left : event.after.disposition? id ≠ some .received) :
    event.Concludes id ∧ ∃ verdict, event.after.disposition? id = some (.ofVerdict verdict) := by
  have turn := turn distinct id
  rw [received] at turn
  generalize event.after.disposition? id = standing at turn left ⊢
  cases turn with
  | stay => exact absurd rfl left
  | settle verdict concluding => exact ⟨(concludes_iff concluding).mpr received, verdict, rfl⟩
  | leave released settled => exact absurd rfl settled

/-- A message that is settled stays so until it is released. -/
theorem releases_of_leaves {disposition : Disposition} (settled : disposition ≠ .received)
    (standing : event.before.disposition? id = some disposition)
    (left : event.after.disposition? id ≠ some disposition) : event.Releases id := by
  have turn := turn distinct id
  rw [standing] at turn
  generalize event.after.disposition? id = standing at turn left
  cases turn with
  | stay => exact absurd rfl left
  | settle verdict concluding => exact absurd rfl settled
  | leave released => exact released

/-- A message that was not with the receiver is so only when it is handed over. -/
theorem handsOver_of_arrives (absent : event.before.disposition? id ≠ some .received)
    (received : event.after.disposition? id = some .received) : event.HandsOver id := by
  have turn := turn distinct id
  generalize before : event.before.disposition? id = standing at turn absent
  generalize event.after.disposition? id = following at turn received
  cases turn with
  | stay => exact absurd received absent
  | arrive body data =>
    refine ⟨body, ?_⟩
    rw [(reaction_data data).2, if_pos before]
    exact List.mem_singleton_self _
  | settle verdict concluding => exact absurd rfl absent
  | leave released settled => cases received

/-- A release of a message that the receiver is still at changes nothing at all. -/
theorem Releases.after_eq (released : event.Releases id)
    (received : event.before.disposition? id = some .received) : event.after = event.before := by
  obtain ⟨exchange, operation⟩ := event
  cases released
  have all : exchange.inbound.filter (fun entry => decide (entry.1 ≠ id ∨ entry.2 = .received)) =
      exchange.inbound := by
    refine List.filter_eq_self.mpr fun entry listed => decide_eq_true ?_
    by_cases same : entry.1 = id
    · have found := lookup?_of_mem distinct listed
      rw [same, ← Exchange.disposition?_eq_lookup?, received] at found
      exact .inr (Option.some.inj found).symm
    · exact .inl same
  simp only [after, Exchange.operate, Exchange.handle, Exchange.forget, all]

omit distinct in
/-- A verdict that does not count changes nothing. -/
theorem after_eq_of_not_concludes {verdict : Except String Unit}
    (concluding : event.operation = .conclude id verdict) (idle : ¬ event.Concludes id) :
    event.after = event.before := by
  have settled := mt (concludes_iff concluding).mpr idle
  rw [after, concluding, Exchange.operate, event.before.conclude_of_settled verdict settled]

omit distinct in
/-- Data of a message that is known changes nothing. -/
theorem after_eq_of_known {body : Bytes} (data : event.operation = .handle (.data id body))
    (known : event.before.disposition? id ≠ none) : event.after = event.before := by
  rw [after, data, Exchange.operate, Exchange.handle, Exchange.onData]
  cases standing : event.before.disposition? id with
  | none => exact absurd standing known
  | some disposition => rfl

end ExchangeEvent

/-! ## Whole histories -/

namespace Exchange

open ExchangeEvent

variable {exchange : Exchange} {id : MessageId} {operations : List ExchangeOperation}
  (distinct : exchange.InboundDistinct)

include distinct

theorem InboundDistinct.of_mem_history {event : ExchangeEvent}
    (happened : event ∈ exchange.history operations) : event.before.InboundDistinct := by
  obtain ⟨earlier, before⟩ := exists_of_mem_history happened
  rw [before]
  exact distinct.operateAll earlier

/-- A message that is settled at the beginning and not at the end has been released. -/
theorem exists_releases {disposition : Disposition} (settled : disposition ≠ .received)
    (standing : exchange.disposition? id = some disposition)
    (left : (exchange.operateAll operations).disposition? id ≠ some disposition) :
    ∃ event ∈ exchange.history operations, event.Releases id := by
  obtain ⟨early, event, rest, cut, before, after, -⟩ :=
    exists_change (fun exchange => exchange.disposition? id = some disposition) standing left
  have happened : event ∈ exchange.history operations := by simp [cut]
  exact ⟨event, happened,
    releases_of_leaves (distinct.of_mem_history happened) settled before after⟩

/-- A message that is with the receiver at the beginning and not at the end was concluded. -/
theorem exists_concludes (received : exchange.disposition? id = some .received)
    (left : (exchange.operateAll operations).disposition? id ≠ some .received) :
    ∃ early event rest, exchange.history operations = early ++ event :: event.after.history rest ∧
      event.Concludes id ∧ event.after.InboundDistinct ∧
      (∃ verdict, event.after.disposition? id = some (.ofVerdict verdict)) ∧
      event.after.operateAll rest = exchange.operateAll operations := by
  obtain ⟨early, event, rest, cut, before, after, last⟩ :=
    exists_change (fun exchange => exchange.disposition? id = some .received) received left
  have happened : event ∈ exchange.history operations := by simp [cut]
  have distinct := distinct.of_mem_history happened
  obtain ⟨concluded, settled⟩ := concludes_of_leaves distinct before after
  exact ⟨early, event, rest, cut, concluded, distinct.operate event.operation, settled, last⟩

/-- A message that is with the receiver at the beginning and unknown at the end was concluded, and
released after that. -/
theorem exists_concludes_releases (received : exchange.disposition? id = some .received)
    (gone : (exchange.operateAll operations).disposition? id = none) :
    ∃ concluded released, [concluded, released].Sublist (exchange.history operations) ∧
      concluded.Concludes id ∧ released.Releases id := by
  have left : (exchange.operateAll operations).disposition? id ≠ some .received := by simp [gone]
  obtain ⟨early, concluded, rest, cut, concludes, distinct, ⟨verdict, settled⟩, last⟩ :=
    exists_concludes distinct received left
  have forgotten : (concluded.after.operateAll rest).disposition? id ≠
      some (.ofVerdict verdict) := by simp [last, gone]
  obtain ⟨released, later, releases⟩ :=
    exists_releases distinct (Disposition.ofVerdict_ne_received verdict) settled forgotten
  refine ⟨concluded, released, ?_, concludes, releases⟩
  rw [cut]
  exact ((List.singleton_sublist.mpr later).cons_cons concluded).trans
    (List.sublist_append_right early _)

/-- A message that was not with the receiver at the beginning, and is at the end, was handed over.
-/
theorem exists_handsOver (absent : exchange.disposition? id ≠ some .received)
    (received : (exchange.operateAll operations).disposition? id = some .received) :
    ∃ event ∈ exchange.history operations, event.HandsOver id := by
  obtain ⟨early, event, rest, cut, before, after, -⟩ :=
    exists_change (fun exchange => exchange.disposition? id ≠ some .received) absent
      (not_not.mpr received)
  have happened : event ∈ exchange.history operations := by simp [cut]
  exact ⟨event, happened,
    handsOver_of_arrives (distinct.of_mem_history happened) before (not_not.mp after)⟩

end Exchange

/-- What holds of a history of messages that arrive, whatever the peer says and whenever the
receiver ends with them. -/
structure HandedOnce (history : List ExchangeEvent) : Prop where
  /-- One packet hands over one message at most. -/
  single : ∀ event ∈ history, event.reaction.deliveries.length ≤ 1
  /-- Between two hand-overs under one id a verdict is told to the peer, and after that the peer
  releases the message. -/
  apart : ∀ id first between second, first :: (between ++ [second]) <:+: history →
    first.HandsOver id → second.HandsOver id →
    ∃ concluded released, [concluded, released].Sublist between ∧
      concluded.Concludes id ∧ released.Releases id
  /-- While the receiver is at a message, its entry stands, and a release changes nothing. -/
  held : ∀ id first between event, first :: (between ++ [event]) <:+: history →
    first.HandsOver id → (∀ earlier ∈ between, ¬ earlier.Concludes id) →
    event.before.disposition? id = some .received ∧
      (event.Releases id → event.after = event.before)
  /-- The first verdict after a hand-over is put down, and told to the peer. -/
  first : ∀ id first between event verdict, first :: (between ++ [event]) <:+: history →
    first.HandsOver id → (∀ earlier ∈ between, ¬ earlier.Concludes id) →
    event.operation = .conclude id verdict →
    (event.before.conclude id verdict).1 =
        some (match verdict with
          | .ok () => .ackDelivered id
          | .error reason => .nack id reason) ∧
      event.after.disposition? id =
        some (match verdict with
          | .ok () => .delivered
          | .error reason => .refused reason)
  /-- A verdict that was told stands until the peer releases the message. -/
  fixed : ∀ id verdict concluded between event, concluded :: (between ++ [event]) <:+: history →
    concluded.Concludes id → concluded.operation = .conclude id verdict →
    (∀ later ∈ between, ¬ later.Releases id) →
    event.before.disposition? id = some (.ofVerdict verdict)
  /-- Until another message is handed over under the id, later verdicts are not told and change
  nothing. -/
  later : ∀ id verdict concluded between event, concluded :: (between ++ [event]) <:+: history →
    concluded.Concludes id → event.operation = .conclude id verdict →
    (∀ other ∈ between, ¬ other.HandsOver id) →
    (event.before.conclude id verdict).1 = none ∧ event.after = event.before
  /-- Data is answered by one packet, which says how far the receiver is; if the message was known,
  nothing else happens. -/
  answered : ∀ id body event, event ∈ history → event.operation = .handle (.data id body) →
    ∃ disposition, event.after.disposition? id = some disposition ∧
      event.reaction.answers =
        [match disposition with
          | .received => .ackReceived id
          | .delivered => .ackDelivered id
          | .refused reason => .nack id reason] ∧
      (event.before.disposition? id = none →
        disposition = .received ∧ event.reaction.deliveries = [(id, body)]) ∧
      (event.before.disposition? id ≠ none →
        event.reaction.deliveries = [] ∧ event.after = event.before)

namespace Exchange

open ExchangeEvent

variable {operations : List ExchangeOperation}

theorem exists_of_stretch_new {first last : ExchangeEvent} {between : List ExchangeEvent}
    (stretch : first :: (between ++ [last]) <:+: new.history operations) :
    ∃ within, first.before.InboundDistinct ∧ first.after.InboundDistinct ∧
      first.after.history within = between ∧ last.before = first.after.operateAll within := by
  obtain ⟨earlier, within, before, between, last⟩ := exists_of_stretch stretch
  have distinct : first.before.InboundDistinct := before ▸ inboundDistinct_after earlier
  exact ⟨within, distinct, distinct.operate first.operation, between, last⟩

/-- What was handed over is with the receiver until a verdict counts. -/
theorem received_of_handsOver {id : MessageId} {first event : ExchangeEvent}
    {between : List ExchangeEvent}
    (stretch : first :: (between ++ [event]) <:+: new.history operations)
    (handed : first.HandsOver id) (working : ∀ earlier ∈ between, ¬ earlier.Concludes id) :
    event.before.InboundDistinct ∧ event.before.disposition? id = some .received := by
  obtain ⟨within, before, after, rfl, last⟩ := exists_of_stretch_new stretch
  refine ⟨last ▸ after.operateAll within, ?_⟩
  by_contra left
  obtain ⟨early, concluded, rest, cut, concludes, -⟩ :=
    exists_concludes after (handed.received before) (last ▸ left)
  exact working concluded (by simp [cut]) concludes

/-- **At most once, whatever the peer says.** -/
theorem handedOnce_history (operations : List ExchangeOperation) :
    HandedOnce (new.history operations) where
  single event happened := by
    rcases event.deliveries_eq_nil_or with nothing | ⟨id, body, -, -, one⟩
    · simp [nothing]
    · simp [one]
  apart id first between second stretch handed again := by
    obtain ⟨within, before, after, rfl, last⟩ := exists_of_stretch_new stretch
    exact exists_concludes_releases after (handed.received before) (last ▸ again.unknown.2)
  held id first between event stretch handed working := by
    obtain ⟨distinct, received⟩ := received_of_handsOver stretch handed working
    exact ⟨received, fun released => released.after_eq distinct received⟩
  first id first between event verdict stretch handed working concluding := by
    obtain ⟨distinct, received⟩ := received_of_handsOver stretch handed working
    have concludes : event.Concludes id := (concludes_iff concluding).mpr received
    have settled := concludes.settled distinct concluding
    have told := event.before.conclude_of_received verdict received
    cases verdict with
    | ok _ => exact ⟨congrArg Prod.fst told, settled⟩
    | error reason => exact ⟨congrArg Prod.fst told, settled⟩
  fixed id verdict concluded between event stretch concludes concluding kept := by
    obtain ⟨within, before, after, rfl, last⟩ := exists_of_stretch_new stretch
    by_contra left
    obtain ⟨released, among, releases⟩ :=
      exists_releases after (Disposition.ofVerdict_ne_received verdict)
        (concludes.settled before concluding) (last ▸ left)
    exact kept released among releases
  later id verdict concluded between event stretch concludes concluding none := by
    obtain ⟨within, before, after, rfl, last⟩ := exists_of_stretch_new stretch
    have absent : concluded.after.disposition? id ≠ some .received := by
      have ⟨told, ending, _⟩ := concludes
      rw [concludes.settled before ending]
      exact fun same => Disposition.ofVerdict_ne_received told (Option.some.inj same)
    have settled : event.before.disposition? id ≠ some .received := by
      intro received
      obtain ⟨handed, among, handsOver⟩ := exists_handsOver after absent (last ▸ received)
      exact none handed among handsOver
    refine ⟨?_, after_eq_of_not_concludes concluding fun counts => settled counts.received⟩
    rw [event.before.conclude_of_settled verdict settled]
  answered id body event happened data := by
    have distinct := (inboundDistinct_after []).of_mem_history happened
    obtain ⟨answers, deliveries⟩ := reaction_data data
    refine ⟨(event.before.disposition? id).getD .received, ?_, ?_, fun unknown => ?_,
      fun known => ?_⟩
    · rw [after, disposition?_operate distinct, data]
      exact if_pos rfl
    · rw [answers]
      cases (event.before.disposition? id).getD .received <;> rfl
    · rw [deliveries, unknown]
      exact ⟨rfl, rfl⟩
    · rw [deliveries, if_neg known]
      exact ⟨rfl, after_eq_of_known data known⟩

/-- A release before the verdict is of no effect; after verdict and release the id is new. -/
theorem handedOnce_history_refused :
    let id := MessageId.ofNat 7
    let operations : List ExchangeOperation :=
      [.handle (.data id [1]), .handle (.ackOfNack id), .handle (.data id [2]),
        .conclude id (.error "full"), .conclude id (.ok ()), .handle (.data id [3]),
        .handle (.ackOfNack id), .handle (.data id [4])]
    HandedOnce (new.history operations) ∧
      (new.history operations).map
          (fun event => (event.reaction.answers, event.reaction.deliveries)) =
        [([.ackReceived id], [(id, [1])]), ([], []), ([.ackReceived id], []), ([], []), ([], []),
          ([.nack id "full"], []), ([], []), ([.ackReceived id], [(id, [4])])] :=
  ⟨handedOnce_history _, by decide⟩

end Exchange

end Courier
