import Courier.Proofs.Numbering
import Courier.Proofs.Pipe.Operations

/-!
# Two pipes on one stream that loses nothing

Where nothing is ever lost, the exchange of acknowledgements is a queue, and the ids
need not suffice for more than the messages that are underway: an id is given out
again as soon as its message has its final answer.

So the message of a place is no longer found by its id, and a course carries with it
the list of the ids in the order in which they were given out.  Five numbers divide
this list, each at most the next one: how many messages the receiver has forgotten,
how many were reported, how many have a receipt, how many have been handed over and
how many have arrived.  Every table and everything in flight is a part of the list
between two of these numbers.
-/

namespace Courier

set_option autoImplicit false

/-! ## Parts of lists -/

section Parts

variable {α β : Type}

theorem getElem?_of_cons_eq_drop {first : α} {rest whole : List α} {count : Nat}
    (front : first :: rest = whole.drop count) :
    whole[count]? = some first ∧ rest = whole.drop (count + 1) := by
  refine ⟨?_, ?_⟩
  · have head := congrArg (·[0]?) front
    simpa using head.symm
  · have tail := congrArg List.tail front
    simpa using tail

theorem drop_take_append (whole : List α) {low middle high : Nat} (first : low ≤ middle)
    (second : middle ≤ high) :
    (whole.take middle).drop low ++ (whole.take high).drop middle = (whole.take high).drop low := by
  have split : (whole.take high).take middle = whole.take middle := by
    rw [List.take_take, Nat.min_eq_left second]
  conv_rhs => rw [← List.take_append_drop middle (whole.take high), split]
  by_cases bound : low ≤ (whole.take middle).length
  · rw [List.drop_append_of_le_length bound]
  · have short : whole.length ≤ middle := by
      rw [List.length_take] at bound
      omega
    have nothing : (whole.take high).drop middle = [] :=
      List.drop_eq_nil_of_le (Nat.le_trans (List.length_take_le' _ _) short)
    rw [nothing, List.append_nil, List.append_nil]

theorem drop_take_succ {whole : List α} {item : α} {low high : Nat} (order : low ≤ high)
    (found : whole[high]? = some item) :
    (whole.take (high + 1)).drop low = (whole.take high).drop low ++ [item] := by
  have bound := (List.getElem?_eq_some_iff.mp found).1
  rw [List.take_add_one, found, Option.toList_some, List.drop_append_of_le_length]
  rw [List.length_take]
  omega

theorem zip_concat_left {first : List α} {second : List β} (item : α)
    (short : second.length ≤ first.length) : (first ++ [item]).zip second = first.zip second := by
  induction second generalizing first with
  | nil => simp
  | cons other second ih =>
    cases first with
    | nil => simp at short
    | cons one first => simp [ih (Nat.le_of_succ_le_succ short)]

theorem zip_concat_right {first : List α} {second : List β} {item : α} (other : β)
    (found : first[second.length]? = some item) :
    first.zip (second ++ [other]) = first.zip second ++ [(item, other)] := by
  induction second generalizing first with
  | nil =>
    cases first with
    | nil => simp at found
    | cons one first => simpa using found
  | cons one second ih =>
    cases first with
    | nil => simp at found
    | cons head first => simp [ih (by simpa using found)]

theorem isPrefix_concat {part whole : List α} {item : α} (front : part <+: whole)
    (next : whole[part.length]? = some item) : part ++ [item] <+: whole := by
  obtain ⟨rest, rfl⟩ := front
  cases rest with
  | nil => simp at next
  | cons other rest =>
    obtain rfl : other = item := by simpa using next
    exact ⟨rest, by simp⟩

theorem mem_drop_of_le {whole : List α} {item : α} {low high : Nat} (order : low ≤ high)
    (member : item ∈ whole.drop high) : item ∈ whole.drop low :=
  (List.drop_suffix_drop_left whole order).subset member

theorem map_fst_zip (first : List α) (second : List β) (short : second.length ≤ first.length) :
    (first.zip second).map Prod.fst = first.take second.length := by
  induction second generalizing first with
  | nil => simp
  | cons item second ih =>
    cases first with
    | nil => simp at short
    | cons other first => simp [ih first (Nat.le_of_succ_le_succ short)]

end Parts

/-! ## What is in flight -/

/-- The message that a notice brings. -/
def Notice.message? : Notice → Option (MessageId × Bytes)
  | data id body => some (id, body)
  | release _ => none

namespace Course

variable {course : Course} {stream : StreamId} {ids : List MessageId} {released : Nat}

def verdicts (course : Course) : List (Except String Unit) := course.receipts.map Receipt.verdict

/-- What those who wait for the messages with a receipt are told in the end. -/
def tidings (course : Course) (ids : List MessageId) : List (Ticket × Outcome) :=
  (ids.zip course.verdicts).mapIdx fun place settled => (place, settled.1.outcome settled.2)

/-- The inbound table: first the messages with a receipt, then those without. -/
def table (course : Course) (ids : List MessageId) (released : Nat) :
    List (MessageId × Disposition) :=
  ((ids.zip course.verdicts).drop released).map (fun entry => (entry.1, .ofVerdict entry.2)) ++
    ((ids.take course.received).drop course.receipts.length).map fun id => (id, .received)

/-! ## The invariant -/

/-- The sender has yet to attach the stream. -/
structure Apart (course : Course) (stream : StreamId) (ids : List MessageId) : Prop where
  streams : course.senderStreams = []
  detached : course.senderStream = none
  silent : (course.forth stream).inFlight = []
  untouched : course.received = 0
  bodies : course.unconfirmed =
    (ids.zip course.accepted).map fun message => .data message.1 message.2

/-- The sender has attached the stream, on which all is in flight that has not arrived. -/
structure Joined (course : Course) (stream : StreamId) (ids : List MessageId) : Prop where
  streams : course.senderStreams ≠ []
  attached : course.senderStream = some stream
  carried : (course.forth stream).inFlight.filterMap Notice.message? =
    (ids.zip course.accepted).drop course.received

/-- What holds of a course on a stream that loses nothing, where so many messages are forgotten. -/
structure Steady (course : Course) (stream : StreamId) (ids : List MessageId) (released : Nat) :
    Prop where
  senderOpen : course.senderOpen = true
  receiverOpen : course.receiverOpen = true
  forthWhole : (course.forth stream).whole = true
  backWhole : (course.back stream).whole = true
  named : ids.length = course.accepted.length
  inOrder : course.handed ++ course.waiting.map Prod.snd = course.accepted.take course.received
  numbered : course.waiting.map Prod.fst = (ids.take course.received).drop course.handed.length
  idle : course.busy = none → course.receipts.length = course.handed.length
  engaged : ∀ id, course.busy = some id →
    ids[course.receipts.length]? = some id ∧ course.receipts.length + 1 = course.handed.length
  listed : course.outbound.map (fun entry => (entry.id, entry.ticket)) =
    ids.zipIdx.drop course.reports.length
  told : course.reports <+: course.tidings ids
  settled : (course.back stream).inFlight.filterMap Answer.settled? =
    (ids.zip course.verdicts).drop course.reports.length
  fresh : (ids.drop course.reports.length).Nodup
  known : course.inbound = course.table ids released
  distinct : ((ids.take course.received).drop released).Nodup
  releases : (course.forth stream).inFlight.filterMap Notice.released? =
    (ids.take course.reports.length).drop released
  /-- An id is given out again only after its release has been written. -/
  order : (course.forth stream).inFlight.Pairwise fun earlier later =>
    ∀ id body, earlier = .data id body → later ≠ .release id
  released_le : released ≤ course.reports.length
  sending : course.Apart stream ids ∨ course.Joined stream ids
  receiving : course.receiverStreams = [] ∧ course.receiverStream = none ∧ course.received = 0 ∨
    course.receiverStream = some stream

/-! ## The five numbers -/

@[simp] theorem length_verdicts (course : Course) :
    course.verdicts.length = course.receipts.length := List.length_map ..

theorem length_tidings (course : Course) (ids : List MessageId) :
    (course.tidings ids).length = min ids.length course.receipts.length := by
  simp [tidings]

theorem Steady.received_le (steady : course.Steady stream ids released) :
    course.received ≤ course.accepted.length := by
  have lengths := congrArg List.length steady.inOrder
  simp only [List.length_append, List.length_map, List.length_take] at lengths
  unfold received at lengths ⊢
  omega

theorem Steady.receipts_le (steady : course.Steady stream ids released) :
    course.receipts.length ≤ course.handed.length := by
  cases busy : course.busy with
  | none => exact Nat.le_of_eq (steady.idle busy)
  | some id =>
    obtain ⟨_, next⟩ := steady.engaged id busy
    omega

theorem Steady.receipts_le_received (steady : course.Steady stream ids released) :
    course.receipts.length ≤ course.received :=
  Nat.le_trans steady.receipts_le (Nat.le_add_right _ _)

theorem Steady.receipts_le_ids (steady : course.Steady stream ids released) :
    course.receipts.length ≤ ids.length :=
  steady.named ▸ Nat.le_trans steady.receipts_le_received steady.received_le

theorem Steady.reports_le (steady : course.Steady stream ids released) :
    course.reports.length ≤ course.receipts.length := by
  have bound := steady.told.length_le
  rw [length_tidings] at bound
  omega

theorem Steady.outboundIds (steady : course.Steady stream ids released) :
    course.outbound.map (fun entry => entry.id) = ids.drop course.reports.length := by
  have ids' := congrArg (List.map Prod.fst) steady.listed
  rw [List.map_map, List.map_drop, List.zipIdx_map_fst] at ids'
  exact ids'

theorem Steady.inboundIds (steady : course.Steady stream ids released) :
    course.inbound.map Prod.fst = (ids.take course.received).drop released := by
  have first := map_fst_zip ids course.verdicts
    (by simpa using steady.receipts_le_ids)
  have parts := drop_take_append ids
    (Nat.le_trans steady.released_le steady.reports_le) steady.receipts_le_received
  rw [steady.known, table, List.map_append, List.map_map, List.map_map]
  rw [← parts]
  congr 1
  · rw [← length_verdicts, ← first, List.map_drop]
    rfl
  · exact List.map_id _

/-! ## Changes at the sender -/

/-- What the sender writes is in flight behind the rest. -/
theorem Joined.put (joined : course.Joined stream ids) (whole : (course.forth stream).whole = true)
    (items : List Notice) :
    (Lane.put course.forth course.senderStream items stream).inFlight =
      (course.forth stream).inFlight ++ items := by
  simp [joined.attached, Lane.put, Lane.write, whole]

theorem zip_enter {accepted : List Bytes} (named : ids.length = accepted.length) (id : MessageId)
    (body : Bytes) :
    (ids ++ [id]).zip (accepted ++ [body]) = ids.zip accepted ++ [(id, body)] := by
  rw [List.zip_append named]
  rfl

theorem Apart.enter (apart : course.Apart stream ids) (named : ids.length = course.accepted.length)
    (id : MessageId) (body : Bytes) : (course.enter id body).Apart stream (ids ++ [id]) := by
  refine { apart with silent := ?_, bodies := ?_ }
  · simp only [Course.enter, apart.detached, Lane.put_none]
    exact apart.silent
  · simp only [Course.enter, zip_enter named, List.map_append, ← apart.bodies, Course.unconfirmed,
      List.filterMap_append]
    rfl

theorem Joined.enter (joined : course.Joined stream ids)
    (whole : (course.forth stream).whole = true) (named : ids.length = course.accepted.length)
    (arrived : course.received ≤ ids.length) (id : MessageId) (body : Bytes) :
    (course.enter id body).Joined stream (ids ++ [id]) := by
  refine { joined with carried := ?_ }
  simp only [Course.enter, joined.put whole, List.filterMap_append, joined.carried,
    zip_enter named]
  rw [List.drop_append_of_le_length]
  · rfl
  · rw [List.length_zip, ← named, Nat.min_self]
    exact arrived

/-- What is entered is written at once, or not before a stream is attached. -/
theorem Steady.forth_enter (steady : course.Steady stream ids released) (id : MessageId)
    (body : Bytes) :
    ∃ written, (∀ notice ∈ written, notice = Notice.data id body) ∧
      ((course.enter id body).forth stream).inFlight =
        (course.forth stream).inFlight ++ written := by
  rcases steady.sending with apart | joined
  · refine ⟨[], by simp, ?_⟩
    simp only [Course.enter, apart.detached, Lane.put_none, List.append_nil]
  · exact ⟨[.data id body], by simp, joined.put steady.forthWhole _⟩

/-- A message that is entered releases none, and its own release is not in flight yet. -/
theorem Steady.order_enter (steady : course.Steady stream ids released) (id : MessageId)
    (body : Bytes) :
    ((course.enter id body).forth stream).inFlight.filterMap Notice.released? =
        (course.forth stream).inFlight.filterMap Notice.released? ∧
      ((course.enter id body).forth stream).inFlight.Pairwise fun earlier later =>
        ∀ other content, earlier = .data other content → later ≠ .release other := by
  obtain ⟨written, messages, forth⟩ := steady.forth_enter id body
  have apart : ∀ notice ∈ written, ∀ other, notice ≠ .release other := by
    rintro notice listed other rfl
    cases messages _ listed
  rw [forth]
  constructor
  · have none : written.filterMap Notice.released? = [] := by
      refine List.filterMap_eq_nil_iff.mpr fun notice listed => ?_
      rw [messages notice listed]
      rfl
    rw [List.filterMap_append, none, List.append_nil]
  · refine List.pairwise_append.mpr ⟨steady.order, ?_, ?_⟩
    · exact List.pairwise_of_forall_mem_list fun _ _ later listed other _ _ =>
        apart later listed other
    · exact fun _ _ later listed other _ _ => apart later listed other

/-- A message is entered under an id that no message without a final answer has. -/
theorem Steady.enter (steady : course.Steady stream ids released) (body : Bytes) {id : MessageId}
    (free : id ∉ course.outbound.map fun entry => entry.id) :
    (course.enter id body).Steady stream (ids ++ [id]) released := by
  have received := steady.received_le
  have reports := steady.reports_le
  have receipts := steady.receipts_le_ids
  rw [← steady.named] at received
  have verdicts : (ids ++ [id]).zip course.verdicts = ids.zip course.verdicts :=
    zip_concat_left id (by simpa using receipts)
  have arrived : (ids ++ [id]).take course.received = ids.take course.received :=
    List.take_append_of_le_length received
  have told : (ids ++ [id]).take course.reports.length = ids.take course.reports.length :=
    List.take_append_of_le_length (Nat.le_trans reports receipts)
  have same : (course.enter id body).verdicts = course.verdicts := rfl
  have table : (course.enter id body).table (ids ++ [id]) released = course.table ids released := by
    simp only [Course.table, same, verdicts]
    congr 2
    exact congrArg (List.drop _) arrived
  have tidings : (course.enter id body).tidings (ids ++ [id]) = course.tidings ids := by
    simp only [Course.tidings, same, verdicts]
  obtain ⟨releases, order⟩ := steady.order_enter id body
  refine
    { senderOpen := steady.senderOpen
      receiverOpen := steady.receiverOpen
      forthWhole := ?_
      backWhole := steady.backWhole
      named := by simp [Course.enter, steady.named]
      inOrder := ?_
      numbered := steady.numbered.trans (congrArg (List.drop _) arrived.symm)
      idle := steady.idle
      engaged := ?_
      listed := ?_
      told := tidings ▸ steady.told
      settled := steady.settled.trans (congrArg (List.drop _) verdicts.symm)
      fresh := ?_
      known := table ▸ steady.known
      distinct := (congrArg (fun names => (names.drop released).Nodup) arrived).mpr steady.distinct
      releases := (releases.trans steady.releases).trans (congrArg (List.drop _) told.symm)
      order := order
      released_le := steady.released_le
      sending := steady.sending.imp (fun apart => apart.enter steady.named id body)
        fun joined => joined.enter steady.forthWhole steady.named received id body
      receiving := steady.receiving }
  · simp only [Course.enter, Lane.put_whole]
    exact steady.forthWhole
  · refine steady.inOrder.trans ?_
    exact (List.take_append_of_le_length steady.received_le).symm
  · intro engaged busy
    obtain ⟨found, next⟩ := steady.engaged engaged busy
    refine ⟨?_, next⟩
    exact (List.getElem?_append_left (List.getElem?_eq_some_iff.mp found).1).trans found
  · simp only [Course.enter, List.map_append, steady.listed, List.map_cons, List.map_nil,
      List.zipIdx_append, List.zipIdx_singleton]
    rw [List.drop_append_of_le_length (by simp; omega), steady.named]
    simp
  · simp only [Course.enter]
    rw [List.drop_append_of_le_length (by omega), List.nodup_append]
    refine ⟨steady.fresh, List.nodup_singleton id, ?_⟩
    rintro first listed second last rfl
    rw [List.mem_singleton.mp last, ← steady.outboundIds] at listed
    exact free listed

/-- What is sent for the first time brings the messages in their order and releases none. -/
theorem filterMap_message?_bodies (messages : List (MessageId × Bytes)) :
    (messages.map fun message => Notice.data message.1 message.2).filterMap Notice.message? =
      messages := by
  induction messages with
  | nil => rfl
  | cons message messages ih =>
    simp only [List.map_cons, List.filterMap_cons, Notice.message?, ih]

theorem filterMap_released?_bodies (messages : List (MessageId × Bytes)) :
    (messages.map fun message => Notice.data message.1 message.2).filterMap Notice.released? =
      [] := by
  simp [List.filterMap_map, Notice.released?]

/-- The sender attaches the stream. -/
theorem Steady.senderAttach (steady : course.Steady stream ids released)
    (first : course.senderStreams = []) :
    (course.senderAttach stream).Steady stream ids released := by
  have apart : course.Apart stream ids := by
    rcases steady.sending with apart | joined
    · exact apart
    · exact absurd first joined.streams
  have sent : ((course.senderAttach stream).forth stream).inFlight =
      (ids.zip course.accepted).map fun message => .data message.1 message.2 := by
    simp [Course.senderAttach, Lane.put, Lane.write, steady.forthWhole, apart.silent, apart.bodies]
  have nothing : course.reports.length = 0 := by
    have := steady.reports_le
    have := steady.receipts_le_received
    have := apart.untouched
    omega
  refine { steady with
    forthWhole := ?_, releases := ?_, order := ?_,
    sending := .inr ⟨by simp [Course.senderAttach], rfl, ?_⟩ }
  · simp only [Course.senderAttach, Lane.put_whole]
    exact steady.forthWhole
  · rw [sent, filterMap_released?_bodies]
    simp [Course.senderAttach, nothing]
  · rw [sent, List.pairwise_map]
    exact List.pairwise_of_forall fun _ _ _ _ _ same => by cases same
  · rw [sent, filterMap_message?_bodies]
    exact (congrArg (fun count => (ids.zip course.accepted).drop count) apart.untouched).symm

theorem Steady.joined (steady : course.Steady stream ids released)
    (attached : course.senderStreams ≠ []) : course.Joined stream ids := by
  rcases steady.sending with apart | joined
  · exact absurd apart.streams attached
  · exact joined

/-- The sender hears that a message has been stored. -/
theorem Steady.hear_stored (steady : course.Steady stream ids released) {id : MessageId}
    {rest : List Answer} (front : (course.back stream).inFlight = .stored id :: rest)
    (attached : course.senderStreams ≠ []) :
    (course.hear stream (.stored id)).Steady stream ids released := by
  have joined := steady.joined attached
  have reports : (course.hear stream (.stored id)).reports = course.reports := List.append_nil _
  have forth : (course.hear stream (.stored id)).forth = course.forth := Lane.put_nil _ _
  refine { steady with
    forthWhole := forth ▸ steady.forthWhole
    backWhole := ?_
    listed := ?_
    told := reports ▸ steady.told
    settled := ?_
    fresh := reports ▸ steady.fresh
    releases := forth ▸ reports ▸ steady.releases
    order := forth ▸ steady.order
    released_le := reports ▸ steady.released_le
    sending := .inr { joined with carried := forth ▸ joined.carried } }
  · simp only [Course.hear, Function.update_self, Lane.pop]
    exact steady.backWhole
  · rw [reports, ← steady.listed, Course.hear, Answer.settle, List.map_map]
    refine List.map_congr_left fun entry _ => ?_
    by_cases same : entry.id = id <;> simp [same]
  · have said := steady.settled
    have back : ((course.hear stream (.stored id)).back stream).inFlight = rest := by
      simp [Course.hear, Lane.pop, front]
    rw [front] at said
    rw [back, reports]
    exact said

/-- The first final answer in flight is that of the first message without one. -/
theorem Steady.first_settled (steady : course.Steady stream ids released) {id : MessageId}
    {verdict : Except String Unit} {rest : List Answer}
    (front : (course.back stream).inFlight = .settled id verdict :: rest) :
    (ids.zip course.verdicts)[course.reports.length]? = some (id, verdict) ∧
      rest.filterMap Answer.settled? =
        (ids.zip course.verdicts).drop (course.reports.length + 1) := by
  have said := steady.settled
  rw [front, List.filterMap_cons] at said
  exact getElem?_of_cons_eq_drop said

/-- That message is the first of the outbound table, and alone under its id. -/
theorem Steady.outbound_eq_cons (steady : course.Steady stream ids released) {id : MessageId}
    (named : ids[course.reports.length]? = some id) :
    ∃ entry entries, course.outbound = entry :: entries ∧ entry.id = id ∧
      entry.ticket = course.reports.length ∧
      entries.map (fun entry => (entry.id, entry.ticket)) =
        ids.zipIdx.drop (course.reports.length + 1) ∧
      ∀ other ∈ entries, other.id ≠ id := by
  have listed := steady.listed
  have place : ids.zipIdx[course.reports.length]? = some (id, course.reports.length) := by
    simp [List.getElem?_zipIdx, named]
  rw [List.drop_eq_getElem_cons (List.getElem?_eq_some_iff.mp place).1,
    (List.getElem?_eq_some_iff.mp place).2] at listed
  obtain ⟨entry, entries, split, first, remaining⟩ := List.map_eq_cons_iff.mp listed
  obtain ⟨rfl, ticket⟩ := Prod.mk.inj first
  have fresh := steady.fresh
  rw [← steady.outboundIds, split, List.map_cons, List.nodup_cons] at fresh
  exact ⟨entry, entries, split, rfl, ticket, remaining, fun other member same =>
    fresh.1 (List.mem_map.mpr ⟨other, member, same⟩)⟩

/-- No message that is still on its way has its id. -/
theorem Steady.not_carried (steady : course.Steady stream ids released)
    (joined : course.Joined stream ids) {id : MessageId}
    (named : ids[course.reports.length]? = some id)
    (bound : course.reports.length < course.receipts.length) (body : Bytes) :
    Notice.data id body ∉ (course.forth stream).inFlight := by
  intro inFlight
  have carried : (id, body) ∈ (ids.zip course.accepted).drop course.received := by
    rw [← joined.carried]
    exact List.mem_filterMap.mpr ⟨_, inFlight, rfl⟩
  have later : (id, body) ∈ (ids.zip course.accepted).drop (course.reports.length + 1) :=
    mem_drop_of_le (Nat.le_trans bound steady.receipts_le_received) carried
  have listed := List.mem_map_of_mem (f := Prod.fst) later
  rw [List.map_drop, List.map_fst_zip (Nat.le_of_eq steady.named)] at listed
  have fresh := steady.fresh
  obtain ⟨within, value⟩ := List.getElem?_eq_some_iff.mp named
  rw [List.drop_eq_getElem_cons within, value, List.nodup_cons] at fresh
  exact fresh.1 listed

/-- The sender hears how a message was settled. -/
theorem Steady.hear_settled (steady : course.Steady stream ids released) {id : MessageId}
    {verdict : Except String Unit} {rest : List Answer}
    (front : (course.back stream).inFlight = .settled id verdict :: rest)
    (attached : course.senderStreams ≠ []) :
    (course.hear stream (.settled id verdict)).Steady stream ids released := by
  have joined := steady.joined attached
  obtain ⟨next, others⟩ := steady.first_settled front
  obtain ⟨named, judged⟩ := List.getElem?_zip_eq_some.mp next
  obtain ⟨entry, entries, split, rfl, ticket, remaining, apart⟩ := steady.outbound_eq_cons named
  have outbound : (course.hear stream (.settled entry.id verdict)).outbound = entries := by
    simp only [Course.hear, Answer.settle, split]
    rw [List.filter_cons_of_neg (by simp), List.filter_eq_self]
    exact fun other member => by simpa using apart other member
  have reports : (course.hear stream (.settled entry.id verdict)).reports =
      course.reports ++ [(course.reports.length, entry.id.outcome verdict)] := by
    simp only [Course.hear, Answer.reports, split]
    rw [List.filter_cons_of_pos (by simp), List.filter_eq_nil_iff.mpr, List.map_singleton, ticket]
    exact fun other member => by simpa using apart other member
  have forth : ((course.hear stream (.settled entry.id verdict)).forth stream).inFlight =
      (course.forth stream).inFlight ++ [.release entry.id] :=
    joined.put steady.forthWhole _
  have back : ((course.hear stream (.settled entry.id verdict)).back stream).inFlight = rest := by
    simp [Course.hear, Lane.pop, front]
  have bound : course.reports.length < course.receipts.length := by
    simpa using (List.getElem?_eq_some_iff.mp judged).1
  refine { steady with
    forthWhole := ?_
    backWhole := ?_
    listed := ?_
    told := ?_
    settled := ?_
    fresh := ?_
    releases := ?_
    order := ?_
    released_le := ?_
    sending := .inr { joined with carried := ?_ } }
  · simp only [Course.hear, Lane.put_whole]
    exact steady.forthWhole
  · simp only [Course.hear, Function.update_self, Lane.pop]
    exact steady.backWhole
  · rw [outbound, remaining, reports, List.length_append, List.length_singleton]
  · rw [reports]
    refine isPrefix_concat steady.told ?_
    have same : (course.hear stream (.settled entry.id verdict)).tidings ids = course.tidings ids :=
      rfl
    rw [same, tidings, List.getElem?_mapIdx, next]
    rfl
  · rw [back, reports, List.length_append, List.length_singleton]
    exact others
  · rw [reports, List.length_append, List.length_singleton]
    exact steady.fresh.sublist (List.drop_suffix_drop_left ids (Nat.le_succ _)).sublist
  · rw [forth, reports, List.filterMap_append, steady.releases, List.length_append,
      List.length_singleton, drop_take_succ steady.released_le named]
    rfl
  · rw [forth]
    refine List.pairwise_append.mpr ⟨steady.order, List.pairwise_singleton _ _, ?_⟩
    rintro _ inFlight later last other content rfl same
    rw [List.mem_singleton.mp last] at same
    obtain rfl := Notice.release.inj same
    exact steady.not_carried joined named bound content inFlight
  · rw [reports, List.length_append]
    exact Nat.le_succ_of_le steady.released_le
  · rw [forth, List.filterMap_append, joined.carried]
    exact List.append_nil _

/-- The sender hears an answer. -/
theorem Steady.hear (steady : course.Steady stream ids released) {answer : Answer}
    {rest : List Answer} (front : (course.back stream).inFlight = answer :: rest)
    (attached : course.senderStreams ≠ []) :
    (course.hear stream answer).Steady stream ids released := by
  cases answer with
  | stored id => exact steady.hear_stored front attached
  | settled id verdict => exact steady.hear_settled front attached

/-! ## Changes at the receiver -/

/-- The receiver attaches the stream, and has nothing to say yet. -/
theorem Steady.receiverAttach (steady : course.Steady stream ids released) :
    (course.receiverAttach stream []).Steady stream ids released := by
  have back : (course.receiverAttach stream []).back = course.back :=
    Lane.put_nil course.back (some stream)
  exact { steady with
    backWhole := back ▸ steady.backWhole
    settled := back ▸ steady.settled
    sending := steady.sending.imp (fun apart => { apart with }) fun joined => { joined with }
    receiving := .inr rfl }

/-- Before the receiver has attached the stream it knows nothing. -/
theorem Steady.inbound_eq_nil (steady : course.Steady stream ids released)
    (unattached : course.receiverStream ≠ some stream) : course.inbound = [] := by
  rcases steady.receiving with ⟨_, _, none⟩ | inUse
  · have inbound := steady.inboundIds
    rw [none, List.take_zero, List.drop_nil] at inbound
    exact List.map_eq_nil_iff.mp inbound
  · exact absurd inUse unattached

/-- What the receiver writes is in flight behind the rest. -/
theorem Steady.put_back (steady : course.Steady stream ids released)
    (attached : course.receiverStream = some stream) (items : List Answer) :
    (Lane.put course.back course.receiverStream items stream).inFlight =
      (course.back stream).inFlight ++ items := by
  simp [attached, Lane.put, Lane.write, steady.backWhole]

theorem Steady.joined_of_inFlight (steady : course.Steady stream ids released) {notice : Notice}
    {rest : List Notice} (front : (course.forth stream).inFlight = notice :: rest) :
    course.Joined stream ids := by
  rcases steady.sending with apart | joined
  · rw [apart.silent] at front
    cases front
  · exact joined

/-- The first message in flight is the first that has not arrived. -/
theorem Joined.first_data (joined : course.Joined stream ids) {id : MessageId} {body : Bytes}
    {rest : List Notice} (front : (course.forth stream).inFlight = .data id body :: rest) :
    ids[course.received]? = some id ∧ course.accepted[course.received]? = some body ∧
      rest.filterMap Notice.message? = (ids.zip course.accepted).drop (course.received + 1) := by
  have carried : (id, body) :: rest.filterMap Notice.message? =
      (ids.zip course.accepted).drop course.received := by
    rw [← joined.carried, front]
    rfl
  obtain ⟨next, others⟩ := getElem?_of_cons_eq_drop carried
  obtain ⟨named, accepted⟩ := List.getElem?_zip_eq_some.mp next
  exact ⟨named, accepted, others⟩

/-- The receiver does not know the next message: an earlier one with its id would have its release
behind it. -/
theorem Steady.next_unlisted (steady : course.Steady stream ids released) {id : MessageId}
    {body : Bytes} {rest : List Notice}
    (front : (course.forth stream).inFlight = .data id body :: rest)
    (named : ids[course.received]? = some id) : id ∉ (ids.take course.received).drop released := by
  intro known
  have arrived := Nat.le_trans steady.reports_le steady.receipts_le_received
  rw [← drop_take_append ids steady.released_le arrived, ← steady.releases,
    List.mem_append] at known
  rcases known with releasing | recent
  · have order := steady.order
    obtain ⟨notice, inFlight, said⟩ := List.mem_filterMap.mp releasing
    rw [front] at order inFlight
    cases notice with
    | data _ _ => cases said
    | release other =>
      obtain rfl := Option.some.inj said
      have behind : Notice.release other ∈ rest := by simpa using inFlight
      exact (List.pairwise_cons.mp order).1 _ behind other body rfl rfl
  · have fresh := steady.fresh.sublist ((List.take_sublist (course.received + 1) ids).drop _)
    rw [drop_take_succ arrived named] at fresh
    exact List.disjoint_of_nodup_append fresh recent (List.mem_singleton_self id)

/-- A message arrives. -/
theorem Steady.see_data (steady : course.Steady stream ids released) {id : MessageId} {body : Bytes}
    {rest : List Notice} (front : (course.forth stream).inFlight = .data id body :: rest)
    (attached : course.receiverStream = some stream) :
    (course.see stream (.data id body)).Steady stream ids released := by
  have joined := steady.joined_of_inFlight front
  obtain ⟨named, accepted, others⟩ := joined.first_data front
  have unlisted := steady.next_unlisted front named
  have unknown : lookup? course.inbound id = none :=
    lookup?_eq_none_iff_not_mem.mpr (steady.inboundIds ▸ unlisted)
  have inbound : (course.see stream (.data id body)).inbound =
      course.inbound ++ [(id, .received)] := by
    simp [Course.see, Notice.note, unknown]
  have waiting : (course.see stream (.data id body)).waiting = course.waiting ++ [(id, body)] := by
    simp [Course.see, Notice.deliveries, unknown]
  have received : (course.see stream (.data id body)).received = course.received + 1 := by
    simp only [Course.received, waiting, List.length_append, List.length_singleton]
    simp only [Course.see]
    omega
  have forth : ((course.see stream (.data id body)).forth stream).inFlight = rest := by
    simp [Course.see, Lane.pop, front]
  have back : ((course.see stream (.data id body)).back stream).inFlight =
      (course.back stream).inFlight ++ [.stored id] := by
    simp only [Course.see, Notice.reply, unknown, steady.put_back attached]
    rfl
  have order := steady.order
  rw [front] at order
  have releases := steady.releases
  rw [front] at releases
  refine { steady with
    forthWhole := ?_
    backWhole := ?_
    inOrder := ?_
    numbered := ?_
    settled := ?_
    known := ?_
    distinct := ?_
    releases := ?_
    order := ?_
    sending := .inr { joined with carried := ?_ }
    receiving := .inr attached }
  · simp only [Course.see, Function.update_self, Lane.pop]
    exact steady.forthWhole
  · simp only [Course.see, Lane.put_whole]
    exact steady.backWhole
  · rw [waiting, received, List.map_append, ← List.append_assoc]
    refine (congrArg (· ++ [body]) steady.inOrder).trans ?_
    exact (drop_take_succ (Nat.zero_le course.received) accepted).symm
  · rw [waiting, received, List.map_append, steady.numbered]
    exact (drop_take_succ (Nat.le_add_right _ _) named).symm
  · rw [back, List.filterMap_append, steady.settled]
    exact List.append_nil _
  · rw [inbound, steady.known, table, table, received, List.append_assoc]
    congr 1
    have longer := drop_take_succ steady.receipts_le_received named
    exact List.map_append.symm.trans
      (congrArg (List.map fun id => (id, Disposition.received)) longer.symm)
  · rw [received, drop_take_succ (Nat.le_trans steady.released_le
      (Nat.le_trans steady.reports_le steady.receipts_le_received)) named, List.nodup_append]
    refine ⟨steady.distinct, List.nodup_singleton id, ?_⟩
    rintro first listed last single rfl
    exact unlisted (List.mem_singleton.mp single ▸ listed)
  · rw [forth]
    exact releases
  · rw [forth]
    exact (List.pairwise_cons.mp order).2
  · rw [forth, received]
    exact others

/-- The first message of the inbound table, which has a receipt. -/
theorem table_eq_cons (course : Course) (ids : List MessageId) (released : Nat) {id : MessageId}
    {verdict : Except String Unit}
    (first : (ids.zip course.verdicts)[released]? = some (id, verdict)) :
    course.table ids released =
      (id, Disposition.ofVerdict verdict) :: course.table ids (released + 1) := by
  obtain ⟨bound, value⟩ := List.getElem?_eq_some_iff.mp first
  rw [table, List.drop_eq_getElem_cons bound, value]
  rfl

/-- The first release in flight is that of the first message that the receiver knows. -/
theorem Steady.first_release (steady : course.Steady stream ids released) {id : MessageId}
    {rest : List Notice} (front : (course.forth stream).inFlight = .release id :: rest) :
    released < course.reports.length ∧ ids[released]? = some id ∧
      rest.filterMap Notice.released? = (ids.take course.reports.length).drop (released + 1) := by
  have releases : id :: rest.filterMap Notice.released? =
      (ids.take course.reports.length).drop released := by
    rw [← steady.releases, front]
    rfl
  obtain ⟨first, others⟩ := getElem?_of_cons_eq_drop releases
  have within : released < course.reports.length :=
    Nat.lt_of_lt_of_le (List.getElem?_eq_some_iff.mp first).1 (List.length_take_le _ _)
  exact ⟨within, by rwa [List.getElem?_take_of_lt within] at first, others⟩

/-- The receiver sees that a message is released. -/
theorem Steady.see_release (steady : course.Steady stream ids released) {id : MessageId}
    {rest : List Notice} (front : (course.forth stream).inFlight = .release id :: rest) :
    (course.see stream (.release id)).Steady stream ids (released + 1) := by
  have joined := steady.joined_of_inFlight front
  obtain ⟨within, named, others⟩ := steady.first_release front
  have judged : released < course.verdicts.length := by
    have := steady.reports_le
    simp only [length_verdicts]
    omega
  have cons := table_eq_cons course ids released
    (List.getElem?_zip_eq_some.mpr ⟨named, List.getElem?_eq_getElem judged⟩)
  have distinct := steady.distinct
  rw [← steady.inboundIds, steady.known, cons, List.map_cons, List.nodup_cons] at distinct
  have inbound : (course.see stream (.release id)).inbound = course.table ids (released + 1) := by
    simp only [Course.see, Notice.note, steady.known, cons]
    rw [List.filter_cons_of_neg (by simp [Disposition.ofVerdict_ne_received]), List.filter_eq_self]
    intro entry listed
    have other : entry.1 ≠ id :=
      fun same => distinct.1 (List.mem_map.mpr ⟨entry, listed, same⟩)
    simp [other]
  have waiting : (course.see stream (.release id)).waiting = course.waiting := List.append_nil _
  have back : (course.see stream (.release id)).back = course.back :=
    Lane.put_nil course.back course.receiverStream
  have forth : ((course.see stream (.release id)).forth stream).inFlight = rest := by
    simp [Course.see, Lane.pop, front]
  have received : (course.see stream (.release id)).received = course.received := by
    simp only [Course.received, waiting]
    rfl
  have order := steady.order
  rw [front] at order
  have carried := joined.carried
  rw [front] at carried
  refine { steady with
    forthWhole := ?_
    backWhole := back ▸ steady.backWhole
    inOrder := waiting ▸ received ▸ steady.inOrder
    numbered := waiting ▸ received ▸ steady.numbered
    settled := back ▸ steady.settled
    known := ?_
    distinct := ?_
    releases := ?_
    order := ?_
    released_le := within
    sending := .inr { joined with carried := ?_ }
    receiving := received ▸ steady.receiving }
  · simp only [Course.see, Function.update_self, Lane.pop]
    exact steady.forthWhole
  · rw [inbound, table, table, received]
    rfl
  · rw [received]
    exact steady.distinct.sublist (List.drop_suffix_drop_left _ (Nat.le_succ _)).sublist
  · rw [forth]
    exact others
  · rw [forth]
    exact (List.pairwise_cons.mp order).2
  · rw [forth, received]
    exact carried

/-- The receiver sees a notice. -/
theorem Steady.see (steady : course.Steady stream ids released) {notice : Notice}
    {rest : List Notice} (front : (course.forth stream).inFlight = notice :: rest)
    (attached : course.receiverStream = some stream) :
    ∃ forgotten, (course.see stream notice).Steady stream ids forgotten := by
  cases notice with
  | data id body => exact ⟨released, steady.see_data front attached⟩
  | release id => exact ⟨released + 1, steady.see_release front⟩

/-- The next message that waits is handed over. -/
theorem Steady.hand (steady : course.Steady stream ids released) {id : MessageId} {body : Bytes}
    {rest : List (MessageId × Bytes)} (idle : course.busy = none)
    (front : course.waiting = (id, body) :: rest) :
    (course.hand id body rest).Steady stream ids released := by
  have received : (course.hand id body rest).received = course.received := by
    simp only [Course.received, Course.hand, front, List.length_append, List.length_cons,
      List.length_nil]
    omega
  have numbered := steady.numbered
  rw [front, List.map_cons] at numbered
  obtain ⟨first, others⟩ := getElem?_of_cons_eq_drop numbered
  have within : course.handed.length < course.received := by
    simp only [Course.received, front, List.length_cons]
    omega
  have table : (course.hand id body rest).table ids released = course.table ids released := by
    simp only [Course.table, received]
    rfl
  refine { steady with
    inOrder := ?_
    numbered := ?_
    idle := fun busy => by cases busy
    engaged := ?_
    known := table ▸ steady.known
    distinct := received ▸ steady.distinct
    sending := ?_
    receiving := received ▸ steady.receiving }
  · have inOrder := steady.inOrder
    rw [front, List.map_cons] at inOrder
    rw [received]
    simpa [Course.hand] using inOrder
  · rw [received]
    simpa [Course.hand] using others
  · rintro _ busy
    obtain rfl := Option.some.inj busy
    rw [List.getElem?_take_of_lt within, ← steady.idle idle] at first
    exact ⟨first, by simp [Course.hand, steady.idle idle]⟩
  · exact steady.sending.imp (fun apart => { apart with untouched := received ▸ apart.untouched })
      fun joined => { joined with carried := received ▸ joined.carried }

/-- Around the message that the receiver is at, the inbound table has those with a receipt and those
that wait, and none of them under its id. -/
theorem Steady.inbound_busy (steady : course.Steady stream ids released) {id : MessageId}
    (busy : course.busy = some id) :
    course.inbound =
      ((ids.zip course.verdicts).drop released).map
          (fun entry => (entry.1, Disposition.ofVerdict entry.2)) ++
        (id, .received) ::
          ((ids.take course.received).drop (course.receipts.length + 1)).map
            (fun other => (other, Disposition.received)) ∧
    (∀ entry ∈ (ids.zip course.verdicts).drop released, entry.1 ≠ id) ∧
    ∀ other ∈ (ids.take course.received).drop (course.receipts.length + 1), other ≠ id := by
  obtain ⟨named, next⟩ := steady.engaged id busy
  have within : course.receipts.length < course.received := by
    unfold Course.received
    omega
  have first : (ids.take course.received)[course.receipts.length]? = some id := by
    rwa [List.getElem?_take_of_lt within]
  obtain ⟨bound, value⟩ := List.getElem?_eq_some_iff.mp first
  have inbound := steady.known
  rw [table, List.drop_eq_getElem_cons bound, value, List.map_cons] at inbound
  have distinct := steady.distinct
  rw [← steady.inboundIds, inbound, List.map_append, List.map_cons, List.nodup_append] at distinct
  obtain ⟨_, nodup, disjoint⟩ := distinct
  refine ⟨inbound, ?_, ?_⟩
  · rintro entry listed rfl
    refine disjoint entry.1 ?_ entry.1 (List.mem_cons_self ..) rfl
    exact List.mem_map.mpr ⟨_, List.mem_map.mpr ⟨entry, listed, rfl⟩, rfl⟩
  · rintro other listed rfl
    refine (List.nodup_cons.mp nodup).1 ?_
    exact List.mem_map.mpr ⟨_, List.mem_map.mpr ⟨other, listed, rfl⟩, rfl⟩

/-- The message that the receiver is at counts as received. -/
theorem Steady.lookup?_busy (steady : course.Steady stream ids released) {id : MessageId}
    (busy : course.busy = some id) : lookup? course.inbound id = some .received := by
  obtain ⟨inbound, before, _⟩ := steady.inbound_busy busy
  rw [inbound, lookup?, List.find?_append, List.find?_eq_none.mpr]
  · simp
  · intro entry listed
    obtain ⟨origin, among, rfl⟩ := List.mem_map.mp listed
    simpa using before origin among

/-- The receiver ends with the message it is at. -/
theorem Steady.conclude (steady : course.Steady stream ids released) {id : MessageId}
    (busy : course.busy = some id) (receipt : Receipt) :
    (course.conclude id receipt).Steady stream ids released := by
  obtain ⟨named, next⟩ := steady.engaged id busy
  obtain ⟨inbound, before, after⟩ := steady.inbound_busy busy
  have attached : course.receiverStream = some stream := by
    rcases steady.receiving with ⟨_, _, nothing⟩ | attached
    · unfold Course.received at nothing
      omega
    · exact attached
  have verdicts : (course.conclude id receipt).verdicts = course.verdicts ++ [receipt.verdict] := by
    simp [Course.verdicts, Course.conclude]
  have zipped : ids.zip (course.verdicts ++ [receipt.verdict]) =
      ids.zip course.verdicts ++ [(id, receipt.verdict)] :=
    zip_concat_right _ (by simpa using named)
  have length : (ids.zip course.verdicts).length = course.receipts.length := by
    rw [List.length_zip, length_verdicts, Nat.min_eq_right steady.receipts_le_ids]
  have back : ((course.conclude id receipt).back stream).inFlight =
      (course.back stream).inFlight ++ [.settled id receipt.verdict] := steady.put_back attached _
  have receipts : (course.conclude id receipt).receipts.length = course.receipts.length + 1 := by
    simp [Course.conclude]
  have reported := steady.reports_le
  refine { steady with
    backWhole := ?_
    idle := fun _ => receipts.trans next
    engaged := fun _ busy => by cases busy
    told := ?_
    settled := ?_
    known := ?_
    sending := ?_ }
  · simp only [Course.conclude, Lane.put_whole]
    exact steady.backWhole
  · refine steady.told.trans ?_
    rw [tidings, tidings, verdicts, zipped, List.mapIdx_append]
    exact List.prefix_append _ _
  · rw [back, verdicts, zipped, List.filterMap_append, steady.settled]
    refine (List.drop_append_of_le_length ?_).symm
    rw [length]
    exact reported
  · have longer : (ids.zip course.verdicts ++ [(id, receipt.verdict)]).drop released =
        (ids.zip course.verdicts).drop released ++ [(id, receipt.verdict)] :=
      List.drop_append_of_le_length (length ▸ Nat.le_trans steady.released_le reported)
    have received : (course.conclude id receipt).received = course.received := rfl
    rw [table, verdicts, zipped, longer, receipts, received, List.map_append, List.append_assoc]
    simp only [Course.conclude, Course.judged, inbound, List.map_append, List.map_cons,
      List.map_map, if_true]
    refine congrArg₂ _ (List.map_congr_left fun entry listed => ?_) (congrArg _
      (List.map_congr_left fun other listed => ?_))
    · exact if_neg (before entry listed)
    · exact if_neg (after other listed)
  · exact steady.sending.imp (fun apart => { apart with }) fun joined => { joined with }

end Course

end Courier
