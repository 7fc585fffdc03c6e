import Courier.Proofs.Pipe.Pair

/-!
# One course of a pair

Each packet belongs to one of two conversations: about the messages that one
party sends, or about those that the other one sends.  A course is one of them.
The sender says of a message what it is and, in the end, that it has released
it; the receiver answers that it has stored the message, and in the end how it
settled it.  A sync is as many answers as it has entries.

A course shows only the tables, lists and lanes that this conversation is about.
Every step of the pair is, for each of its two courses, one of the changes below
or nothing at all.
-/

namespace Courier

set_option autoImplicit false

/-! ## Lists that grow -/

theorem getElem?_of_isPrefix {α : Type} {before after : List α} (grown : before <+: after)
    {place : Nat} {item : α} (found : before[place]? = some item) : after[place]? = some item := by
  obtain ⟨more, rfl⟩ := grown
  rw [List.getElem?_append_left (List.getElem?_eq_some_iff.mp found).1, found]

theorem getElem?_concat_cases {α : Type} {list : List α} {last item : α} {place : Nat}
    (found : (list ++ [last])[place]? = some item) :
    list[place]? = some item ∨ place = list.length ∧ item = last := by
  rcases Nat.lt_or_ge place list.length with within | beyond
  · exact .inl ((List.getElem?_append_left within).symm.trans found)
  · have bound := (List.getElem?_eq_some_iff.mp found).1
    rw [List.length_append, List.length_singleton] at bound
    obtain rfl : place = list.length := Nat.le_antisymm (Nat.lt_succ_iff.mp bound) beyond
    rw [List.getElem?_concat_length] at found
    exact .inr ⟨rfl, (Option.some.inj found).symm⟩

/-! ## What is said -/

/-- What the sender says of a message. -/
inductive Notice where
  | data (id : MessageId) (body : Bytes)
  /-- The sender has retired the message. -/
  | release (id : MessageId)

/-- What the receiver says of a message. -/
inductive Answer where
  | stored (id : MessageId)
  | settled (id : MessageId) (verdict : Except String Unit)

/-- The message that an answer is about. -/
def Answer.id : Answer → MessageId
  | stored id | settled id _ => id

/-- The message that a notice releases. -/
def Notice.released? : Notice → Option MessageId
  | data _ _ => none
  | release id => some id

/-- What an answer settles. -/
def Answer.settled? : Answer → Option (MessageId × Except String Unit)
  | stored _ => none
  | settled id verdict => some (id, verdict)

/-- What a sync entry says of its message. -/
def Ack.toAnswer : Ack → Answer
  | ⟨.received, id⟩ => .stored id
  | ⟨.delivered, id⟩ => .settled id (.ok ())

/-- What an inbound message is answered with. -/
def Disposition.toAnswer (id : MessageId) : Disposition → Answer
  | received => .stored id
  | delivered => .settled id (.ok ())
  | refused reason => .settled id (.error reason)

theorem Disposition.toAnswer_ofVerdict (id : MessageId) (verdict : Except String Unit) :
    (ofVerdict verdict).toAnswer id = .settled id verdict := by
  cases verdict <;> rfl

theorem Disposition.ofVerdict_ne_received (verdict : Except String Unit) :
    ofVerdict verdict ≠ received := by
  cases verdict <;> exact Disposition.noConfusion

namespace Packet

/-- What a packet says of messages of the party that wrote it. -/
def notices : Packet → List Notice
  | data id body => [.data id body]
  | ackOfNack id => [.release id]
  | _ => []

/-- What a packet says of messages of the party that reads it. -/
def answers : Packet → List Answer
  | ackReceived id => [.stored id]
  | ackDelivered id => [.settled id (.ok ())]
  | nack id reason => [.settled id (.error reason)]
  | sync acks => acks.map Ack.toAnswer
  | _ => []

end Packet

/-- What a sender is told of a message that was settled. -/
def MessageId.outcome (id : MessageId) : Except String Unit → Outcome
  | .ok _ => .ok ()
  | .error reason => .error (.rejected id reason)

/-! ## What is said changes the tables -/

/-- The outbound table after an answer. -/
def Answer.settle (outbound : List Outbound) : Answer → List Outbound
  | stored id =>
    outbound.map fun entry => if entry.id = id then { entry with body := none } else entry
  | settled id _ => outbound.filter fun entry => entry.id ≠ id

/-- What is reported because of an answer. -/
def Answer.reports (outbound : List Outbound) : Answer → List (Ticket × Outcome)
  | stored _ => []
  | settled id verdict =>
    (outbound.filter fun entry => entry.id = id).map fun entry => (entry.ticket, id.outcome verdict)

/-- What an answer is replied to with. -/
def Answer.reply : Answer → List Notice
  | stored _ => []
  | settled id _ => [.release id]

/-- The disposition of a message in an inbound table. -/
def lookup? (inbound : List (MessageId × Disposition)) (id : MessageId) : Option Disposition :=
  (inbound.find? fun entry => entry.1 = id).map (·.2)

theorem lookup?_cons {inbound : List (MessageId × Disposition)} {id : MessageId}
    (entry : MessageId × Disposition) :
    lookup? (entry :: inbound) id = if entry.1 = id then some entry.2 else lookup? inbound id := by
  by_cases same : entry.1 = id <;> simp [lookup?, same]

theorem lookup?_eq_none_iff_not_mem {inbound : List (MessageId × Disposition)} {id : MessageId} :
    lookup? inbound id = none ↔ id ∉ inbound.map Prod.fst := by
  induction inbound with
  | nil => simp [lookup?]
  | cons entry inbound ih =>
    rw [lookup?_cons]
    by_cases same : entry.1 = id
    · simp [same]
    · simp [same, ih, Ne.symm same]

/-- The inbound table after a notice. -/
def Notice.note (inbound : List (MessageId × Disposition)) :
    Notice → List (MessageId × Disposition)
  | data id _ =>
    match lookup? inbound id with
    | none => inbound ++ [(id, .received)]
    | some _ => inbound
  | release id => inbound.filter fun entry => entry.1 ≠ id ∨ entry.2 = .received

/-- What a notice leaves for the receiver. -/
def Notice.deliveries (inbound : List (MessageId × Disposition)) :
    Notice → List (MessageId × Bytes)
  | data id body =>
    match lookup? inbound id with
    | none => [(id, body)]
    | some _ => []
  | release _ => []

/-- What a notice is replied to with. -/
def Notice.reply (inbound : List (MessageId × Disposition)) : Notice → List Answer
  | data id _ => [((lookup? inbound id).getD .received).toAnswer id]
  | release _ => []

/-! ## Lanes by stream -/

namespace Lane

variable {α β : Type}

/-- What the items of a lane say. -/
def say (lane : Lane α) (meaning : α → List β) : Lane β :=
  ⟨lane.inFlight.flatMap meaning, lane.whole⟩

/-- The lane after its oldest item has arrived. -/
def pop (lane : Lane α) : Lane α := { lane with inFlight := lane.inFlight.tail }

/-- Lanes after items were written on one stream, if there is one. -/
def put (lanes : StreamId → Lane α) (stream : Option StreamId) (items : List α) :
    StreamId → Lane α :=
  match stream with
  | none => lanes
  | some stream => Function.update lanes stream ((lanes stream).write items)

@[simp] theorem put_none (lanes : StreamId → Lane α) (items : List α) :
    put lanes none items = lanes :=
  rfl

@[simp] theorem put_nil (lanes : StreamId → Lane α) (written : Option StreamId) :
    put lanes written [] = lanes := by
  cases written with
  | none => rfl
  | some stream => simp [put, write]

theorem write_write (lane : Lane α) (first second : List α) :
    (lane.write first).write second = lane.write (first ++ second) := by
  by_cases whole : lane.whole = true <;> simp [write, whole]

/-- Two writes on one stream are one. -/
theorem put_put (lanes : StreamId → Lane α) (written : Option StreamId) (first second : List α) :
    put (put lanes written first) written second = put lanes written (first ++ second) := by
  cases written with
  | none => rfl
  | some stream => simp [put, write_write]

theorem say_write (lane : Lane α) (meaning : α → List β) (items : List α) :
    (lane.write items).say meaning = (lane.say meaning).write (items.flatMap meaning) := by
  by_cases whole : lane.whole = true <;> simp [say, write, whole]

@[simp] theorem put_whole (lanes : StreamId → Lane α) (written : Option StreamId) (items : List α)
    (stream : StreamId) : (put lanes written items stream).whole = (lanes stream).whole := by
  cases written with
  | none => rfl
  | some other =>
    by_cases same : stream = other
    · subst same
      simp only [put, Function.update_self, write]
      split <;> rfl
    · simp [put, same]

/-- What is in flight after a write: what was, and on the stream that was written to the new items
behind it, if nothing has been lost there. -/
theorem put_inFlight (lanes : StreamId → Lane α) (written : Option StreamId) (items : List α)
    (stream : StreamId) :
    (put lanes written items stream).inFlight = (lanes stream).inFlight ∨
      (written = some stream ∧ (lanes stream).whole = true ∧
        (put lanes written items stream).inFlight = (lanes stream).inFlight ++ items) := by
  cases written with
  | none => exact .inl rfl
  | some other =>
    by_cases same : stream = other
    · subst same
      by_cases whole : (lanes stream).whole = true
      · exact .inr ⟨rfl, whole, by simp [put, write, whole]⟩
      · exact .inl (by simp [put, write, whole])
    · exact .inl (by simp [put, same])

theorem mem_put {lanes : StreamId → Lane α} {written : Option StreamId} {items : List α}
    {stream : StreamId} {item : α} (inFlight : item ∈ (put lanes written items stream).inFlight) :
    item ∈ (lanes stream).inFlight ∨ (written = some stream ∧ item ∈ items) := by
  rcases put_inFlight lanes written items stream with same | ⟨there, _, longer⟩
  · exact .inl (same ▸ inFlight)
  · rw [longer, List.mem_append] at inFlight
    exact inFlight.imp_right fun new => ⟨there, new⟩

theorem mem_put_of_mem {lanes : StreamId → Lane α} {stream : StreamId} {item : α}
    (inFlight : item ∈ (lanes stream).inFlight) (written : Option StreamId) (items : List α) :
    item ∈ (put lanes written items stream).inFlight := by
  rcases put_inFlight lanes written items stream with same | ⟨_, _, longer⟩
  · exact same ▸ inFlight
  · rw [longer]
    exact List.mem_append_left _ inFlight

/-- What is written to a stream that has lost nothing is in flight there. -/
theorem mem_put_of_whole {lanes : StreamId → Lane α} {stream : StreamId} {items : List α} {item : α}
    (whole : (lanes stream).whole = true) (new : item ∈ items) :
    item ∈ (put lanes (some stream) items stream).inFlight := by
  simp [put, write, whole, new]

/-- Where packets arrive from or are lost on one lane, what remains in flight was in flight before.
-/
theorem sublist_update {lanes : StreamId → Lane α} {stream : StreamId} (lane : Lane α)
    (fewer : lane.inFlight.Sublist (lanes stream).inFlight) (other : StreamId) :
    (Function.update lanes stream lane other).inFlight.Sublist (lanes other).inFlight := by
  by_cases same : other = stream
  · subst same
    simpa using fewer
  · simp [same]

end Lane

/-! ## Courses -/

structure Course where
  accepted : List Bytes
  outbound : List Outbound
  reports : List (Ticket × Outcome)
  senderOpen : Bool
  /-- The stream that the sender has attached at the moment. -/
  senderStream : Option StreamId
  /-- All streams that the sender has attached so far. -/
  senderStreams : List StreamId
  inbound : List (MessageId × Disposition)
  waiting : List (MessageId × Bytes)
  busy : Option MessageId
  handed : List Bytes
  receipts : List Receipt
  receiverOpen : Bool
  receiverStream : Option StreamId
  receiverStreams : List StreamId
  /-- The way from the sender to the receiver. -/
  forth : StreamId → Lane Notice
  /-- The way back. -/
  back : StreamId → Lane Answer

/-- The stream that a pipe has attached at the moment. -/
def Pipe.stream? (pipe : Pipe) : Option StreamId := pipe.attached.map (·.stream)

/-- The course of the messages that the party of a side sends. -/
def Pair.course (pair : Pair) (side : Side) : Course where
  accepted := (pair.party side).accepted
  outbound := (pair.party side).pipe.exchange.outbound
  reports := (pair.party side).reports
  senderOpen := !(pair.party side).pipe.closed
  senderStream := (pair.party side).pipe.stream?
  senderStreams := (pair.party side).streams
  inbound := (pair.party side.other).pipe.exchange.inbound
  waiting := (pair.party side.other).pipe.waiting
  busy := (pair.party side.other).busy
  handed := (pair.party side.other).handed
  receipts := (pair.party side.other).receipts
  receiverOpen := !(pair.party side.other).pipe.closed
  receiverStream := (pair.party side.other).pipe.stream?
  receiverStreams := (pair.party side.other).streams
  forth := fun stream => (pair.lane stream side).say Packet.notices
  back := fun stream => (pair.lane stream side.other).say Packet.answers

namespace Course

/-- How many messages have arrived at the receiver for the first time. -/
def received (course : Course) : Nat := course.handed.length + course.waiting.length

/-! ### Changes at the sender -/

/-- A message is accepted under an id. -/
def enter (course : Course) (id : MessageId) (body : Bytes) : Course :=
  let place := course.accepted.length
  { course with
    accepted := course.accepted ++ [body]
    outbound := course.outbound ++ [⟨id, place, some body, place⟩]
    forth := Lane.put course.forth course.senderStream [.data id body] }

/-- The messages that the receiver may not have stored. -/
def unconfirmed (course : Course) : List Notice :=
  course.outbound.filterMap fun entry => entry.body.map fun body => .data entry.id body

/-- The sender attaches a stream. -/
def senderAttach (course : Course) (stream : StreamId) : Course :=
  { course with
    senderStream := some stream
    senderStreams := course.senderStreams ++ [stream]
    forth := Lane.put course.forth (some stream) course.unconfirmed }

/-- The sender attaches a stream that cannot be bound. -/
def senderAttachInVain (course : Course) (stream : StreamId) : Course :=
  { course with senderStream := none, senderStreams := course.senderStreams ++ [stream] }

/-- The next answer on a stream reaches the sender. -/
def hear (stream : StreamId) (course : Course) (answer : Answer) : Course :=
  { course with
    outbound := answer.settle course.outbound
    reports := course.reports ++ answer.reports course.outbound
    forth := Lane.put course.forth course.senderStream answer.reply
    back := Function.update course.back stream (course.back stream).pop }

/-- The sender loses its stream. -/
def senderLose (course : Course) : Course := { course with senderStream := none }

def senderClose (course : Course) : Course :=
  { course with
    outbound := []
    reports := course.reports ++ course.outbound.map fun entry => (entry.ticket, .error .closed)
    senderOpen := false
    senderStream := none }

/-- Answers reach the sender and are not heeded. -/
def senderIgnore (course : Course) (stream : StreamId) (rest : List Answer) : Course :=
  { course with
    back := Function.update course.back stream { course.back stream with inFlight := rest } }

/-! ### Changes at the receiver -/

/-- The next notice on a stream reaches the receiver. -/
def see (stream : StreamId) (course : Course) (notice : Notice) : Course :=
  { course with
    inbound := notice.note course.inbound
    waiting := course.waiting ++ notice.deliveries course.inbound
    forth := Function.update course.forth stream (course.forth stream).pop
    back := Lane.put course.back course.receiverStream (notice.reply course.inbound) }

/-- The receiver attaches a stream, on which it says what it knows. -/
def receiverAttach (course : Course) (stream : StreamId) (announced : List Answer) : Course :=
  { course with
    receiverStream := some stream
    receiverStreams := course.receiverStreams ++ [stream]
    back := Lane.put course.back (some stream) announced }

/-- The receiver attaches a stream that cannot be bound. -/
def receiverAttachInVain (course : Course) (stream : StreamId) : Course :=
  { course with receiverStream := none, receiverStreams := course.receiverStreams ++ [stream] }

/-- The next message that waits is handed over. -/
def hand (course : Course) (id : MessageId) (body : Bytes) (rest : List (MessageId × Bytes)) :
    Course :=
  { course with waiting := rest, busy := some id, handed := course.handed ++ [body] }

/-- The inbound table after the verdict on a message. -/
def judged (course : Course) (id : MessageId) (receipt : Receipt) :
    List (MessageId × Disposition) :=
  course.inbound.map fun entry =>
    if entry.1 = id then (id, Disposition.ofVerdict receipt.verdict) else entry

/-- The receiver ends with a message while its pipe is open. -/
def conclude (course : Course) (id : MessageId) (receipt : Receipt) : Course :=
  { course with
    inbound := course.judged id receipt
    busy := none
    receipts := course.receipts ++ [receipt]
    back := Lane.put course.back course.receiverStream [.settled id receipt.verdict] }

/-- The receiver ends with a message after its pipe has closed. -/
def concludeClosed (course : Course) (receipt : Receipt) : Course :=
  { course with busy := none, receipts := course.receipts ++ [receipt] }

/-- The receiver loses its stream. -/
def receiverLose (course : Course) : Course := { course with receiverStream := none }

def receiverClose (course : Course) : Course :=
  { course with inbound := [], receiverOpen := false, receiverStream := none }

/-- Notices reach the receiver and are not heeded. -/
def receiverIgnore (course : Course) (stream : StreamId) (rest : List Notice) : Course :=
  { course with
    forth := Function.update course.forth stream { course.forth stream with inFlight := rest } }

/-! ### Losses on the way -/

def cutForth (course : Course) (stream : StreamId) (kept : List Notice) : Course :=
  { course with forth := Function.update course.forth stream ⟨kept, false⟩ }

def cutBack (course : Course) (stream : StreamId) (kept : List Answer) : Course :=
  { course with back := Function.update course.back stream ⟨kept, false⟩ }

end Course

end Courier
