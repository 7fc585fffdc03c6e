import Courier.Proofs.Pipe.Operations

/-!
# What happens on the streams

Streams are attached and lost, and on them packets arrive and are lost.  These are the steps of a
pair at which neither a sender nor a receiver has a hand (`Pair.Transit`).  They take nothing back
at a party: what it has sent, what was handed to its receiver and how the receiver ended with it
all stays, and it may only hear more of its own messages (`Party.Moves`).

The operations of senders and receivers in their turn leave the streams to which a party is
connected as they are (`Party.Connected`).  So whether all that was ever written arrives can be told
from the streams at the end of a run (`Pair.Undisturbed`).
-/

namespace Courier

set_option autoImplicit false

/-! ## Parties -/

namespace Party

/-- What streams do to a party. -/
structure Moves (before after : Party) : Prop where
  accepted : after.accepted = before.accepted
  handed : after.handed = before.handed
  receipts : after.receipts = before.receipts
  busy : after.busy = before.busy
  settings : after.pipe.settings = before.pipe.settings
  closed : after.pipe.closed = before.pipe.closed
  reports : before.reports <+: after.reports

theorem Moves.refl (party : Party) : party.Moves party :=
  ⟨rfl, rfl, rfl, rfl, rfl, rfl, List.prefix_rfl⟩

theorem Moves.trans {before between after : Party} (first : before.Moves between)
    (second : between.Moves after) : before.Moves after where
  accepted := second.accepted.trans first.accepted
  handed := second.handed.trans first.handed
  receipts := second.receipts.trans first.receipts
  busy := second.busy.trans first.busy
  settings := second.settings.trans first.settings
  closed := second.closed.trans first.closed
  reports := first.reports.trans second.reports

/-- A party has the streams that it had, though the one in use may be lost. -/
structure Connected (before after : Party) : Prop where
  streams : after.streams = before.streams
  attached : after.pipe.attached = before.pipe.attached ∨ after.pipe.attached = none
  closed : after.pipe.closed = before.pipe.closed

theorem Connected.refl (party : Party) : party.Connected party := ⟨rfl, .inl rfl, rfl⟩

theorem Connected.trans {before between after : Party} (first : before.Connected between)
    (second : between.Connected after) : before.Connected after where
  streams := second.streams.trans first.streams
  attached := by
    rcases second.attached with same | lost
    · exact same ▸ first.attached
    · exact .inr lost
  closed := second.closed.trans first.closed

end Party

/-! ## Pipes -/

namespace Pipe

theorem accept_kept (pipe : Pipe) (generation : Nat) (bytes : Bytes) :
    (pipe.accept generation bytes).1.settings = pipe.settings ∧
      (pipe.accept generation bytes).1.closed = pipe.closed ∧
        (pipe.accept generation bytes).1.attached = pipe.attached := by
  unfold accept
  split <;> exact ⟨rfl, rfl, rfl⟩

theorem lose_kept (pipe : Pipe) (generation : Nat) (cause : Option StreamError) :
    (pipe.lose generation cause).1.settings = pipe.settings ∧
      (pipe.lose generation cause).1.closed = pipe.closed ∧
        ((pipe.lose generation cause).1.attached = pipe.attached ∨
          (pipe.lose generation cause).1.attached = none) := by
  unfold lose
  split
  · exact ⟨rfl, rfl, .inl rfl⟩
  · split
    · exact ⟨rfl, rfl, .inr rfl⟩
    · exact ⟨rfl, rfl, .inl rfl⟩

theorem conclude_connected (pipe : Pipe) (id : MessageId) (verdict : Except String Unit) :
    (pipe.conclude id verdict).1.attached = pipe.attached ∧
      (pipe.conclude id verdict).1.closed = pipe.closed := by
  unfold conclude
  split
  · exact ⟨rfl, rfl⟩
  · split <;> exact ⟨rfl, rfl⟩

end Pipe

/-! ## What an operation asks for -/

namespace Pair

variable {pair after : Pair} {side : Side}

theorem moves_setParty {party : Party} (own : (pair.party side).Moves party) (subject : Side) :
    (pair.party subject).Moves ((pair.setParty side party).party subject) := by
  rcases side.eq_or_eq_other subject with rfl | rfl
  · rw [party_setParty_self]
    exact own
  · rw [party_setParty_other]
    exact .refl _

theorem connected_setParty {party : Party} (own : (pair.party side).Connected party)
    (subject : Side) :
    (pair.party subject).Connected ((pair.setParty side party).party subject) := by
  rcases side.eq_or_eq_other subject with rfl | rfl
  · rw [party_setParty_self]
    exact own
  · rw [party_setParty_other]
    exact .refl _

/-- Nothing that the pipe of a side asks for takes anything back, or connects it anew. -/
theorem undergoes_perform (pair : Pair) (side : Side) (effect : PipeEffect) (subject : Side) :
    (pair.party subject).Moves ((perform side pair effect).party subject) ∧
      (pair.party subject).Connected ((perform side pair effect).party subject) := by
  cases effect with
  | report ticket outcome =>
    refine ⟨moves_setParty ?_ subject, connected_setParty ?_ subject⟩
    · exact ⟨rfl, rfl, rfl, rfl, rfl, rfl, List.prefix_append _ _⟩
    · exact ⟨rfl, .inl rfl, rfl⟩
  | lose generation cause =>
    obtain ⟨settings, closed, attached⟩ := (pair.party side).pipe.lose_kept generation cause
    refine ⟨moves_setParty ?_ subject, connected_setParty ?_ subject⟩
    · exact ⟨rfl, rfl, rfl, rfl, settings, closed, List.prefix_rfl⟩
    · exact ⟨rfl, attached, closed⟩
  | write | wake | shut | notify | raise => exact ⟨.refl _, .refl _⟩

theorem undergoes_performAll (pair : Pair) (side : Side) (effects : List PipeEffect)
    (subject : Side) :
    (pair.party subject).Moves ((pair.performAll side effects).party subject) ∧
      (pair.party subject).Connected ((pair.performAll side effects).party subject) := by
  induction effects generalizing pair with
  | nil => exact ⟨.refl _, .refl _⟩
  | cons effect effects ih =>
    obtain ⟨moves, connected⟩ := pair.undergoes_perform side effect subject
    obtain ⟨moves', connected'⟩ := ih (perform side pair effect)
    exact ⟨moves.trans moves', connected.trans connected'⟩

theorem moves_change (pair : Pair) {changed : Pipe × List PipeEffect}
    (own : (pair.party side).Moves { pair.party side with pipe := changed.1 }) (subject : Side) :
    (pair.party subject).Moves ((pair.change side changed).party subject) :=
  (moves_setParty own subject).trans (undergoes_performAll _ side changed.2 subject).1

theorem whole_setLane {stream : StreamId} {lane : Lane Packet}
    (same : lane.whole = (pair.lane stream side).whole) (other : StreamId) (subject : Side) :
    ((pair.setLane stream side lane).lane other subject).whole =
      (pair.lane other subject).whole := by
  unfold setLane
  by_cases here : other = stream
  · subst here
    rcases side.eq_or_eq_other subject with rfl | rfl
    · simp [same]
    · simp [Side.other_ne]
  · simp [here]

/-- Writing loses nothing. -/
theorem whole_performAll (pair : Pair) (side : Side) (effects : List PipeEffect)
    (stream : StreamId) (subject : Side) :
    ((pair.performAll side effects).lane stream subject).whole =
      (pair.lane stream subject).whole := by
  induction effects generalizing pair with
  | nil => rfl
  | cons effect effects ih =>
    refine (ih (perform side pair effect)).trans ?_
    cases effect with
    | write other generation packets =>
      refine whole_setLane ?_ stream subject
      unfold Lane.write
      split <;> rfl
    | report | lose | wake | shut | notify | raise => rfl

/-- Both parties have the streams that they had, on which nothing more is lost. -/
structure Continues (pair after : Pair) : Prop where
  connected : ∀ side, (pair.party side).Connected (after.party side)
  whole : ∀ stream side, (after.lane stream side).whole = (pair.lane stream side).whole

theorem Continues.refl (pair : Pair) : pair.Continues pair := ⟨fun _ => .refl _, fun _ _ => rfl⟩

theorem Continues.trans {between : Pair} (first : pair.Continues between)
    (second : between.Continues after) : pair.Continues after where
  connected side := (first.connected side).trans (second.connected side)
  whole stream side := (second.whole stream side).trans (first.whole stream side)

theorem continues_setParty {party : Party} (own : (pair.party side).Connected party) :
    pair.Continues (pair.setParty side party) :=
  ⟨connected_setParty own, fun _ _ => rfl⟩

theorem continues_performAll (pair : Pair) (side : Side) (effects : List PipeEffect) :
    pair.Continues (pair.performAll side effects) :=
  ⟨fun subject => (undergoes_performAll pair side effects subject).2,
    whole_performAll pair side effects⟩

theorem continues_change {changed : Pipe × List PipeEffect}
    (own : (pair.party side).Connected { pair.party side with pipe := changed.1 }) :
    pair.Continues (pair.change side changed) :=
  (continues_setParty own).trans (continues_performAll _ side changed.2)

/-! ## Senders and receivers -/

theorem continues_send (pair : Pair) (side : Side) (body : Bytes) :
    pair.Continues (pair.send side body) := by
  unfold Pair.send
  rcases (pair.party side).pipe.send_cases body (pair.party side).accepted.length with
    ⟨error, _, refused⟩ | ⟨_, _, accepted⟩
  · simp only [refused]
    exact .refl pair
  · simp only [accepted]
    have listed : pair.Continues (pair.setParty side
        { pair.party side with accepted := (pair.party side).accepted ++ [body] }) :=
      continues_setParty ⟨rfl, .inl rfl, rfl⟩
    refine listed.trans (continues_change ?_)
    rw [party_setParty_self]
    exact ⟨rfl, .inl rfl, rfl⟩

theorem continues_bind (pair : Pair) (side : Side) : pair.Continues (pair.bind side) := by
  unfold Pair.bind
  cases bound : (pair.party side).pipe.bind with
  | error error =>
    simp only [bound]
    exact .refl pair
  | ok pipe =>
    simp only [bound]
    refine continues_setParty ?_
    unfold Pipe.bind at bound
    split at bound
    · cases bound
    · split at bound
      · obtain rfl := Except.ok.inj bound
        exact ⟨rfl, .inl rfl, rfl⟩
      · cases bound

theorem continues_hand (pair : Pair) (side : Side) : pair.Continues (pair.hand side) := by
  unfold Pair.hand Pipe.takeWaiting
  cases waiting : (pair.party side).pipe.waiting with
  | nil =>
    simp only [waiting]
    exact .refl pair
  | cons message rest =>
    simp only [waiting]
    exact continues_setParty ⟨rfl, .inl rfl, rfl⟩

theorem continues_conclude (pair : Pair) (side : Side) (receipt : Receipt) :
    pair.Continues (pair.conclude side receipt) := by
  cases busy : (pair.party side).busy with
  | none =>
    unfold Pair.conclude
    simp only [busy]
    exact .refl pair
  | some id =>
    rw [conclude_eq pair side receipt busy]
    obtain ⟨attached, closed⟩ := (pair.party side).pipe.conclude_connected id receipt.verdict
    have concluded : pair.Continues
        (pair.setParty side ((pair.party side).concluding id receipt)) :=
      continues_setParty ⟨rfl, .inl attached, closed⟩
    exact concluded.trans (continues_performAll _ side _)

/-! ## Steps on the streams -/

/-- One step of a pair that happens on the streams. -/
inductive Transit (pair : Pair) : Pair → Prop where
  | attach (side : Side) (stream : StreamId)
      (later : ∀ earlier ∈ (pair.party side).streams, earlier < stream) :
      Transit pair (pair.attach side stream)
  | attachInVain (side : Side) (stream : StreamId)
      (later : ∀ earlier ∈ (pair.party side).streams, earlier < stream) :
      Transit pair (pair.attachInVain side stream)
  | arrive (side : Side) (generation : Nat) (stream : StreamId) (bytes : Bytes)
      (packets rest : List Packet)
      (attached : (pair.party side).stream? generation = some stream)
      (inFlight : (pair.lane stream side.other).inFlight = packets ++ rest)
      (read : generation = (pair.party side).pipe.generation →
        (pair.party side).pipe.closed = false →
        (pair.party side).reading bytes = packets) :
      Transit pair (pair.arrive side generation stream bytes rest)
  | lose (side : Side) (generation : Nat) (cause : Option StreamError) :
      Transit pair (pair.lose side generation cause)
  | cut (stream : StreamId) (side : Side) (count : Nat) :
      Transit pair (pair.cut stream side count)

theorem Transit.step (transit : pair.Transit after) : Step pair after := by
  cases transit with
  | attach side stream later => exact .attach side stream later
  | attachInVain side stream later => exact .attachInVain side stream later
  | arrive side generation stream bytes packets rest attached inFlight read =>
    exact .arrive side generation stream bytes packets rest attached inFlight read
  | lose side generation cause => exact .lose side generation cause
  | cut stream side count => exact .cut stream side count

theorem moves_attach (pair : Pair) (side : Side) (stream : StreamId) (subject : Side) :
    (pair.party subject).Moves ((pair.attach side stream).party subject) := by
  rcases attach_cases pair side stream with same | ⟨_, attached⟩
  · rw [same]
    exact .refl _
  · rcases side.eq_or_eq_other subject with rfl | rfl
    · rw [attached.own]
      exact ⟨rfl, rfl, rfl, rfl, rfl, rfl, List.prefix_rfl⟩
    · rw [attached.peer]
      exact .refl _

theorem moves_attachInVain (pair : Pair) (side : Side) (stream : StreamId) (subject : Side) :
    (pair.party subject).Moves ((pair.attachInVain side stream).party subject) := by
  rcases attachInVain_cases pair side stream with same | attached
  · rw [same]
    exact .refl _
  · rcases side.eq_or_eq_other subject with rfl | rfl
    · rw [attached.own]
      exact ⟨rfl, rfl, rfl, rfl, rfl, rfl, List.prefix_rfl⟩
    · rw [attached.peer]
      exact .refl _

theorem continues_arrive (pair : Pair) (side : Side) (generation : Nat) (stream : StreamId)
    (bytes : Bytes) (rest : List Packet) :
    pair.Continues (pair.arrive side generation stream bytes rest) := by
  obtain ⟨_, closed, attached⟩ := (pair.party side).pipe.accept_kept generation bytes
  have taken : pair.Continues (pair.setLane stream side.other
      { pair.lane stream side.other with inFlight := rest }) :=
    ⟨fun _ => .refl _, fun other subject => whole_setLane (by rfl) other subject⟩
  exact taken.trans (continues_change ⟨rfl, .inl attached, closed⟩)

theorem continues_lose (pair : Pair) (side : Side) (generation : Nat)
    (cause : Option StreamError) : pair.Continues (pair.lose side generation cause) := by
  obtain ⟨_, closed, attached⟩ := (pair.party side).pipe.lose_kept generation cause
  exact continues_change ⟨rfl, attached, closed⟩

/-- Whatever happens on the streams takes nothing back. -/
theorem Transit.moves (transit : pair.Transit after) (subject : Side) :
    (pair.party subject).Moves (after.party subject) := by
  cases transit with
  | attach side stream => exact pair.moves_attach side stream subject
  | attachInVain side stream => exact pair.moves_attachInVain side stream subject
  | arrive side generation stream bytes packets rest =>
    obtain ⟨settings, closed, _⟩ := (pair.party side).pipe.accept_kept generation bytes
    exact moves_change (pair.setLane stream side.other _)
      ⟨rfl, rfl, rfl, rfl, settings, closed, List.prefix_rfl⟩ subject
  | lose side generation cause =>
    obtain ⟨settings, closed, _⟩ := (pair.party side).pipe.lose_kept generation cause
    exact moves_change _ ⟨rfl, rfl, rfl, rfl, settings, closed, List.prefix_rfl⟩ subject
  | cut => exact .refl _

end Pair

end Courier
