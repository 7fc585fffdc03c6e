import Courier.Proofs.Pipe.Underway

/-!
# What an attach under way can break

With attaches in one piece no message is handed over twice, whatever else goes
wrong (`Pair.handed_prefix_accepted`).  With attaches in three steps this fails:
`raced` is a run in which one message is handed over twice.  Its final answer
arrives after the stream was bound and before what had been taken down for it is
written.  So the release is written first and the message behind it; the receiver
forgets the message and then takes it for a new one.

This is the only way in which it fails: a message that was handed over more than
once was overtaken (`handed_again_overtaken`).
-/

namespace Courier

set_option autoImplicit false

namespace Joint

variable {joint : Joint}

/-! ## A message that is handed over twice -/

/-- The message has arrived and is accepted.  Its final answer is lost with the first stream and
said again on the second one, which the sender has bound but not written to. -/
def resumed : Joint :=
  let attach := fun (joint : Joint) (side : Side) (stream : StreamId) (packets : List Packet) =>
    ((joint.install side stream).bindStream side stream).write side
      ⟨stream, stream, true, packets⟩
  let sent := (Joint.new fun _ => .standard)
  let sent := sent.setPair ((sent.pair.bind .b).send .a [1])
  let first := attach (attach sent .a 1 [.sync [], .data .zero [1]]) .b 1 [.sync []]
  let arrived := (first.arrive .b 1 1
    ([Packet.sync [], .data .zero [1]].flatMap Packet.encode) []).hand .b
  let lost := arrived.setPair ((((arrived.pair.conclude .b .accepted).cut 1 .b 0).lose .a 1
    none).lose .b 1 none)
  let second := attach lost .b 2 [.sync [⟨.delivered, .zero⟩]]
  (second.install .a 2).bindStream .a 2

/-- The final answer overtakes what was taken down for the second stream. -/
def raced : Joint :=
  let answered := resumed.arrive .a 2 2 (Packet.sync [⟨.delivered, .zero⟩]).encode []
  let written := answered.write .a ⟨2, 2, true, [.sync [], .data .zero [1]]⟩
  (written.arrive .b 2 2
    ([Packet.ackOfNack .zero, .sync [], .data .zero [1]].flatMap Packet.encode) []).hand .b

theorem attached_reachable {settings : Side → PipeSettings} (reachable : Reachable settings joint)
    (side : Side) (stream : StreamId) (packets : List Packet)
    (later : ∀ earlier ∈ (joint.pair.party side).streams, earlier < stream)
    (underway : ⟨stream, stream, true, packets⟩ ∈
      ((joint.install side stream).bindStream side stream).underway side) :
    Reachable settings (((joint.install side stream).bindStream side stream).write side
      ⟨stream, stream, true, packets⟩) :=
  ((reachable.tail (.install side stream later)).tail (.bindStream side stream)).tail
    (.write side _ underway rfl)

theorem resumed_reachable : Reachable (fun _ => .standard) resumed := by
  have sent : Reachable (fun _ => .standard) ((Joint.new fun _ => .standard).setPair
      (((Joint.new fun _ => .standard).pair.bind .b).send .a [1])) :=
    (Relation.ReflTransGen.refl.tail (.bind .b)).tail (.send .a [1])
  have first := attached_reachable (attached_reachable sent .a 1 [.sync [], .data .zero [1]]
    (by decide +kernel) (by decide +kernel)) .b 1 [.sync []] (by decide +kernel) (by decide +kernel)
  have arrived := (first.tail (.arrive .b 1 1
    ([Packet.sync [], .data .zero [1]].flatMap Packet.encode) [.sync [], .data .zero [1]] []
    (by decide +kernel) (by decide +kernel) (by decide +kernel) (by decide +kernel))).tail
      (.hand .b (by decide +kernel) (by decide +kernel))
  have lost := (((arrived.tail (.conclude .b .accepted)).tail (.cut 1 .b 0)).tail
    (.lose .a 1 none)).tail (.lose .b 1 none)
  have second := attached_reachable lost .b 2 [.sync [⟨.delivered, .zero⟩]] (by decide +kernel)
    (by decide +kernel)
  exact (second.tail (.install .a 2 (by decide +kernel))).tail (.bindStream .a 2)

theorem raced_reachable : Reachable (fun _ => .standard) raced := by
  have answered := resumed_reachable.tail (.arrive .a 2 2 (Packet.sync [⟨.delivered, .zero⟩]).encode
    [.sync [⟨.delivered, .zero⟩]] [] (by decide +kernel) (by decide +kernel) (by decide +kernel)
    (by decide +kernel))
  have written := answered.tail (.write .a ⟨2, 2, true, [.sync [], .data .zero [1]]⟩
    (by decide +kernel) rfl)
  exact (written.tail (.arrive .b 2 2
    ([Packet.ackOfNack .zero, .sync [], .data .zero [1]].flatMap Packet.encode)
    [.ackOfNack .zero, .sync [], .data .zero [1]] [] (by decide +kernel) (by decide +kernel)
    (by decide +kernel) (by decide +kernel))).tail
      (.hand .b (by decide +kernel) (by decide +kernel))

theorem raced_withinIds : raced.pair.WithinIds := by
  intro side
  cases side <;> decide +kernel

/-- The only message accepted was handed over twice: what holds of atomic attaches does not hold of
attaches in three steps. -/
theorem handed_twice_raced :
    ∃ settings joint, Reachable settings joint ∧ joint.pair.WithinIds ∧
      (joint.pair.party .a).accepted = [[1]] ∧ (joint.pair.party .b).handed = [[1], [1]] :=
  ⟨_, raced, raced_reachable, raced_withinIds, by decide +kernel, by decide +kernel⟩

/-- **A message that was handed over more than once was overtaken**: its final answer arrived on a
stream whose attach was still under way, and what was still to be written there sent it once more.
What was handed over is otherwise what was accepted under the same ids. -/
theorem handed_again_overtaken {settings : Side → PipeSettings}
    (reachable : Reachable settings joint) (within : joint.pair.WithinIds) (side : Side) :
    ((joint.handed side.other).map fun id => (joint.pair.party side).accepted[id.toNat]?) =
        (joint.pair.party side.other).handed.map some ∧
      ∀ id, 2 ≤ (joint.handed side.other).count id → id ∈ joint.overtaken side := by
  have guarded := (reachable.valid within).guarded side
  refine ⟨guarded.handed, fun id again => ?_⟩
  by_contra early
  have once := guarded.once id early
  rw [Passage.arrived, List.count_append] at once
  have handed : (joint.passage side).handed = joint.handed side.other := rfl
  rw [handed] at once
  omega

/-- The message that was handed over twice was overtaken. -/
theorem handed_again_overtaken_raced :
    (raced.handed .b).count .zero = 2 ∧ .zero ∈ raced.overtaken .a := by
  have twice : (raced.handed .b).count .zero = 2 := by decide +kernel
  exact ⟨twice, (handed_again_overtaken raced_reachable raced_withinIds .a).2 .zero
    (Nat.le_of_eq twice.symm)⟩

end Joint

end Courier
