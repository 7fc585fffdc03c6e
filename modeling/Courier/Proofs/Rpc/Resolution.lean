import Courier.Proofs.Rpc.Running

/-!
# Which calls are resolved

Once nothing is left to be done at two channels whose stream loses nothing, each call
that was started has been completed, but for those whose return the peer has given up.
A return is given up for one reason only: too many messages of the peer are in flight.
That a result cannot be written or not be read does not leave a caller without an
answer, and neither does a call that cannot be delivered.
-/

namespace Courier

set_option autoImplicit false

namespace Dialogue

variable {τ : Type} {opening : Opening τ} {dialogue after : Dialogue τ} {stream : StreamId}

/-! ## Runs -/

/-- What happens on a stream that loses nothing may happen on any streams. -/
theorem Step.move (step : Step stream dialogue after) (steady : dialogue.pair.Steady stream) :
    Move dialogue after := by
  cases step with
  | attach side first =>
    exact .transit (.attach side stream fun earlier listed => by rw [first] at listed; cases listed)
  | arrive side bytes packets rest attached inFlight read faultless =>
    refine .transit (.arrive side _ stream bytes packets rest ?_ inFlight fun _ _ => read)
    obtain ⟨attachment, found, same⟩ := Option.map_eq_some_iff.mp attached
    have regular := steady.regular side
    have last := (regular.attached attachment found).2
    rw [same, List.getLast?_eq_getElem?] at last
    rw [regular.generation]
    cases length : (dialogue.pair.party side).streams.length with
    | zero => simp [List.length_eq_zero_iff.mp length] at last
    | succ number =>
      rw [length] at last
      exact last
  | take side running idle => exact .take side running idle
  | conclude side => exact .conclude side
  | start side instanceId method values callSite room =>
    exact .start side instanceId method values callSite room
  | finish side place outcome => exact .finish side place outcome
  | settle side place => exact .settle side place
  | work side desk aside => exact .work side desk aside

theorem Step.steady (step : Step stream dialogue after) (steady : dialogue.pair.Steady stream) :
    after.pair.Steady stream := by
  cases step with
  | attach side first => exact steady.attach side first
  | arrive side bytes packets rest attached inFlight read faultless =>
    exact steady.arrive attached inFlight read faultless
  | take side running idle =>
    unfold Dialogue.take
    split
    · exact steady
    · exact steady.hand side idle
  | conclude side =>
    unfold Dialogue.conclude
    simp only
    split
    · exact steady
    · exact steady.conclude side _
  | start side instanceId method values callSite =>
    exact (dialogue.sends_start side instanceId method values callSite).steady steady
  | finish side place outcome => exact (dialogue.sends_finish side place outcome).steady steady
  | settle side place => exact (dialogue.sends_settle side place).steady steady
  | work => exact steady

theorem Reachable.steady (reachable : Reachable opening dialogue) :
    dialogue.pair.Steady opening.stream := by
  induction reachable with
  | refl => exact ((Pair.Steady.new opening.settings opening.stream).bind .a).bind .b
  | tail _ step ih => exact step.steady ih

theorem Reachable.sound (reachable : Reachable opening dialogue) : dialogue.Sound := by
  induction reachable with
  | refl => exact .new _ _ _ _ _ _
  | tail reachable step ih =>
    have steady := Reachable.steady reachable
    exact (step.move steady).sound ih (step.steady steady).reliable

/-! ## When nothing is left to be done -/

/-- Nothing is in flight, no message waits or is with a receiver, no job runs, and no task can go
on. -/
structure Quiescent (dialogue : Dialogue τ) (stream : StreamId) : Prop where
  atRest : dialogue.pair.AtRest stream
  jobs : ∀ side, (dialogue.speaker side).jobs = []
  tasks : ∀ side, ∀ dispatch ∈ (dialogue.speaker side).dispatches,
    dispatch.outcome? (dialogue.pair.party side).reports = none

/-- Then no task is left: each has learned what has become of its message. -/
theorem Sound.dispatches_eq_nil (sound : dialogue.Sound) (quiescent : dialogue.Quiescent stream)
    (told : dialogue.pair.ToldAll) (side : Side) :
    (dialogue.speaker side).dispatches = [] := by
  refine List.eq_nil_iff_forall_not_mem.mpr fun dispatch listed => ?_
  have unknown := quiescent.tasks side dispatch listed
  unfold Dispatch.outcome? at unknown
  cases sent : dispatch.sent with
  | error error =>
    rw [sent] at unknown
    cases unknown
  | ok ticket =>
    obtain ⟨_, accepted, _⟩ := (sound.speaker side).carried dispatch listed ticket sent
    obtain ⟨report, listed, same⟩ := List.mem_map.mp
      (told side ticket (List.getElem?_eq_some_iff.mp accepted).1)
    simp only [sent, Option.map_eq_none_iff, List.find?_eq_none] at unknown
    exact unknown report listed (decide_eq_true same)

/-- Then the pending calls of a side are those whose return the peer has given up. -/
theorem Sound.pending_perm (sound : dialogue.Sound) (quiescent : dialogue.Quiescent stream)
    (told : dialogue.pair.ToldAll) (side : Side) :
    (dialogue.speaker side).pending.Perm ((dialogue.speaker side.other).givenUp.map Prod.fst) := by
  refine List.perm_iff_count.mpr fun id => ?_
  rw [sound.balanced side id, Speaker.calling, Speaker.owing, quiescent.jobs,
    sound.dispatches_eq_nil quiescent told, sound.dispatches_eq_nil quiescent told]
  simp [Dispatch.held]

/-! ## Two runs -/

/-- All that is in flight arrives at a side. -/
def deliver (dialogue : Dialogue τ) (side : Side) (stream : StreamId) : Dialogue τ :=
  dialogue.setPair (dialogue.pair.arrive side (dialogue.pair.party side).pipe.generation stream
    ((dialogue.pair.lane stream side.other).inFlight.flatMap Packet.encode) [])

theorem deliver_step (side : Side)
    (readable : (dialogue.pair.party side).pipe.stream? = some stream ∧
      (dialogue.pair.party side).reading
          ((dialogue.pair.lane stream side.other).inFlight.flatMap Packet.encode) =
        (dialogue.pair.lane stream side.other).inFlight ∧
      ((dialogue.pair.party side).pipe.reader.push
        ((dialogue.pair.lane stream side.other).inFlight.flatMap Packet.encode)).drain.2.1 = none) :
    Step stream dialogue (dialogue.deliver side stream) :=
  .arrive side _ _ [] readable.1 (List.append_nil _).symm readable.2.1 readable.2.2

/-- Quiescence is seen from the two sides. -/
theorem quiescent_of_still
    (still : ∀ side ∈ [Side.a, .b], (dialogue.pair.party side).pipe.stream? = some stream ∧
      (dialogue.pair.lane stream side).inFlight = [] ∧
      (dialogue.pair.party side).pipe.waiting = [] ∧
      (dialogue.pair.party side).busy = none ∧ (dialogue.speaker side).jobs.isEmpty ∧
      (dialogue.speaker side).dispatches.isEmpty) : dialogue.Quiescent stream := by
  have both : ∀ side : Side, side ∈ [Side.a, .b] := by
    intro side
    cases side <;> decide
  exact
    { atRest :=
        { inUse := fun side => (still side (both side)).1
          inFlight := fun side => (still side (both side)).2.1
          waiting := fun side => (still side (both side)).2.2.1
          busy := fun side => (still side (both side)).2.2.2.1 }
      jobs := fun side => List.isEmpty_iff.mp (still side (both side)).2.2.2.2.1
      tasks := fun side dispatch listed => by
        rw [List.isEmpty_iff.mp (still side (both side)).2.2.2.2.2] at listed
        cases listed }

/-- Two channels of which the second may have one message in flight. -/
def narrow : Opening Unit where
  settings
    | .a => .standard
    | .b => { PipeSettings.standard with maxInFlight := 1 }
  number _ := 0
  mark _ _ := 0
  singletons _ := .empty .byName
  kept _ := ()
  further _ := []
  stream := 0

def probe : Method := ⟨⟨"i", "m", []⟩, []⟩

/-- A call has been started whose argument cannot be written, and has failed; then the pipes have
been joined. -/
def declined : Dialogue Unit :=
  let failed := (narrow.dialogue.start .a "x" probe [.live (.object "T" 0)] "").settle .a 0
  let attached := failed.setPair (failed.pair.attach .a 0)
  ((attached.setPair (attached.pair.attach .b 0)).deliver .a 0).deliver .b 0

theorem declined_reachable : Reachable narrow declined := by
  have failed := (Relation.ReflTransGen.refl.tail (.start .a "x" probe [.live (.object "T" 0)] ""
    (by decide +kernel)) : Reachable narrow _).tail (.settle .a 0)
  have joined := (failed.tail (.attach .a (by decide +kernel))).tail
    (.attach .b (by decide +kernel))
  exact (joined.tail (deliver_step .a (by decide +kernel))).tail
    (deliver_step .b (by decide +kernel))

theorem declined_quiescent : declined.Quiescent narrow.stream :=
  quiescent_of_still (by decide +kernel)

/-- Both sides have started a call. -/
def calling : Dialogue Unit :=
  let started := (narrow.dialogue.start .b "x" probe [] "").start .a "x" probe [] ""
  let attached := started.setPair (started.pair.attach .a 0)
  attached.setPair (attached.pair.attach .b 0)

/-- The second side has ended its job while its own call is in flight, and has given the return
up. -/
def resigned : Dialogue Unit :=
  ((((calling.deliver .b 0).take .b).conclude .b).finish .b 0
    (.error (.new "k" "m"))).settle .b 1

/-- The first side has answered the call of the second. -/
def answered : Dialogue Unit :=
  ((((resigned.deliver .a 0).take .a).conclude .a).settle .a 0).finish .a 0
    (.error (.new "k" "m"))

/-- All messages and what is said of them has arrived. -/
def silent : Dialogue Unit :=
  (((((answered.deliver .b 0).settle .b 0).take .b).conclude .b).deliver .a 0
    |>.settle .a 0).deliver .b 0

theorem silent_reachable : Reachable narrow silent := by
  have started :
      Reachable narrow ((narrow.dialogue.start .b "x" probe [] "").start .a "x" probe [] "") :=
    (Relation.ReflTransGen.refl.tail (.start .b "x" probe [] "" (by decide +kernel))).tail
      (.start .a "x" probe [] "" (by decide +kernel))
  have calling : Reachable narrow calling :=
    (started.tail (.attach .a (by decide +kernel))).tail (.attach .b (by decide +kernel))
  have heard := (calling.tail (deliver_step .b (by decide +kernel))).tail
    (.take .b (by decide +kernel) (by decide +kernel))
  have resigned : Reachable narrow resigned :=
    ((heard.tail (.conclude .b)).tail (.finish .b 0 _)).tail (.settle .b 1)
  have asked := (resigned.tail (deliver_step .a (by decide +kernel))).tail
    (.take .a (by decide +kernel) (by decide +kernel))
  have answered : Reachable narrow answered :=
    ((asked.tail (.conclude .a)).tail (.settle .a 0)).tail (.finish .a 0 _)
  have told := ((answered.tail (deliver_step .b (by decide +kernel))).tail (.settle .b 0)).tail
    (.take .b (by decide +kernel) (by decide +kernel))
  have known := ((told.tail (.conclude .b)).tail (deliver_step .a (by decide +kernel))).tail
    (.settle .a 0)
  exact known.tail (deliver_step .b (by decide +kernel))

theorem silent_quiescent : silent.Quiescent narrow.stream :=
  quiescent_of_still (by decide +kernel)

/-! ## Lost and completed calls -/

/-- **A call is lost just if its return was given up because too many messages were in flight.**
Once nothing is left to be done, no task is left either; the callers of a side that have been told a
result and those of its pending calls are all its callers; and its pending calls are those whose
return the peer has given up. -/
theorem pending_iff_givenUp (reachable : Reachable opening dialogue)
    (quiescent : dialogue.Quiescent opening.stream) (side : Side) :
    (dialogue.speaker side).dispatches = [] ∧
      ((dialogue.speaker side).completed.map Prod.fst ++ (dialogue.speaker side).callers).Perm
        (List.range (dialogue.speaker side).started) ∧
      (dialogue.speaker side).pending.Perm
        ((dialogue.speaker side.other).givenUp.map Prod.fst) ∧
      ((dialogue.speaker side).pending = [] ↔ (dialogue.speaker side.other).givenUp = []) ∧
      ∀ entry ∈ (dialogue.speaker side.other).givenUp, entry.2 =
        .tooManyInFlight (dialogue.pair.party side.other).pipe.settings.inFlightLimit := by
  have sound := reachable.sound
  have told := reachable.steady.toldAll quiescent.atRest
  have perm := sound.pending_perm quiescent told side
  refine ⟨sound.dispatches_eq_nil quiescent told side, (sound.speaker side).callers, perm, ?_,
    (sound.speaker side.other).givenUp⟩
  rw [← List.length_eq_zero_iff, perm.length_eq, List.length_map, List.length_eq_zero_iff]

/-- The caller of a call that could not be sent has been told, since no return was given up. -/
theorem pending_iff_givenUp_declined :
    Reachable narrow declined ∧ declined.Quiescent narrow.stream ∧
      (declined.speaker .b).givenUp.length = 0 ∧ (declined.speaker .a).pending = [] ∧
      ((declined.speaker .a).completed.map Prod.fst ++ (declined.speaker .a).callers).Perm
        (List.range 1) := by
  have none : (declined.speaker .b).givenUp.length = 0 := by decide +kernel
  have resolved := pending_iff_givenUp declined_reachable declined_quiescent .a
  exact ⟨declined_reachable, declined_quiescent, none,
    resolved.2.2.2.1.mpr (List.length_eq_zero_iff.mp none), resolved.2.1⟩

/-- A call can stay pending when nothing is left to be done: that of the first side is lost, since
the second had a message in flight when it was to answer. -/
theorem pending_silent :
    Reachable narrow silent ∧ silent.Quiescent narrow.stream ∧
      (silent.speaker .a).pending = [1] :=
  ⟨silent_reachable, silent_quiescent, by decide +kernel⟩

end Dialogue

end Courier
