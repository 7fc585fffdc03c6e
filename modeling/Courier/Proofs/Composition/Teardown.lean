import Courier.Proofs.Composition.Endpoint

/-!
# How an endpoint ends

Whichever part of an endpoint ends first, its end is passed on until all parts have ended.
The end of one part leaves a duty: as long as the next part has not ended, an action that
ends it is on the agenda (`Endpoint.Linked`).  So when an agenda has been worked off,
either no part has ended or all have.

What an endpoint owes to those who wait (`Endpoint.owed`) is put on the agenda when the
part ends that owes it, and is struck off when it is done.  So all of it is done once
(`Endpoint.Runs.deeds_perm`).
-/

namespace Courier

set_option autoImplicit false

/-! ## What holds at every moment -/

/-- What holds at every moment of a pipe that has a receiver. -/
structure Pipe.Proper (pipe : Pipe) : Prop where
  listening : pipe.reception ≠ .unbound
  /-- A stream that is in use is the last one that was attached. -/
  newest : ∀ attachment ∈ pipe.attached, attachment.generation = pipe.generation
  emptied : pipe.closed = true →
    pipe.exchange.outbound = [] ∧ pipe.exchange.inbound = [] ∧ pipe.attached = none

namespace Endpoint

/-- What holds of the parts of an endpoint at every moment. -/
structure Sane (endpoint : Endpoint) : Prop where
  pipe : endpoint.pipe.Proper
  cleared : endpoint.channel.terminated = true →
    endpoint.channel.calls.pending = [] ∧ endpoint.channel.exports.entries = []

/-- What is to be done since something has ended and something else has not: one of some actions. -/
inductive Due (endpoint : Endpoint) : List Action → Prop where
  | objects (closed : endpoint.pipe.closed = true) (unnotified : endpoint.notified = false) :
      Due endpoint [.pipe 0 .notify, .notifyObjects 0]
  | channel (notified : endpoint.notified = true) (alive : endpoint.channel.terminated = false) :
      Due endpoint [.close ⟨0, .channel⟩]
  | below (terminated : endpoint.channel.terminated = true)
      (isOpen : endpoint.pipe.closed = false) :
      Due endpoint [.close ⟨0, .objects⟩, .close ⟨0, .pipe⟩]
  | supervisor (closed : endpoint.pipe.closed = true) (running : endpoint.phase = .running) :
      Due endpoint [.pipe 0 (.raise .termination)]
  | pipe (begun : endpoint.phase ≠ .running) (isOpen : endpoint.pipe.closed = false) :
      Due endpoint [.close ⟨0, .pipe⟩]
  | finishing (tearing : endpoint.phase = .tearingDown) : Due endpoint [.finish 0]

/-- An agenda and an endpoint between two actions: what is due is on the agenda. -/
structure Linked (agenda : List Action) (endpoint : Endpoint) : Prop where
  sane : endpoint.Sane
  here : ∀ action ∈ agenda, action.Here
  begun : .finish 0 ∈ agenda → endpoint.phase ≠ .running
  due : ∀ duties, Due endpoint duties → ∃ duty ∈ duties, duty ∈ agenda

variable {endpoint after last : Endpoint} {action : Action} {next rest agenda duties : List Action}

theorem Sane.turn (sane : endpoint.Sane) (turn : Turns endpoint action next after) :
    after.Sane := by
  cases turn with
  | outside | refused | stale | notify | warn | closeObjects | closeAgain | tellAgain => exact sane
  | begin | tell | finish => exact ⟨sane.pipe, sane.cleared⟩
  | drop attachment cause attached =>
    refine ⟨⟨sane.pipe.listening, by simp, fun closed => ?_⟩, sane.cleared⟩
    obtain ⟨outbound, inbound, _⟩ := sane.pipe.emptied closed
    exact ⟨outbound, inbound, rfl⟩
  | closePipe =>
    by_cases closed : endpoint.pipe.closed = true
    · have kept : endpoint.pipe.close.1 = endpoint.pipe := by rw [Pipe.close, if_pos closed]
      rw [kept]
      exact sane
    · have shut : endpoint.pipe.close.1 = { endpoint.pipe with
          closed := true, exchange := endpoint.pipe.exchange.abandon.2, attached := none } := by
        rw [Pipe.close, if_neg closed]
      rw [shut]
      exact ⟨⟨sane.pipe.listening, by simp, fun _ => ⟨rfl, rfl, rfl⟩⟩, sane.cleared⟩
  | closeChannel alive => exact ⟨sane.pipe, fun _ => ⟨rfl, rfl⟩⟩

/-- What is due stays on the agenda until it is done. -/
theorem Linked.remains (linked : Linked (action :: rest) endpoint) (due : Due endpoint duties)
    (other : action ∉ duties) : ∃ duty ∈ duties, duty ∈ next ++ rest := by
  obtain ⟨duty, wanted, listed⟩ := linked.due duties due
  refine ⟨duty, wanted, List.mem_append_right _ ((List.mem_cons.mp listed).resolve_left ?_)⟩
  rintro rfl
  exact other wanted

theorem Due.vital (due : Due endpoint duties) : ∀ duty ∈ duties, duty.Vital := by
  cases due <;> simp [Action.Vital]

/-- What is due is told by how far the parts have ended. -/
theorem Due.congr (due : Due after duties) (closed : after.pipe.closed = endpoint.pipe.closed)
    (notified : after.notified = endpoint.notified)
    (terminated : after.channel.terminated = endpoint.channel.terminated)
    (phase : after.phase = endpoint.phase) : Due endpoint duties := by
  cases due with
  | objects shut unnotified => exact .objects (closed ▸ shut) (notified ▸ unnotified)
  | channel told alive => exact .channel (notified ▸ told) (terminated ▸ alive)
  | below ended isOpen => exact .below (terminated ▸ ended) (closed ▸ isOpen)
  | supervisor shut running => exact .supervisor (closed ▸ shut) (phase ▸ running)
  | pipe begun isOpen => exact .pipe (phase ▸ begun) (closed ▸ isOpen)
  | finishing tearing => exact .finishing (phase ▸ tearing)

/-! ## What is put on the agenda -/

/-- A pipe that closes tells its receiver and the supervisor. -/
theorem mem_close {pipe : Pipe} (isOpen : pipe.closed = false)
    (listening : pipe.reception ≠ .unbound) :
    PipeEffect.notify ∈ pipe.close.2 ∧ PipeEffect.raise .termination ∈ pipe.close.2 := by
  simp [Pipe.close, isOpen, listening]

theorem closed_close (pipe : Pipe) : pipe.close.1.closed = true := by
  unfold Pipe.close
  split
  · assumption
  · rfl

theorem close_of_closed {pipe : Pipe} (closed : pipe.closed = true) : pipe.close = (pipe, []) := by
  rw [Pipe.close, if_pos closed]

/-- What is due after a turn is on the agenda: it was due before, or the turn has put it there. -/
theorem Linked.due_turn (linked : Linked (action :: rest) endpoint)
    (turn : Turns endpoint action next after) (due : Due after duties) :
    ∃ duty ∈ duties, duty ∈ next ++ rest := by
  cases turn with
  | outside plain => exact linked.remains due fun wanted => plain (due.vital _ wanted)
  | refused | stale => exact linked.remains due (by cases due <;> simp)
  | drop attachment cause attached =>
    exact linked.remains (due.congr rfl rfl rfl rfl) (by cases due <;> simp)
  | notify =>
    cases due with
    | objects => exact ⟨.notifyObjects 0, by simp, by simp⟩
    | channel | below | supervisor | pipe | finishing =>
      exact linked.remains (by constructor <;> assumption) (by simp)
  | warn severity late =>
    refine linked.remains due ?_
    cases due <;> simp
    rintro rfl
    simp_all
  | begin severity grave running =>
    cases due with
    | supervisor closed running => cases running
    | pipe begun isOpen =>
      exact ⟨.close ⟨0, .pipe⟩, by simp, by simp [Assembly.teardownActions, parts]⟩
    | finishing => exact ⟨.finish 0, by simp, by simp [Assembly.teardownActions]⟩
    | objects | channel | below =>
      exact linked.remains (by constructor <;> assumption) (by simp)
  | closePipe =>
    cases closed : endpoint.pipe.closed with
    | true =>
      rw [close_of_closed closed] at due
      refine linked.remains due ?_
      cases due <;> simp_all
    | false =>
      obtain ⟨notify, raise⟩ := mem_close closed linked.sane.pipe.listening
      have shut := closed_close endpoint.pipe
      cases due with
      | objects => exact ⟨.pipe 0 .notify, by simp, by simp [notify]⟩
      | supervisor => exact ⟨.pipe 0 (.raise .termination), by simp, by simp [raise]⟩
      | below terminated isOpen => exact absurd (shut.symm.trans isOpen) (by simp)
      | pipe begun isOpen => exact absurd (shut.symm.trans isOpen) (by simp)
      | channel | finishing => exact linked.remains (by constructor <;> assumption) (by simp)
  | closeObjects =>
    cases due with
    | below => exact ⟨.close ⟨0, .pipe⟩, by simp, by simp⟩
    | objects | channel | supervisor | pipe | finishing =>
      exact linked.remains (by constructor <;> assumption) (by simp)
  | closeAgain terminated =>
    refine linked.remains due ?_
    cases due <;> simp_all
  | closeChannel alive =>
    cases due with
    | channel told living => cases living
    | below => exact ⟨.close ⟨0, .objects⟩, by simp, by simp⟩
    | objects | supervisor | pipe | finishing =>
      exact linked.remains (by constructor <;> assumption) (by simp)
  | tellAgain notified =>
    refine linked.remains due ?_
    cases due <;> simp_all
  | tell unnotified =>
    cases due with
    | objects closed untold => cases untold
    | channel => exact ⟨.close ⟨0, .channel⟩, by simp, by simp⟩
    | below | supervisor | pipe | finishing =>
      exact linked.remains (by constructor <;> assumption) (by simp)
  | finish begun =>
    cases due with
    | supervisor closed running => cases running
    | finishing tearing => cases tearing
    | pipe => exact linked.remains (.pipe begun ‹_›) (by simp)
    | objects | channel | below =>
      exact linked.remains (by constructor <;> assumption) (by simp)

/-- Nothing is finished that has not begun. -/
theorem Turns.begun (turn : Turns endpoint action next after) :
    (.finish 0 ∈ next → after.phase ≠ .running) ∧
      (endpoint.phase ≠ .running → after.phase ≠ .running) := by
  cases turn with
  | closePipe => simp
  | closeChannel alive => simp
  | drop attachment cause attached =>
    refine ⟨?_, id⟩
    split <;> simp
  | _ => simp

theorem Linked.turn (linked : Linked (action :: rest) endpoint)
    (turn : Turns endpoint action next after) : Linked (next ++ rest) after := by
  refine ⟨linked.sane.turn turn, fun other listed => ?_, fun listed => ?_,
    fun duties due => linked.due_turn turn due⟩
  · rcases List.mem_append.mp listed with new | old
    · exact turn.here other new
    · exact linked.here other (List.mem_cons_of_mem _ old)
  · rcases List.mem_append.mp listed with new | old
    · exact turn.begun.1 new
    · exact turn.begun.2 (linked.begun (List.mem_cons_of_mem _ old))

/-! ## The two states in which an endpoint comes to rest -/

/-- No part has ended. -/
structure Open (endpoint : Endpoint) : Prop where
  pipe : endpoint.pipe.closed = false
  objects : endpoint.notified = false
  channel : endpoint.channel.terminated = false
  supervisor : endpoint.phase = .running

/-- Every part has ended, and nothing is left of what they held. -/
structure Ended (endpoint : Endpoint) : Prop where
  pipe : endpoint.pipe.closed = true
  objects : endpoint.notified = true
  channel : endpoint.channel.terminated = true
  supervisor : endpoint.phase = .done
  outbound : endpoint.pipe.exchange.outbound = []
  inbound : endpoint.pipe.exchange.inbound = []
  attached : endpoint.pipe.attached = none
  calls : endpoint.channel.calls.pending = []
  exports : endpoint.channel.exports.entries = []

/-- Some part has ended, or the supervisor ends them. -/
def Begun (endpoint : Endpoint) : Prop :=
  endpoint.pipe.closed = true ∨ endpoint.channel.terminated = true ∨ endpoint.phase ≠ .running

/-- When nothing is left to be done, nothing is due. -/
theorem Linked.not_due (linked : Linked [] endpoint) : ¬ Due endpoint duties := fun due => by
  obtain ⟨duty, _, listed⟩ := linked.due duties due
  cases listed

/-- When nothing is left to be done and some part has ended, all have. -/
theorem Linked.ended (linked : Linked [] endpoint) (begun : endpoint.Begun) : endpoint.Ended := by
  have closed : endpoint.pipe.closed = true := by
    by_contra still
    have isOpen : endpoint.pipe.closed = false := Bool.eq_false_iff.mpr still
    rcases begun with shut | terminated | begun
    · exact still shut
    · exact linked.not_due (.below terminated isOpen)
    · exact linked.not_due (.pipe begun isOpen)
  have notified : endpoint.notified = true := by
    by_contra still
    exact linked.not_due (.objects closed (Bool.eq_false_iff.mpr still))
  have terminated : endpoint.channel.terminated = true := by
    by_contra still
    exact linked.not_due (.channel notified (Bool.eq_false_iff.mpr still))
  obtain ⟨outbound, inbound, attached⟩ := linked.sane.pipe.emptied closed
  obtain ⟨calls, exports⟩ := linked.sane.cleared terminated
  refine ⟨closed, notified, terminated, ?_, outbound, inbound, attached, calls, exports⟩
  cases phase : endpoint.phase with
  | running => exact absurd (.supervisor closed phase) linked.not_due
  | tearingDown => exact absurd (.finishing phase) linked.not_due
  | done => rfl

/-- The action ends a part, has the supervisor end them, or loses the stream in use of a pipe that
does not wait for another one. -/
def Closes (endpoint : Endpoint) : Action → Prop
  | .close _ => True
  | .pipe _ (.raise severity) => severity ≠ .warning
  | .pipe _ (.lose generation _) => endpoint.pipe.settings.reconnect = false ∧
      ∃ attachment ∈ endpoint.pipe.attached, attachment.generation = generation
  | _ => False

/-- Some part has ended, or will when the agenda has been worked off. -/
def Doomed (agenda : List Action) (endpoint : Endpoint) : Prop :=
  endpoint.Begun ∨ ∃ action ∈ agenda, endpoint.Closes action

theorem Begun.turn (begun : endpoint.Begun) (turn : Turns endpoint action next after) :
    after.Begun := by
  cases turn with
  | outside | refused | stale | notify | warn | closeObjects | closeAgain | tellAgain => exact begun
  | drop | tell => exact begun
  | begin => exact .inr (.inr (by simp))
  | closePipe => exact .inl (closed_close _)
  | closeChannel => exact .inr (.inl rfl)
  | finish => exact .inr (.inr (by simp))

/-- What ends a part ends it, or puts on the agenda what does. -/
theorem Closes.done (closes : endpoint.Closes action)
    (turn : Turns endpoint action next after) : Doomed next after := by
  cases turn with
  | outside plain =>
    cases action with
    | pipe number effect => cases effect <;> first | exact absurd trivial plain | cases closes
    | channel => cases closes
    | close => exact absurd trivial plain
    | notifyObjects => cases closes
    | finish => cases closes
  | refused | notify | tellAgain | tell | finish => cases closes
  | stale generation cause unused =>
    obtain ⟨_, attachment, attached, current⟩ := closes
    exact absurd current (unused attachment attached)
  | drop attachment cause attached =>
    obtain ⟨single, _⟩ := closes
    cases closed : endpoint.pipe.closed with
    | true => exact .inl (.inl closed)
    | false =>
      refine .inr ⟨.pipe 0 (.raise (Pipe.lossSeverity endpoint.pipe.settings cause)), by simp, ?_⟩
      cases cause <;> simp [Closes, Pipe.lossSeverity, single]
  | warn severity late =>
    rcases late with rfl | begun
    · exact absurd rfl closes
    · exact .inl (.inr (.inr begun))
  | begin => exact .inl (.inr (.inr (by simp)))
  | closePipe => exact .inl (.inl (closed_close _))
  | closeObjects => exact .inr ⟨.close ⟨0, .pipe⟩, by simp, trivial⟩
  | closeAgain terminated => exact .inl (.inr (.inl terminated))
  | closeChannel => exact .inl (.inr (.inl rfl))

theorem Doomed.mono {more : List Action} (doomed : Doomed agenda endpoint)
    (within : agenda ⊆ more) : Doomed more endpoint :=
  doomed.imp id fun ⟨action, listed, closes⟩ => ⟨action, within listed, closes⟩

/-- What ends a part still does after another action, unless the end has begun. -/
theorem Closes.later {other : Action} (closes : endpoint.Closes other)
    (turn : Turns endpoint action next after) : Doomed (other :: next) after := by
  cases turn with
  | outside | refused | stale | notify | warn | closeObjects | closeAgain | tellAgain =>
    exact .inr ⟨other, List.mem_cons_self .., closes⟩
  | tell => exact .inr ⟨other, List.mem_cons_self .., closes⟩
  | begin => exact .inl (.inr (.inr (by simp)))
  | closePipe => exact .inl (.inl (closed_close _))
  | closeChannel => exact .inl (.inr (.inl rfl))
  | finish => exact .inl (.inr (.inr (by simp)))
  | drop attachment cause attached =>
    by_cases single : endpoint.pipe.settings.reconnect = false
    · have lost : endpoint.Closes (.pipe 0 (.lose attachment.generation cause)) :=
        ⟨single, attachment, attached, rfl⟩
      exact (lost.done (.drop attachment cause attached)).mono (List.subset_cons_self ..)
    · refine .inr ⟨other, List.mem_cons_self .., ?_⟩
      cases other with
      | pipe number effect =>
        cases effect with
        | lose => exact absurd closes.1 single
        | _ => exact closes
      | _ => exact closes

theorem Doomed.turn (doomed : Doomed (action :: rest) endpoint)
    (turn : Turns endpoint action next after) : Doomed (next ++ rest) after := by
  rcases doomed with begun | ⟨other, listed, closes⟩
  · exact .inl (begun.turn turn)
  · rcases List.mem_cons.mp listed with rfl | later
    · exact (closes.done turn).mono (List.subset_append_left ..)
    · refine (closes.later turn).mono (List.cons_subset.mpr ⟨?_, List.subset_append_left ..⟩)
      exact List.mem_append_right _ later

/-! ## What an endpoint owes -/

/-- What is still to be done at the end of an endpoint: who waits for a message or for the result of
a call is told that it is closed, the stream is closed, and the receiver of objects is told. -/
def owed (endpoint : Endpoint) : List Deed :=
  (endpoint.pipe.exchange.outbound.map fun entry => .report entry.ticket (.error .closed)) ++
    (endpoint.pipe.attached.map fun attachment => Deed.shut attachment.stream).toList ++
    (endpoint.channel.calls.pending.map fun call => .complete call.caller (.error .closed)) ++
    if endpoint.notified then [] else [.tell 0]

theorem owed_of_ended (ended : endpoint.Ended) : endpoint.owed = [] := by
  simp [owed, ended.outbound, ended.attached, ended.calls, ended.objects]

theorem deeds_notifyObjects (endpoint : Endpoint) :
    endpoint.assembly.deeds (.notifyObjects 0) = if endpoint.notified then [] else [.tell 0] := by
  cases notified : endpoint.notified <;>
    simp [Assembly.deeds, assembly, composition, notified]

/-- Only the notice to the receiver of objects depends on the endpoint. -/
theorem deeds_of_ne (endpoint : Endpoint) (here : action.Here) (other : action ≠ .notifyObjects 0) :
    endpoint.assembly.deeds action = action.deeds := by
  cases action with
  | pipe number effect =>
    cases effect with
    | notify =>
      cases here
      rfl
    | _ => rfl
  | notifyObjects number =>
    cases here
    exact absurd rfl other
  | _ => rfl

theorem flatMap_deeds_map {α : Type} (make : α → Action) (deed : α → Deed)
    (alike : ∀ item, (make item).deeds = [deed item]) (items : List α) :
    (items.map make).flatMap Action.deeds = items.map deed := by
  rw [List.flatMap_map, List.map_eq_flatMap]
  exact congrArg (items.flatMap ·) (funext alike)

/-- A pipe that closes reports of its messages and closes its stream. -/
theorem deeds_close {pipe : Pipe} (isOpen : pipe.closed = false) :
    (pipe.close.2.map (Action.pipe 0)).flatMap Action.deeds =
      (pipe.exchange.outbound.map fun entry => .report entry.ticket (.error .closed)) ++
        (pipe.attached.map fun attachment => Deed.shut attachment.stream).toList := by
  have reports : ((pipe.exchange.outbound.map fun entry => (entry.ticket, .error .closed)).map
      (fun entry : Ticket × Outcome => PipeEffect.report entry.1 entry.2) |>.map
      (Action.pipe 0)).flatMap Action.deeds =
        pipe.exchange.outbound.map fun entry => .report entry.ticket (.error .closed) := by
    rw [List.map_map, List.map_map]
    exact flatMap_deeds_map _ _ (fun _ => rfl) _
  have shut : (((pipe.attached.map fun attachment => PipeEffect.shut attachment.stream).toList).map
      (Action.pipe 0)).flatMap Action.deeds =
        (pipe.attached.map fun attachment => Deed.shut attachment.stream).toList := by
    cases pipe.attached <;> rfl
  have told : ((if pipe.reception = .unbound then [] else [PipeEffect.notify]).map
      (Action.pipe 0)).flatMap Action.deeds = [] := by
    split <;> rfl
  simp only [Pipe.close, isOpen, Bool.false_eq_true, if_false, List.map_append, List.flatMap_append,
    reports, shut, told, Exchange.abandon, List.append_nil]
  exact List.append_nil _

/-- A channel that closes completes its calls. -/
theorem deeds_terminate (channel : Channel) :
    (channel.terminate.2.map (Action.channel 0)).flatMap Action.deeds =
      channel.calls.pending.map fun call => .complete call.caller (.error .closed) := by
  simp only [Channel.terminate, CallTable.abandon, List.map_map]
  exact flatMap_deeds_map _ _ (fun _ => rfl) _

/-- What is owed is put on the agenda, and what is on the agenda is done. -/
theorem Turns.deeds_perm (turn : Turns endpoint action next after) (here : action.Here) :
    (endpoint.assembly.deeds action ++ (next.flatMap Action.deeds ++ after.owed)).Perm
      (action.deeds ++ endpoint.owed) := by
  cases turn with
  | outside plain =>
    rw [deeds_of_ne endpoint here fun notice => plain (notice ▸ trivial)]
    exact .refl _
  | refused | stale | notify | warn | begin | closeObjects | closeAgain | finish => exact .refl _
  | drop attachment cause attached =>
    have raised (severity : Severity) : (if endpoint.pipe.closed = true then []
        else [Action.pipe 0 (.raise severity)]).flatMap Action.deeds = [] := by
      split <;> rfl
    simp only [owed, attached, List.flatMap_cons, raised, Assembly.deeds, Action.deeds,
      Option.map_none, Option.toList_none, Option.map_some, Option.toList_some, List.append_nil,
      List.nil_append, List.append_assoc]
    exact List.perm_append_comm_assoc ..
  | closePipe =>
    cases closed : endpoint.pipe.closed with
    | true =>
      rw [close_of_closed closed]
      exact .refl _
    | false =>
      have emptied : endpoint.pipe.close.1.exchange.outbound = [] ∧
          endpoint.pipe.close.1.attached = none := by
        simp [Pipe.close, closed, Exchange.abandon]
      simp only [owed, deeds_close closed, emptied.1, emptied.2]
      exact .of_eq (by simp [Assembly.deeds])
  | closeChannel alive =>
    have cleared : endpoint.channel.terminate.1.calls.pending = [] := rfl
    have followed : [Action.close ⟨0, .objects⟩, .pipe 0 (.raise .termination)].flatMap
      Action.deeds = [] := rfl
    simp only [owed, List.flatMap_append, deeds_terminate, followed, cleared, Assembly.deeds,
      Action.deeds, List.map_nil, List.append_nil, List.nil_append]
    exact (List.perm_append_comm_assoc ..).trans (.of_eq (List.append_assoc ..).symm)
  | tellAgain notified =>
    rw [deeds_notifyObjects, notified]
    exact .refl _
  | tell unnotified =>
    rw [deeds_notifyObjects, unnotified]
    simp only [owed, unnotified, Action.deeds]
    exact (List.append_nil _ ▸ List.perm_append_comm)

/-- **All that is owed is done once**: what is done in the course of an agenda, and what is owed
after it, is what was on the agenda and what was owed before it. -/
theorem Runs.deeds_perm {course : List (Action × Endpoint)}
    (run : Runs endpoint agenda course last) (here : ∀ action ∈ agenda, action.Here) :
    ((course.flatMap fun turn => turn.2.assembly.deeds turn.1) ++ last.owed).Perm
      (agenda.flatMap Action.deeds ++ endpoint.owed) := by
  induction run with
  | done => exact .refl _
  | @turn endpoint after last action next rest course turn run ih =>
    obtain ⟨first, later⟩ := List.forall_mem_cons.mp here
    have followed := ih fun other listed =>
      (List.mem_append.mp listed).elim (turn.here other) (later other)
    simp only [List.flatMap_cons, List.flatMap_append, List.append_assoc] at followed ⊢
    refine (followed.append_left _).trans ?_
    -- what was on the agenda behind the action is moved out of the way of its turn
    have aside : (endpoint.assembly.deeds action ++ (next.flatMap Action.deeds ++
        (rest.flatMap Action.deeds ++ after.owed))).Perm (rest.flatMap Action.deeds ++
          (endpoint.assembly.deeds action ++ (next.flatMap Action.deeds ++ after.owed))) :=
      .trans (.append_left _ (List.perm_append_comm_assoc ..)) (List.perm_append_comm_assoc ..)
    exact aside.trans (((turn.deeds_perm first).append_left _).trans
      (List.perm_append_comm_assoc ..))

/-- An agenda is worked off.  All parts end if some action sets it off, and what is due then is
done. -/
theorem Linked.exists_run {ω : Type} (linked : Linked agenda endpoint)
    (surroundings : Surroundings ω) (scene : ω) :
    ∃ course last, Runs endpoint agenda course last ∧
      (Assembly.settle surroundings endpoint.assembly scene agenda).1 = last.assembly ∧
      (Assembly.course surroundings endpoint.assembly scene agenda =
        course.map fun turn => (turn.1, turn.2.assembly)) ∧ Linked [] last := by
  obtain ⟨course, last, run, settled, worked⟩ := Endpoint.exists_run Linked
    (fun linked => linked.here _ (List.mem_cons_self ..))
    (fun linked => linked.begun (List.mem_cons_self ..))
    (fun turn linked => linked.turn turn) surroundings endpoint scene linked
  exact ⟨course, last, run, settled, worked,
    run.preserves (fun turn linked => Linked.turn linked turn) linked⟩

/-- What sets the end off, or is to, has ended all parts once the agenda has been worked off. -/
theorem Runs.begun {course : List (Action × Endpoint)} (run : Runs endpoint agenda course last)
    (doomed : Doomed agenda endpoint) : last.Begun := by
  have done : Doomed [] last := run.preserves (fun turn doomed => Doomed.turn doomed turn) doomed
  rcases done with begun | ⟨_, listed, _⟩
  · exact begun
  · cases listed

/-- Only an action that sets the end off does so. -/
theorem Turns.closes (turn : Turns endpoint action next after) (begun : after.Begun) :
    endpoint.Begun ∨ endpoint.Closes action := by
  cases turn with
  | outside | refused | stale | notify | warn | closeObjects | closeAgain | tellAgain =>
    exact .inl begun
  | drop | tell => exact .inl begun
  | begin severity grave => exact .inr grave
  | closePipe => exact .inr trivial
  | closeChannel => exact .inr trivial
  | finish running => exact .inl (.inr (.inr running))

/-- The end begins just when an action that sets it off is worked off. -/
theorem Runs.begun_iff {course : List (Action × Endpoint)}
    (run : Runs endpoint agenda course last) :
    last.Begun ↔ endpoint.Begun ∨ ∃ turn ∈ course, turn.2.Closes turn.1 := by
  constructor
  · intro begun
    induction run with
    | done => exact .inl begun
    | turn turn _ ih =>
      rcases ih begun with already | ⟨later, listed, closes⟩
      · exact (turn.closes already).imp id fun closes => ⟨_, List.mem_cons_self .., closes⟩
      · exact .inr ⟨later, List.mem_cons_of_mem _ listed, closes⟩
  · rintro (begun | ⟨closing, listed, closes⟩)
    · exact run.begun (.inl begun)
    · induction run with
      | done => cases listed
      | turn turn run ih =>
        rcases List.mem_cons.mp listed with rfl | later
        · exact run.begun ((closes.done turn).mono (List.subset_append_left ..))
        · exact ih later

end Endpoint

end Courier
