import Courier.Composition.Agenda
import Mathlib.Data.List.Basic

/-!
# One end of a connection at work

An endpoint is a channel over objects over a pipe, under a supervisor of their own.  The
parts call each other back and forth, and each of them has a flag of its own against
doing twice what it does at its end.

`Endpoint.Turns` says of every action what it makes of an endpoint and what it leaves to
be done, and `Endpoint.Runs` is an agenda that is worked off.  What an assembly does to
its surroundings and to the receiver above it are its deeds (`Assembly.deeds`); they are
read off the course of its work, the actions with the assembly that each of them meets.
-/

namespace Courier

set_option autoImplicit false

/-! ## Deeds -/

/-- What an assembly does to everything else, and the notices that its receivers are given. -/
inductive Deed where
  | report (ticket : Ticket) (outcome : Outcome)
  | complete (caller : Ticket) (result : CallResult)
  | run (composition : Nat) (request : CallRequest)
  | wake (composition : Nat)
  | write (stream : StreamId) (packets : List Packet)
  | shut (stream : StreamId)
  /-- The receiver of a composition is told that it has closed. -/
  | tell (composition : Nat)

/-- The deed that an action is, whatever the assembly. -/
def Action.deeds : Action → List Deed
  | .pipe _ (.report ticket outcome) => [.report ticket outcome]
  | .pipe number .wake => [.wake number]
  | .pipe _ (.write stream _ packets) => [.write stream packets]
  | .pipe _ (.shut stream) => [.shut stream]
  | .channel number (.run request) => [.run number request]
  | .channel _ (.complete caller result) => [.complete caller result]
  | _ => []

namespace Assembly

variable {ω : Type}

/-- What is done when an action is worked off.  The receiver of objects is told just once. -/
def deeds (assembly : Assembly) : Action → List Deed
  | .notifyObjects number =>
    match (assembly.compositions[number]?).bind (·.objects) with
    | some layer => if layer.bound ∧ ¬layer.notified then [.tell number] else []
    | none => []
  | .pipe number .notify =>
    match assembly.compositions[number]? with
    | some composition => if composition.objects.isNone then [.tell number] else []
    | none => []
  | action => action.deeds

/-- The actions that are worked off for an agenda, each with the assembly that it meets. -/
def course (surroundings : Surroundings ω) (assembly : Assembly) (scene : ω) :
    List Action → List (Action × Assembly)
  | [] => []
  | action :: rest =>
    (action, assembly) :: course surroundings (perform surroundings assembly scene action).2.1
      (perform surroundings assembly scene action).2.2
      ((perform surroundings assembly scene action).1 ++ rest)
termination_by actions => agendaWeight actions + assembly.reserve
decreasing_by
  have less := weight_perform_lt surroundings assembly scene action
  simp only [agendaWeight_append, agendaWeight_cons]
  omega

end Assembly

/-! ## Endpoints -/

structure Endpoint where
  pipe : Pipe
  /-- Whether the channel has been told that the pipe has closed. -/
  notified : Bool
  channel : Channel
  /-- Where the supervisor stands. -/
  phase : Phase

namespace Endpoint

def composition (endpoint : Endpoint) : Composition :=
  ⟨0, endpoint.pipe, some ⟨true, endpoint.notified⟩, some endpoint.channel⟩

/-- The parts in the order in which they register. -/
def parts : List Part := [⟨0, .pipe⟩, ⟨0, .objects⟩, ⟨0, .channel⟩]

/-- The supervisor lets go of the parts when it begins to shut them down. -/
def supervisor (endpoint : Endpoint) : Supervisor Part :=
  ⟨endpoint.phase, if endpoint.phase = .running then parts else []⟩

def assembly (endpoint : Endpoint) : Assembly := ⟨[endpoint.composition], [endpoint.supervisor]⟩

end Endpoint

/-! ## What an action does -/

/-- The action concerns the only composition and its supervisor. -/
def Action.Here : Action → Prop
  | .pipe number _ => number = 0
  | .channel number _ => number = 0
  | .close part => part.composition = 0
  | .notifyObjects number => number = 0
  | .finish supervisor => supervisor = 0

/-- The action may change an endpoint, or may be due to an end of a part. -/
def Action.Vital : Action → Prop
  | .pipe _ (.report _ _) => False
  | .pipe _ .wake => False
  | .pipe _ (.write _ _ _) => False
  | .pipe _ (.shut _) => False
  | .channel _ _ => False
  | _ => True

namespace Endpoint

/-- What an action makes of an endpoint, and what is to be done next. -/
inductive Turns (endpoint : Endpoint) : Action → List Action → Endpoint → Prop where
  /-- Something is done outside of the endpoint. -/
  | outside {action : Action} (plain : ¬ action.Vital) : Turns endpoint action [] endpoint
  /-- A write fails. -/
  | refused (stream : StreamId) (generation : Nat) (packets : List Packet) (error : StreamError) :
      Turns endpoint (.pipe 0 (.write stream generation packets))
        [.pipe 0 (.lose generation (some error))] endpoint
  /-- A stream is lost that is not in use. -/
  | stale (generation : Nat) (cause : Option StreamError)
      (unused : ∀ attachment ∈ endpoint.pipe.attached, attachment.generation ≠ generation) :
      Turns endpoint (.pipe 0 (.lose generation cause)) [] endpoint
  /-- The stream in use is lost. -/
  | drop (attachment : Attachment) (cause : Option StreamError)
      (attached : endpoint.pipe.attached = some attachment) :
      Turns endpoint (.pipe 0 (.lose attachment.generation cause))
        (.pipe 0 (.shut attachment.stream) ::
          if endpoint.pipe.closed then []
          else [.pipe 0 (.raise (Pipe.lossSeverity endpoint.pipe.settings cause))])
        { endpoint with pipe := { endpoint.pipe with attached := none } }
  /-- The receiver of the pipe, which is the layer of objects, is told. -/
  | notify : Turns endpoint (.pipe 0 .notify) [.notifyObjects 0] endpoint
  /-- A report has no consequence. -/
  | warn (severity : Severity) (late : severity = .warning ∨ endpoint.phase ≠ .running) :
      Turns endpoint (.pipe 0 (.raise severity)) [] endpoint
  /-- The supervisor begins to shut the parts down. -/
  | begin (severity : Severity) (grave : severity ≠ .warning)
      (running : endpoint.phase = .running) :
      Turns endpoint (.pipe 0 (.raise severity)) (Assembly.teardownActions 0 parts)
        { endpoint with phase := .tearingDown }
  | closePipe : Turns endpoint (.close ⟨0, .pipe⟩)
      (endpoint.pipe.close.2.map (Action.pipe 0)) { endpoint with pipe := endpoint.pipe.close.1 }
  | closeObjects :
      Turns endpoint (.close ⟨0, .objects⟩) [.close ⟨0, .pipe⟩, .notifyObjects 0] endpoint
  /-- The channel has been closed before. -/
  | closeAgain (terminated : endpoint.channel.terminated = true) :
      Turns endpoint (.close ⟨0, .channel⟩) [] endpoint
  | closeChannel (alive : endpoint.channel.terminated = false) :
      Turns endpoint (.close ⟨0, .channel⟩)
        (endpoint.channel.terminate.2.map (Action.channel 0) ++
          [.close ⟨0, .objects⟩, .pipe 0 (.raise .termination)])
        { endpoint with channel := endpoint.channel.terminate.1 }
  /-- The channel has been told before. -/
  | tellAgain (notified : endpoint.notified = true) :
      Turns endpoint (.notifyObjects 0) [] endpoint
  | tell (unnotified : endpoint.notified = false) :
      Turns endpoint (.notifyObjects 0) [.close ⟨0, .channel⟩] { endpoint with notified := true }
  | finish (begun : endpoint.phase ≠ .running) :
      Turns endpoint (.finish 0) [] { endpoint with phase := .done }

variable {ω : Type}

theorem perform_lose (surroundings : Surroundings ω) (endpoint : Endpoint) (scene : ω)
    (generation : Nat) (cause : Option StreamError) :
    Assembly.perform surroundings endpoint.assembly scene (.pipe 0 (.lose generation cause)) =
      ((endpoint.pipe.lose generation cause).2.map (Action.pipe 0),
        { endpoint with pipe := (endpoint.pipe.lose generation cause).1 : Endpoint }.assembly,
        scene) := rfl

theorem perform_close_pipe (surroundings : Surroundings ω) (endpoint : Endpoint) (scene : ω) :
    Assembly.perform surroundings endpoint.assembly scene (.close ⟨0, .pipe⟩) =
      (endpoint.pipe.close.2.map (Action.pipe 0),
        { endpoint with pipe := endpoint.pipe.close.1 : Endpoint }.assembly, scene) := rfl

theorem perform_close_channel (surroundings : Surroundings ω) (endpoint : Endpoint) (scene : ω) :
    Assembly.perform surroundings endpoint.assembly scene (.close ⟨0, .channel⟩) =
      if endpoint.channel.terminated then ([], endpoint.assembly, scene)
      else
        (endpoint.channel.terminate.2.map (Action.channel 0) ++
            [.close ⟨0, .objects⟩, .pipe 0 (.raise .termination)],
          { endpoint with channel := endpoint.channel.terminate.1 : Endpoint }.assembly,
          scene) := by
  simp only [Assembly.perform, Assembly.close, assembly, composition, List.getElem?_cons_zero]
  split <;> rfl

theorem perform_raise (surroundings : Surroundings ω) (endpoint : Endpoint) (scene : ω)
    (severity : Severity) :
    Assembly.perform surroundings endpoint.assembly scene (.pipe 0 (.raise severity)) =
      if severity = .warning ∨ endpoint.phase ≠ .running then ([], endpoint.assembly, scene)
      else (Assembly.teardownActions 0 parts,
        { endpoint with phase := .tearingDown : Endpoint }.assembly, scene) := by
  obtain ⟨pipe, notified, channel, phase⟩ := endpoint
  cases severity <;> cases phase <;> rfl

theorem perform_notifyObjects (surroundings : Surroundings ω) (endpoint : Endpoint) (scene : ω) :
    Assembly.perform surroundings endpoint.assembly scene (.notifyObjects 0) =
      if endpoint.notified then ([], endpoint.assembly, scene)
      else ([.close ⟨0, .channel⟩], { endpoint with notified := true : Endpoint }.assembly,
        scene) := by
  obtain ⟨pipe, notified, channel, phase⟩ := endpoint
  cases notified <;> rfl

/-- Performing an action is a turn of the endpoint. -/
theorem exists_turn (surroundings : Surroundings ω) (endpoint : Endpoint) (scene : ω)
    {action : Action} (here : action.Here)
    (begun : action = .finish 0 → endpoint.phase ≠ .running) :
    ∃ after : Endpoint,
      (Assembly.perform surroundings endpoint.assembly scene action).2.1 = after.assembly ∧
      Turns endpoint action (Assembly.perform surroundings endpoint.assembly scene action).1
        after := by
  cases action with
  | pipe number effect =>
    cases here
    cases effect with
    | report ticket outcome => exact ⟨_, rfl, .outside not_false⟩
    | wake => exact ⟨_, rfl, .outside not_false⟩
    | shut stream => exact ⟨_, rfl, .outside not_false⟩
    | write stream generation packets =>
      simp only [Assembly.perform, Assembly.performPipe]
      split
      · exact ⟨_, rfl, .outside not_false⟩
      · exact ⟨_, rfl, .refused ..⟩
    | lose generation cause =>
      rw [perform_lose]
      refine ⟨_, rfl, ?_⟩
      unfold Pipe.lose
      split
      · rename_i nothing
        exact .stale generation cause (by simp [nothing])
      · rename_i attachment attached
        split
        · rename_i current
          cases current
          have turn := Turns.drop attachment cause attached
          cases closed : endpoint.pipe.closed <;> simpa [closed] using turn
        · rename_i other
          exact .stale generation cause (by simpa [attached] using other)
    | notify => exact ⟨_, rfl, .notify⟩
    | raise severity =>
      rw [perform_raise]
      split
      · rename_i late
        exact ⟨_, rfl, .warn severity late⟩
      · rename_i early
        obtain ⟨grave, running⟩ := not_or.mp early
        exact ⟨_, rfl, .begin severity grave (not_not.mp running)⟩
  | channel number effect => cases effect <;> exact ⟨_, rfl, .outside not_false⟩
  | close part =>
    obtain ⟨number, layer⟩ := part
    cases here
    cases layer with
    | pipe =>
      rw [perform_close_pipe]
      exact ⟨_, rfl, .closePipe⟩
    | objects => exact ⟨_, rfl, .closeObjects⟩
    | channel =>
      rw [perform_close_channel]
      split
      · rename_i terminated
        exact ⟨_, rfl, .closeAgain terminated⟩
      · rename_i alive
        exact ⟨_, rfl, .closeChannel (Bool.eq_false_iff.mpr alive)⟩
  | notifyObjects number =>
    cases here
    rw [perform_notifyObjects]
    split
    · rename_i notified
      exact ⟨_, rfl, .tellAgain notified⟩
    · rename_i unnotified
      exact ⟨_, rfl, .tell (Bool.eq_false_iff.mpr unnotified)⟩
  | finish number =>
    cases here
    have begun := begun rfl
    refine ⟨{ endpoint with phase := .done }, ?_, .finish begun⟩
    simp [Assembly.perform, assembly, composition, supervisor, Supervisor.finishTeardown, begun]

theorem Turns.here {endpoint after : Endpoint} {action : Action} {next : List Action}
    (turn : Turns endpoint action next after) : ∀ other ∈ next, other.Here := by
  cases turn with
  | outside | stale | warn | closeAgain | tellAgain | finish => simp
  | refused | notify | closeObjects | tell => simp [Action.Here]
  | drop attachment cause attached =>
    split <;> simp [Action.Here]
  | begin => simp [Assembly.teardownActions, parts, Action.Here]
  | closePipe =>
    intro other listed
    obtain ⟨effect, _, rfl⟩ := List.mem_map.mp listed
    rfl
  | closeChannel alive =>
    intro other listed
    rcases List.mem_append.mp listed with told | last
    · obtain ⟨effect, _, rfl⟩ := List.mem_map.mp told
      rfl
    · rcases List.mem_cons.mp last with rfl | last
      · rfl
      · cases List.mem_singleton.mp last
        rfl

/-! ## Agendas -/

/-- An agenda is worked off, each action with the endpoint that it meets. -/
inductive Runs : Endpoint → List Action → List (Action × Endpoint) → Endpoint → Prop where
  | done (endpoint : Endpoint) : Runs endpoint [] [] endpoint
  | turn {endpoint after last : Endpoint} {action : Action} {next rest : List Action}
      {course : List (Action × Endpoint)} (turn : Turns endpoint action next after)
      (run : Runs after (next ++ rest) course last) :
      Runs endpoint (action :: rest) ((action, endpoint) :: course) last

/-- What holds of an agenda and an endpoint whenever an action is to be worked off, holds in the
end. -/
theorem Runs.preserves {Holds : List Action → Endpoint → Prop}
    (step : ∀ {endpoint after action next rest}, Turns endpoint action next after →
      Holds (action :: rest) endpoint → Holds (next ++ rest) after)
    {endpoint last : Endpoint} {agenda : List Action} {course : List (Action × Endpoint)}
    (run : Runs endpoint agenda course last) (start : Holds agenda endpoint) : Holds [] last := by
  induction run with
  | done => exact start
  | turn turn _ ih => exact ih (step turn start)

/-- Agendas are worked off by turns, as long as nothing is finished that has not begun. -/
theorem exists_run (Holds : List Action → Endpoint → Prop)
    (here : ∀ {endpoint action rest}, Holds (action :: rest) endpoint → action.Here)
    (begun : ∀ {endpoint rest}, Holds (.finish 0 :: rest) endpoint → endpoint.phase ≠ .running)
    (step : ∀ {endpoint after action next rest}, Turns endpoint action next after →
      Holds (action :: rest) endpoint → Holds (next ++ rest) after)
    (surroundings : Surroundings ω) (endpoint : Endpoint) (scene : ω) {agenda : List Action}
    (start : Holds agenda endpoint) :
    ∃ course last, Runs endpoint agenda course last ∧
      (Assembly.settle surroundings endpoint.assembly scene agenda).1 = last.assembly ∧
      Assembly.course surroundings endpoint.assembly scene agenda =
        course.map fun turn => (turn.1, turn.2.assembly) := by
  generalize same : endpoint.assembly = assembly
  fun_induction Assembly.settle surroundings assembly scene agenda generalizing endpoint with
  | case1 assembly scene =>
    exact ⟨[], endpoint, .done endpoint, same.symm, by rw [Assembly.course]; rfl⟩
  | case2 assembly scene action rest ih =>
    subst same
    obtain ⟨after, performed, turn⟩ := exists_turn surroundings endpoint scene (here start)
      fun finishing => by subst finishing; exact begun start
    obtain ⟨course, last, run, settled, worked⟩ := ih after (step turn start) performed.symm
    refine ⟨(action, endpoint) :: course, last, .turn turn run, settled, ?_⟩
    rw [Assembly.course, worked]
    rfl

end Endpoint

end Courier
