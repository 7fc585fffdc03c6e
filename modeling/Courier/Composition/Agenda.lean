import Courier.Composition.Basic
import Courier.Weights

/-!
# Working off an agenda

Every action has a weight, and what an assembly can still bring about has a
weight too: a message or a call that somebody waits for, a stream in use, a part
that is not closed, a supervisor that has not begun its teardown.  An action
uses up more than it leaves to be done (`weight_perform_lt`), so an agenda comes
to its end, and `settle` works it off.
-/

namespace Courier

set_option autoImplicit false

/-! ## Weights -/

/-- How much an effect can bring about. -/
def PipeEffect.weight : PipeEffect → Nat
  | write _ _ _ => 2
  | notify => 2
  | _ => 1

/-- How much the closing of a part can bring about. -/
def Layer.weight : Layer → Nat
  | pipe => 1
  | objects => 3
  | channel => 1

def Action.weight : Action → Nat
  | pipe _ effect => effect.weight
  | channel _ _ => 1
  | close part => part.layer.weight
  | notifyObjects _ => 1
  | finish _ => 1

/-- The weight of an agenda. -/
def agendaWeight (actions : List Action) : Nat := totalWeight Action.weight actions

@[simp] theorem agendaWeight_nil : agendaWeight [] = 0 := rfl

@[simp] theorem agendaWeight_cons (action : Action) (actions : List Action) :
    agendaWeight (action :: actions) = action.weight + agendaWeight actions := by
  simp [agendaWeight]

@[simp] theorem agendaWeight_append (first second : List Action) :
    agendaWeight (first ++ second) = agendaWeight first + agendaWeight second := by
  simp [agendaWeight]

/-- What a pipe can still bring about. -/
def Pipe.reserve (pipe : Pipe) : Nat :=
  (if pipe.closed then 0 else pipe.exchange.outbound.length + 3) +
    if pipe.attached.isSome then 2 else 0

def ObjectLayer.reserve (layer : ObjectLayer) : Nat := if layer.notified then 0 else 1

/-- What a channel can still bring about. -/
def Channel.reserve (channel : Channel) : Nat :=
  if channel.terminated then 0 else channel.calls.pending.length + 4

/-- What a composition can still bring about. -/
def Composition.reserve (composition : Composition) : Nat :=
  composition.pipe.reserve + (composition.objects.map ObjectLayer.reserve).getD 0 +
    (composition.channel.map Channel.reserve).getD 0

/-- What a supervisor can still bring about. -/
def partsReserve (supervisor : Supervisor Part) : Nat :=
  if supervisor.terminated then 0
  else totalWeight (fun part => part.layer.weight) supervisor.parts + 1

/-- What an assembly can still bring about. -/
def Assembly.reserve (assembly : Assembly) : Nat :=
  totalWeight Composition.reserve assembly.compositions +
    totalWeight partsReserve assembly.supervisors

/-! ## An action uses up more than it leaves -/

namespace Assembly

variable {ω : Type}

theorem reserve_setComposition {assembly : Assembly} {number : Nat} {old : Composition}
    (found : assembly.compositions[number]? = some old) (new : Composition) :
    (assembly.setComposition number new).reserve + old.reserve =
      assembly.reserve + new.reserve := by
  have sums := totalWeight_set Composition.reserve found new
  simp only [setComposition, reserve]
  omega

theorem weight_teardownActions (supervisor : Nat) (parts : List Part) :
    agendaWeight (teardownActions supervisor parts) =
      totalWeight (fun part => part.layer.weight) parts + 1 := by
  have inner : agendaWeight (parts.map Action.close) =
      totalWeight (fun part => part.layer.weight) parts := by
    simp [agendaWeight, Action.weight]
  simp [teardownActions, inner, Action.weight]

theorem weight_raise (assembly : Assembly) (supervisor : Nat) (severity : Severity) :
    agendaWeight (assembly.raise supervisor severity).1 +
      (assembly.raise supervisor severity).2.reserve ≤ assembly.reserve := by
  unfold raise
  split
  · simp
  · simp
  · rename_i found _ located
    cases found with
    | mk phase parts =>
      cases phase with
      | running =>
        have sums := totalWeight_set partsReserve located ⟨.tearingDown, []⟩
        have before : partsReserve ⟨.running, parts⟩ =
            totalWeight (fun part => part.layer.weight) parts + 1 := rfl
        have after : partsReserve (⟨.tearingDown, []⟩ : Supervisor Part) = 0 := rfl
        simp only [Supervisor.beginTeardown, weight_teardownActions, reserve]
        omega
      | tearingDown => simp [Supervisor.beginTeardown]
      | done => simp [Supervisor.beginTeardown]

theorem weight_map_pipe (number : Nat) (effects : List PipeEffect) :
    agendaWeight (effects.map (Action.pipe number)) = totalWeight PipeEffect.weight effects := by
  simp [agendaWeight, Action.weight]

theorem weight_map_channel (number : Nat) (effects : List ChannelEffect) :
    agendaWeight (effects.map (Action.channel number)) = effects.length := by
  induction effects with
  | nil => rfl
  | cons effect rest ih =>
    simp only [List.map_cons, agendaWeight_cons, ih, Action.weight, List.length_cons]
    omega

/-- Losing a stream brings about no more than the stream in use was good for. -/
theorem weight_pipe_lose (pipe : Pipe) (generation : Nat) (cause : Option StreamError) :
    totalWeight PipeEffect.weight (pipe.lose generation cause).2 +
      (pipe.lose generation cause).1.reserve ≤ pipe.reserve := by
  unfold Pipe.lose
  split
  · simp
  · rename_i attachment attached
    split
    · simp only [Pipe.reserve, attached]
      split
      · simp [PipeEffect.weight]
      · simp [PipeEffect.weight]
        omega
    · simp

/-- Closing a pipe brings about no more than the open pipe was good for. -/
theorem weight_pipe_close (pipe : Pipe) :
    totalWeight PipeEffect.weight pipe.close.2 + pipe.close.1.reserve ≤ pipe.reserve := by
  unfold Pipe.close
  split
  · simp
  · rename_i opened
    have reports : ∀ outbound : List Outbound, totalWeight PipeEffect.weight
        ((outbound.map fun entry => (entry.ticket, (.error .closed : Outcome))).map
          fun entry => PipeEffect.report entry.1 entry.2) = outbound.length := by
      intro outbound
      rw [totalWeight_map, totalWeight_map]
      exact totalWeight_one outbound
    simp only [Exchange.abandon, Pipe.reserve, totalWeight_append, reports, opened]
    cases pipe.attached <;> cases pipe.reception <;> simp [PipeEffect.weight]

theorem weight_lose (assembly : Assembly) (number generation : Nat)
    (cause : Option StreamError) :
    agendaWeight (assembly.lose number generation cause).1 +
      (assembly.lose number generation cause).2.reserve ≤ assembly.reserve := by
  unfold lose
  split
  · simp
  · rename_i composition found
    have inner := weight_pipe_lose composition.pipe generation cause
    have sums := reserve_setComposition found
      { composition with pipe := (composition.pipe.lose generation cause).1 }
    simp only [weight_map_pipe]
    simp only [Composition.reserve] at sums
    omega

theorem weight_close_lt (assembly : Assembly) (part : Part) :
    agendaWeight (assembly.close part).1 + (assembly.close part).2.reserve <
      part.layer.weight + assembly.reserve := by
  cases part with
  | mk number layer =>
    unfold close
    split
    · cases layer <;> simp [Layer.weight]
    · rename_i composition found
      cases layer with
      | pipe =>
        have inner := weight_pipe_close composition.pipe
        have sums := reserve_setComposition found
          { composition with pipe := composition.pipe.close.1 }
        simp only [weight_map_pipe, Layer.weight]
        simp only [Composition.reserve] at sums
        omega
      | objects => simp [Layer.weight, Action.weight]
      | channel =>
        simp only
        split
        · simp [Layer.weight]
        · rename_i channel present
          split
          · simp [Layer.weight]
          · rename_i alive
            have sums := reserve_setComposition found
              { composition with channel := some channel.terminate.1 }
            simp only [agendaWeight_append, weight_map_channel, agendaWeight_cons,
              agendaWeight_nil, Action.weight, Layer.weight, PipeEffect.weight]
            simp only [Composition.reserve, present, Option.map_some, Option.getD_some,
              Channel.reserve, Channel.terminate, CallTable.abandon, if_true, alive] at sums
            simp only [Channel.terminate, CallTable.abandon, List.length_map]
            simp at sums
            omega

theorem weight_notifyObjects_lt (surroundings : Surroundings ω) (assembly : Assembly)
    (number : Nat) (scene : ω) :
    agendaWeight (notifyObjects surroundings assembly number scene).1 +
      (notifyObjects surroundings assembly number scene).2.1.reserve <
      1 + assembly.reserve := by
  unfold notifyObjects
  split
  · simp
  · rename_i composition found
    split
    · simp
    · rename_i layer present
      split
      · rename_i untold
        have sums := reserve_setComposition found
          { composition with objects := some { layer with notified := true } }
        simp only [Composition.reserve, present, Option.map_some, Option.getD_some,
          ObjectLayer.reserve, untold.2] at sums
        split
        · simp [Action.weight, Layer.weight] at sums ⊢
          omega
        · simp at sums ⊢
          omega
      · simp

theorem weight_notify_lt (surroundings : Surroundings ω) (assembly : Assembly)
    (number : Nat) (scene : ω) :
    agendaWeight (notify surroundings assembly number scene).1 +
      (notify surroundings assembly number scene).2.1.reserve <
      2 + assembly.reserve := by
  unfold notify
  split
  · simp
  · split <;> simp [Action.weight]

/-- An action uses up more than it leaves to be done. -/
theorem weight_perform_lt (surroundings : Surroundings ω) (assembly : Assembly) (scene : ω)
    (action : Action) :
    agendaWeight (perform surroundings assembly scene action).1 +
      (perform surroundings assembly scene action).2.1.reserve <
      action.weight + assembly.reserve := by
  cases action with
  | pipe number effect =>
    cases effect with
    | report ticket outcome => simp [perform, performPipe, Action.weight, PipeEffect.weight]
    | wake => simp [perform, performPipe, Action.weight, PipeEffect.weight]
    | write stream generation packets =>
      simp only [perform, performPipe, Action.weight, PipeEffect.weight]
      split <;> simp [Action.weight, PipeEffect.weight]
    | shut stream => simp [perform, performPipe, Action.weight, PipeEffect.weight]
    | lose generation cause =>
      have inner := weight_lose assembly number generation cause
      simp only [perform, performPipe, Action.weight, PipeEffect.weight]
      omega
    | notify =>
      have inner := weight_notify_lt surroundings assembly number scene
      simpa [perform, performPipe, Action.weight, PipeEffect.weight] using inner
    | raise severity =>
      simp only [perform, performPipe, Action.weight, PipeEffect.weight]
      split
      · simp
      · rename_i composition found
        have inner := weight_raise assembly composition.supervisor severity
        simp only
        omega
  | channel number effect => cases effect <;> simp [perform, Action.weight]
  | close part =>
    have inner := weight_close_lt assembly part
    simpa [perform, Action.weight] using inner
  | notifyObjects number =>
    have inner := weight_notifyObjects_lt surroundings assembly number scene
    simpa [perform, Action.weight] using inner
  | finish supervisor =>
    have kept : totalWeight partsReserve
        (assembly.supervisors.modify supervisor Supervisor.finishTeardown) ≤
          totalWeight partsReserve assembly.supervisors := by
      generalize assembly.supervisors = supervisors
      induction supervisors generalizing supervisor with
      | nil => simp
      | cons head tail ih =>
        cases supervisor with
        | zero => simp [partsReserve, Supervisor.finishTeardown, Supervisor.terminated]
        | succ supervisor =>
          have smaller := ih supervisor
          simp only [List.modify_succ_cons, totalWeight_cons]
          omega
    simp only [perform, Action.weight, agendaWeight_nil, reserve]
    omega

/-! ## The work -/

/-- Works off an agenda, what follows from an action before what came after it. -/
def settle (surroundings : Surroundings ω) (assembly : Assembly) (scene : ω) :
    List Action → Assembly × ω
  | [] => (assembly, scene)
  | action :: rest =>
    settle surroundings (perform surroundings assembly scene action).2.1
      (perform surroundings assembly scene action).2.2
      ((perform surroundings assembly scene action).1 ++ rest)
termination_by actions => agendaWeight actions + assembly.reserve
decreasing_by
  have less := weight_perform_lt surroundings assembly scene action
  simp only [agendaWeight_append, agendaWeight_cons]
  omega

end Assembly

end Courier
