/-!
# Supervisors

The parts of a composition register with one supervisor.  When something ends
or fails, the supervisor shuts every part down, in the order in which they
registered, once: whoever asks during or after the teardown finds it done or
under way.  A part that registers later is shut down at once.

A supervisor only decides.  Shutting a part down is up to its surroundings,
since it may ask the supervisor again.
-/

namespace Courier

set_option autoImplicit false

/-- Where a supervisor stands. -/
inductive Phase where
  | running
  /-- The parts are being shut down. -/
  | tearingDown
  | done
deriving DecidableEq

/-- A supervisor of parts of some type. -/
structure Supervisor (κ : Type) where
  phase : Phase
  /-- The parts to be shut down, in the order of their registration. -/
  parts : List κ

namespace Supervisor

variable {κ : Type}

def new : Supervisor κ := ⟨.running, []⟩

/-- Whether the end of the composition has been decided. -/
def terminated (supervisor : Supervisor κ) : Bool := supervisor.phase ≠ .running

/-- Whether every part has been shut down. -/
def tornDown (supervisor : Supervisor κ) : Bool := supervisor.phase = .done

/-- Registers a part.  Gives the part back if it has to be shut down at once. -/
def register (supervisor : Supervisor κ) (part : κ) : Option κ × Supervisor κ :=
  if supervisor.terminated then (some part, supervisor)
  else (none, { supervisor with parts := supervisor.parts ++ [part] })

/-- Begins the teardown, unless it has begun before, and gives the parts to be shut down. -/
def beginTeardown (supervisor : Supervisor κ) : Option (List κ) × Supervisor κ :=
  match supervisor.phase with
  | .running => (some supervisor.parts, ⟨.tearingDown, []⟩)
  | _ => (none, supervisor)

/-- Every part has been shut down. -/
def finishTeardown (supervisor : Supervisor κ) : Supervisor κ := { supervisor with phase := .done }

/-- A teardown begins at most once. -/
theorem beginTeardown_of_terminated {supervisor : Supervisor κ}
    (terminated : supervisor.terminated = true) :
    supervisor.beginTeardown = (none, supervisor) := by
  cases supervisor with
  | mk phase parts => cases phase <;> simp_all [beginTeardown, Supervisor.terminated]

end Supervisor

end Courier
