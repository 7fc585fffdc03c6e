import Courier.Supervisor.Basic
import Courier.Weights

/-!
# Scripted components

Components for trying out a supervisor.  A component does what its script says
while it is being shut down: it may report to the supervisor again, from its own
thread or another one, and register further components.

What happens is worked off in the order in which a single thread would do it: a
request that leads to the shutdown of other components is followed by these
shutdowns, and only then by the next request of the component that made it.
Every request and every component is worked off once, so the work ends.
-/

namespace Courier

set_option autoImplicit false

/-- What a component may ask of its supervisor. -/
inductive Request (κ : Type) where
  | warn
  | terminate
  | fatal
  /-- Report a fatal error from another thread, which waits for the teardown to end. -/
  | fatalAside
  | register (component : κ)

/-- A component with an identity, a name, and what it does while it is being shut down. -/
inductive Component where
  | mk (identity : Nat) (name : String) (script : List (Request Component))

namespace Component

def identity : Component → Nat
  | mk identity _ _ => identity

def name : Component → String
  | mk _ name _ => name

def script : Component → List (Request Component)
  | mk _ _ script => script

end Component

/-- What can be seen of a teardown. -/
inductive Remark where
  /-- A component has been told to shut down. -/
  | shutDown (component : String)
  /-- The other thread of a component has waited for the teardown to end. -/
  | waited (component : String)
  /-- A component that has started another thread goes on. -/
  | leaving (component : String)
deriving DecidableEq

/-- What there is still to do. -/
inductive Duty where
  | shutDown (component : Component)
  /-- A request of the component with a name. -/
  | request (component : String) (asked : Request Component)
  | finish

/-! ## How much there is to do -/

mutual

/-- How much a component can cause. -/
def Component.weight : Component → Nat
  | .mk _ _ script => 1 + scriptWeight script

def requestWeight : Request Component → Nat
  | .register component => 1 + Component.weight component
  | .warn => 1
  | .terminate => 1
  | .fatal => 1
  | .fatalAside => 1

def scriptWeight : List (Request Component) → Nat
  | [] => 0
  | request :: rest => requestWeight request + scriptWeight rest

end

def Duty.weight : Duty → Nat
  | shutDown component => component.weight
  | request _ asked => requestWeight asked
  | finish => 1

/-! ## Working it off -/

structure Drill where
  supervisor : Supervisor Component
  /-- The identities of the components that are gone. -/
  dropped : List Nat
  /-- The components whose other thread waits for the end of the teardown. -/
  waiting : List String
  remarks : List Remark

namespace Drill

def new : Drill := ⟨.new, [], [], []⟩

def remark (drill : Drill) (remark : Remark) : Drill :=
  { drill with remarks := drill.remarks ++ [remark] }

/-- How much the registered components can cause, and the end of their teardown. -/
def reserve (drill : Drill) : Nat :=
  totalWeight Component.weight drill.supervisor.parts +
    match drill.supervisor.phase with
    | .running => 1
    | _ => 0

/-- The teardown, if it has not begun before. -/
def teardown (drill : Drill) : List Duty × Drill :=
  match drill.supervisor.beginTeardown with
  | (some parts, supervisor) =>
    (parts.map Duty.shutDown ++ [.finish], { drill with supervisor })
  | (none, supervisor) => ([], { drill with supervisor })

/-- The other thread of a component reports a fatal error: it waits if the teardown is under way. -/
def reportAside (drill : Drill) (component : String) : Drill :=
  (match drill.supervisor.phase with
    | .done => drill.remark (.waited component)
    | _ => { drill with waiting := drill.waiting ++ [component] }).remark (.leaving component)

/-- Registers a component; if it comes too late, it is to be shut down. -/
def register (drill : Drill) (component : Component) : List Duty × Drill :=
  match drill.supervisor.register component with
  | (some late, supervisor) => ([.shutDown late], { drill with supervisor })
  | (none, supervisor) => ([], { drill with supervisor })

/-- Does one thing, and gives what has to be done next. -/
def perform (drill : Drill) : Duty → List Duty × Drill
  | .shutDown component =>
    if component.identity ∈ drill.dropped then ([], drill)
    else (component.script.map (Duty.request component.name),
      drill.remark (.shutDown component.name))
  | .request _ .warn => ([], drill)
  | .request _ .terminate => drill.teardown
  | .request _ .fatal => drill.teardown
  | .request component .fatalAside => ([], drill.reportAside component)
  | .request _ (.register component) => drill.register component
  | .finish =>
    ([], { drill with
      supervisor := drill.supervisor.finishTeardown
      waiting := []
      remarks := drill.remarks ++ drill.waiting.map Remark.waited })

theorem totalWeight_script (name : String) (script : List (Request Component)) :
    totalWeight Duty.weight (script.map (Duty.request name)) = scriptWeight script := by
  induction script with
  | nil => rfl
  | cons request rest ih =>
    simp only [List.map_cons, totalWeight_cons, ih, Duty.weight, scriptWeight]

theorem totalWeight_shutDown (components : List Component) :
    totalWeight Duty.weight (components.map Duty.shutDown) =
      totalWeight Component.weight components := totalWeight_map ..

theorem weight_teardown (drill : Drill) :
    totalWeight Duty.weight drill.teardown.1 + drill.teardown.2.reserve ≤ drill.reserve := by
  cases drill with
  | mk supervisor dropped waiting remarks =>
    cases supervisor with
    | mk phase parts =>
      cases phase
      · simp only [teardown, Supervisor.beginTeardown, reserve, totalWeight_append,
          totalWeight_shutDown]
        simp [Duty.weight]
      · simp [teardown, Supervisor.beginTeardown, reserve]
      · simp [teardown, Supervisor.beginTeardown, reserve]

theorem weight_register (drill : Drill) (component : Component) :
    totalWeight Duty.weight (drill.register component).1 + (drill.register component).2.reserve ≤
      drill.reserve + component.weight := by
  cases drill with
  | mk supervisor dropped waiting remarks =>
    cases supervisor with
    | mk phase parts =>
      cases phase <;>
        simp [register, Supervisor.register, Supervisor.terminated, reserve, Duty.weight] <;>
        omega

/-- Doing one thing leaves less to do. -/
theorem weight_perform_lt (drill : Drill) (duty : Duty) :
    totalWeight Duty.weight (drill.perform duty).1 + (drill.perform duty).2.reserve <
      duty.weight + drill.reserve := by
  cases duty with
  | shutDown component =>
    cases component with
    | mk identity name script =>
      simp only [perform, Duty.weight, Component.weight]
      split
      · simp only [totalWeight_nil]
        omega
      · simp only [Component.script, Component.name, totalWeight_script, remark, reserve]
        omega
  | request name request =>
    cases request with
    | warn => simp [perform, Duty.weight, requestWeight]
    | terminate =>
      have bound := drill.weight_teardown
      simp only [perform, Duty.weight, requestWeight]
      omega
    | fatal =>
      have bound := drill.weight_teardown
      simp only [perform, Duty.weight, requestWeight]
      omega
    | fatalAside =>
      have same : (drill.reportAside name).reserve = drill.reserve := by
        unfold reportAside
        split <;> rfl
      simp [perform, Duty.weight, requestWeight, same]
    | register component =>
      have bound := drill.weight_register component
      simp only [perform, Duty.weight, requestWeight]
      omega
  | finish =>
    cases drill with
    | mk supervisor dropped waiting remarks =>
      cases supervisor with
      | mk phase parts =>
        cases phase with
        | running =>
          simp [perform, Duty.weight, reserve, Supervisor.finishTeardown]
          omega
        | tearingDown | done =>
          simp [perform, Duty.weight, reserve, Supervisor.finishTeardown]

/-- Does everything there is to do, what follows from a thing before what came after it. -/
def run (drill : Drill) : List Duty → Drill
  | [] => drill
  | duty :: rest => run (drill.perform duty).2 ((drill.perform duty).1 ++ rest)
termination_by duties => totalWeight Duty.weight duties + drill.reserve
decreasing_by
  have less := drill.weight_perform_lt duty
  simp only [totalWeight_append, totalWeight_cons]
  omega

/-- A request from outside, and all that follows from it. -/
def ask (drill : Drill) (asked : Request Component) : Drill :=
  drill.run [.request "" asked]

/-- A component is gone; the supervisor keeps no component alive. -/
def drop (drill : Drill) (identity : Nat) : Drill :=
  { drill with dropped := identity :: drill.dropped }

end Drill

/-! ## Components by name -/

/-- A drill whose components are known by name until they are gone. -/
structure Roster where
  drill : Drill
  known : List Component
  /-- How many components have been made. -/
  made : Nat

namespace Roster

def new : Roster := ⟨.new, [], 0⟩

def find? (roster : Roster) (name : String) : Option Component :=
  roster.known.find? fun component => component.name = name

/-- A request to the supervisor; what was seen before is put aside. -/
def ask (roster : Roster) (asked : Request Component) : Roster :=
  { roster with drill := { roster.drill with remarks := [] }.ask asked }

/-- Registers the component of a name, which is made if there is none.  Its script may register one
more component, which lives no longer than that. -/
def register (roster : Roster) (name : String) (script : Component → List (Request Component)) :
    Roster :=
  match roster.find? name with
  | some component => roster.ask (.register component)
  | none =>
    let late := Component.mk (roster.made + 1) (name ++ "+late") []
    let component := Component.mk roster.made name (script late)
    { roster with known := component :: roster.known, made := roster.made + 2 }.ask
      (.register component)

/-- The component of a name is gone. -/
def drop (roster : Roster) (name : String) : Roster :=
  let gone := ((roster.find? name).map fun component =>
    roster.drill.drop component.identity).getD roster.drill
  { roster with
    drill := { gone with remarks := [] }
    known := roster.known.filter fun component => component.name ≠ name }

end Roster

end Courier
