import Courier.Rpc.Service
import Courier.Rpc.Ending

/-!
# Named tasks

One end of a channel serves actions, which give no result, and computations,
which give one, under names.  The other end reaches them through the executor,
a singleton whose two methods run an action and call a computation.

`standard` has the tasks that every agent serves.

In the interface of the runtime the tasks are a `TaskRegistry`.
-/

namespace Courier

set_option autoImplicit false

/-- What a task does with its arguments. -/
abbrev TaskBody := List Value → Ending

structure Tasks where
  actions : List (String × TaskBody)
  computations : List (String × TaskBody)

namespace Tasks

/-- The kind of error that tasks raise and the executor declares. -/
def taskError : String := "TaskError"

def empty : Tasks := ⟨[], []⟩

def action (tasks : Tasks) (name : String) (body : TaskBody) : Tasks :=
  { tasks with actions := Entries.insert name body tasks.actions }

def computation (tasks : Tasks) (name : String) (body : TaskBody) : Tasks :=
  { tasks with computations := Entries.insert name body tasks.computations }

/-- The failure of a task that is not there. -/
def unknown (what name : String) : Ending :=
  .failure (.new taskError s!"no {what} named {Text.quoted name}")

/-- Runs an action; what it gives is dropped. -/
def run (tasks : Tasks) (name : String) (arguments : List Value) : Ending :=
  match Entries.get? name tasks.actions with
  | none => unknown "action" name
  | some body =>
    match body arguments with
    | .value _ => .value .null
    | other => other

/-- Calls a computation. -/
def call (tasks : Tasks) (name : String) (arguments : List Value) : Ending :=
  match Entries.get? name tasks.computations with
  | none => unknown "computation" name
  | some body => body arguments

/-- The names of all tasks in order; one that is both an action and a computation comes twice. -/
def names (tasks : Tasks) : List String :=
  (tasks.actions.map (·.1) ++ tasks.computations.map (·.1)).mergeSort fun first second =>
    decide (first ≤ second)

/-! ## The executor -/

/-- The name of the singleton that serves tasks. -/
def executorName : String := "tether.executor"

def executorInterfaceName : String := "tether.Executor"

/-- The interface of the executor: `run` for actions and `call` for computations. -/
def executorInterface : Interface :=
  ((Interface.new executorInterfaceName).method "run" ["str", "list"] [taskError]).method
    "call" ["str", "list"] [taskError]

/-- The method that runs an action. -/
def runMethod : Method := ⟨⟨executorInterfaceName, "run", ["str", "list"]⟩, [taskError]⟩

/-- The method that calls a computation. -/
def callMethod : Method := ⟨⟨executorInterfaceName, "call", ["str", "list"]⟩, [taskError]⟩

/-- The arguments of a call that asks for a task. -/
def request (name : String) (arguments : List Value) : List Value := [.str name, .list arguments]

/-- Serves a task whose name and arguments are the two arguments of a call. -/
def serve (task : String → List Value → Ending) (arguments : Arguments) : Ending :=
  match arguments.str 0 with
  | .error error => .failure error
  | .ok name =>
    match arguments.list 1 with
    | .error error => .failure error
    | .ok values => task name values

@[simp] theorem serve_request (task : String → List Value → Ending) (signature : Signature)
    (name : String) (arguments : List Value) :
    serve task ⟨signature, request name arguments⟩ = task name arguments := rfl

/-- The executor of a registry; `handler` makes a handler of what a method does. -/
def service {η : Type} (tasks : Tasks) (handler : (Arguments → Ending) → η) (identity : Nat) :
    Except CallError (ServiceObject η) :=
  (((ServiceBuilder.new "executor").handle executorInterface "run" (handler (serve tasks.run))).handle
    executorInterface "call" (handler (serve tasks.call))).build identity

theorem methods_executorInterface : executorInterface.methods = [runMethod, callMethod] := rfl

/-! ## The tasks of every agent -/

/-- What a task may know of the process it runs in. -/
structure Host where
  environment : List (String × String)
  processId : Nat

/-- The text among the arguments of a task. -/
def stringArgument (arguments : List Value) (index : Nat) : Except RemoteError String :=
  match arguments[index]? >>= Value.str? with
  | some text => .ok text
  | none => .error (.new taskError s!"argument {index} must be a string")

/-- The value of an environment variable, or null. -/
def environmentTask (host : Host) (arguments : List Value) : Ending :=
  .ofExcept do
    let key ← stringArgument arguments 0
    return .ofOption .str (Entries.get? key host.environment)

/-- Waits; only whether the waiting time is one can be seen. -/
def sleepTask (arguments : List Value) : Ending :=
  match arguments.head? >>= Value.int? with
  | some millis =>
    if 0 ≤ millis.toInt then .value .null
    else .failure (.new taskError "sleep takes a non-negative millisecond count")
  | none => .failure (.new taskError "sleep takes a non-negative millisecond count")

/-- The tasks that every agent serves. -/
def standard (host : Host) : Tasks :=
  (((((empty.computation "ping" fun _ => .value (.str "pong")).computation "echo" fun arguments =>
    .value (.list arguments)).computation "pid" fun _ =>
    .value (.int (Int64.ofNat host.processId))).computation "env" (environmentTask host)).action
    "sleep" sleepTask)

end Tasks

end Courier
