import Courier.Rpc.Service
import Courier.Rpc.Ending

/-!
# Sample handlers and task bodies

Handlers for trying out service objects.  Most only compute an ending from the
arguments; one counts its calls; two call back through a proxy among the
arguments, without and with waiting for the result.
-/

namespace Courier.Scenario

set_option autoImplicit false

inductive Handler where
  /-- Computes an ending from the arguments. -/
  | compute (body : Arguments → Ending)
  /-- Gives one more with every call of the object. -/
  | count
  /-- Starts a call on the proxy at an index and does not wait for it. -/
  | notify (index : Nat) (method : Method) (values : List Value)
  /-- Calls the proxy at an index and gives what it gives; a failure is told in `words`. -/
  | callback (index : Nat) (method : Method) (values : List Value) (words : CallError → String)

/-- How an argument is looked at. -/
inductive ArgumentView where
  | value
  | int
  | float
  | bool
  | str
  | list
  | service
  | proxy
  | object

/-- An object of the application. -/
def plainObject? : Value → Option LiveObject
  | .live (.object typeName key) => some (.object typeName key)
  | _ => none

/-- The argument at an index as a view shows it. -/
def ArgumentView.look (view : ArgumentView) (arguments : Arguments) (index : Nat) :
    Except RemoteError Value :=
  match view with
  | value => arguments.get index
  | int => Value.int <$> arguments.int index
  | float => Value.float <$> arguments.float index
  | bool => Value.bool <$> arguments.bool index
  | str => Value.str <$> arguments.str index
  | list => Value.list <$> arguments.list index
  | service => (fun found => Value.live (.service found)) <$> arguments.object index Value.service?
  | proxy => (fun found => Value.live (.proxy found)) <$> arguments.object index Value.proxy?
  | object => Value.live <$> arguments.object index plainObject?

namespace Handler

/-- A handler whose result may be an error. -/
def attempt (body : Arguments → Except RemoteError Value) : Handler :=
  compute fun arguments => .ofExcept (body arguments)

def const (result : Value) : Handler := compute fun _ => .value result

/-- All arguments as a list. -/
def list : Handler := compute fun arguments => .value (.list arguments.values)

/-- One argument as a view shows it. -/
def typed (view : ArgumentView) (index : Nat) : Handler :=
  attempt fun arguments => view.look arguments index

/-- The sum of two integers, modulo 2⁶⁴. -/
def add : Handler :=
  attempt fun arguments => do return .int ((← arguments.int 0) + (← arguments.int 1))

/-- The quotient of two integers, toward zero and modulo 2⁶⁴. -/
def div : Handler :=
  attempt fun arguments => do
    let divisor ← arguments.int 1
    if divisor = 0 then throw (.new "DivideByZero" "division by zero")
    return .int ((← arguments.int 0) / divisor)

/-- The quotient of two floats. -/
def ratio : Handler :=
  attempt fun arguments => do return .float ((← arguments.float 0) / (← arguments.float 1))

def fail (error : RemoteError) : Handler := compute fun _ => .failure error

def panic (words : Option String) : Handler := compute fun _ => .panic words

/-- What a handler can see of its call. -/
def info : Handler :=
  compute fun arguments => .value (.list [.str arguments.signature.describe,
    .int (Int64.ofNat arguments.values.length), .bool arguments.values.isEmpty,
    .list (arguments.values.map fun value => .str value.typeName)])

/-- How a handler ends where no channel is, so that there are no proxies to call back through.
`calls` have been counted before. -/
def alone (handler : Handler) (arguments : Arguments) (calls : Nat) : Ending × Nat :=
  match handler with
  | compute body => (body arguments, calls)
  | count => (.value (.int (Int64.ofNat (calls + 1))), calls + 1)
  | notify index _ _ | callback index _ _ _ =>
    (.ofExcept ((fun _ => .null) <$> arguments.object index Value.proxy?), calls)

/-- The kind of error for a call back that failed. -/
def callbackFailed : String := "CallbackFailed"

end Handler

/-! ## Task bodies -/

/-- The sum of the integers among the arguments, modulo 2⁶⁴. -/
def sumBody (arguments : List Value) : Ending :=
  .value (.int ((arguments.filterMap Value.int?).foldl (· + ·) 0))

/-- The texts among the arguments, one after the other. -/
def concatBody (arguments : List Value) : Ending :=
  .value (.str (String.join (arguments.filterMap Value.str?)))

end Courier.Scenario
