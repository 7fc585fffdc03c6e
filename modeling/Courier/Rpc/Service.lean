import Courier.Rpc.CallError
import Courier.Rpc.Ending
import Courier.Value.Describe

/-!
# Interfaces and service objects

An interface is a named list of methods that both sides know.  A service object
implements interfaces with a handler for each of their methods.

Dispatch runs a handler only for a signature it is registered under, with as
many arguments as there are parameters, each of which fits its parameter.  A
parameter named for a plain type takes values of that type; any other name is
the name of an interface and takes references to objects, or null.

In the interface of the runtime `Arguments` are `Args`.
-/

namespace Courier

set_option autoImplicit false

/-! ## Interfaces -/

structure Interface where
  name : String
  methods : List Method
deriving DecidableEq

namespace Interface

def new (name : String) : Interface := ⟨name, []⟩

/-- One more method, with the kinds of error it declares. -/
def method (interface : Interface) (name : String) (params throws : List String) : Interface :=
  { interface with
    methods := interface.methods ++ [⟨⟨interface.name, name, params⟩, throws⟩] }

/-- The first method of a name. -/
def get? (interface : Interface) (name : String) : Option Method :=
  interface.methods.find? fun method => method.signature.name = name

/-- The method of a name with exactly these parameters. -/
def lookup? (interface : Interface) (name : String) (params : List String) : Option Method :=
  interface.methods.find? fun method =>
    method.signature.name = name ∧ method.signature.params = params

end Interface

/-! ## Parameters and arguments -/

/-- The name of the parameter that takes any value. -/
def anyParam : String := "any"

/-- The parameters named for a plain type whose values they take. -/
def plainParams : List String := ["null", "bool", "int", "str", "bytes", "list", "map"]

/-- Whether a value may stand for a parameter. -/
def accepts (param : String) (value : Value) : Bool :=
  if param = anyParam then true
  else if param ∈ plainParams then value.typeName = param
  else if param = "float" then
    match value with
    | .float _ => true
    | .int _ => true
    | _ => false
  else
    match value with
    | .live _ => true
    | .remote _ => true
    | .null => true
    | _ => false

/-- The arguments of a call as a handler sees them. -/
structure Arguments where
  signature : Signature
  values : List Value

namespace Arguments

/-- The error of an argument that is not as expected. -/
def bad (arguments : Arguments) (index : Nat) (what : String) : RemoteError :=
  .new RemoteError.badArguments s!"{arguments.signature.describe}: argument {index}: {what}"

def get (arguments : Arguments) (index : Nat) : Except RemoteError Value :=
  match arguments.values[index]? with
  | some value => .ok value
  | none => .error (arguments.bad index "missing")

/-- An argument seen as something that a value may be. -/
def view {α : Type} (arguments : Arguments) (index : Nat) (what : String)
    (as : Value → Option α) : Except RemoteError α := do
  match as (← arguments.get index) with
  | some content => return content
  | none => throw (arguments.bad index what)

def int (arguments : Arguments) (index : Nat) : Except RemoteError Int64 :=
  arguments.view index "expected int" Value.int?

def float (arguments : Arguments) (index : Nat) : Except RemoteError Float :=
  arguments.view index "expected float" Value.float?

def bool (arguments : Arguments) (index : Nat) : Except RemoteError Bool :=
  arguments.view index "expected bool" Value.bool?

def str (arguments : Arguments) (index : Nat) : Except RemoteError String :=
  arguments.view index "expected str" Value.str?

def list (arguments : Arguments) (index : Nat) : Except RemoteError (List Value) :=
  arguments.view index "expected list" Value.list?

/-- An argument that is a live object of one kind. -/
def object {α : Type} (arguments : Arguments) (index : Nat) (as : Value → Option α) :
    Except RemoteError α :=
  arguments.view index "expected object reference" as

end Arguments

/-! ## Service objects -/

/-- An object that the peer can call, with handlers of some type. -/
structure ServiceObject (η : Type) where
  reference : ServiceRef
  handlers : List (Signature × η)

namespace ServiceObject

variable {η : Type}

def implements (service : ServiceObject η) (interface : String) : Bool :=
  service.reference.interfaces.contains interface

/-- The handler registered under a signature. -/
def handler? (service : ServiceObject η) (signature : Signature) : Option η :=
  (service.handlers.find? fun entry => entry.1 = signature).map (·.2)

/-- The first argument from `index` on that does not fit its parameter. -/
def misfit? (index : Nat) : List String → List Value → Option (Nat × String × Value)
  | param :: params, value :: values =>
    if accepts param value then misfit? (index + 1) params values else some (index, param, value)
  | _, _ => none

/-- The handler that a call runs and the arguments it runs on, or why it runs none. -/
def dispatch (service : ServiceObject η) (signature : Signature) (values : List Value) :
    Except RemoteError (η × Arguments) :=
  match service.handler? signature with
  | none => .error (.new RemoteError.noSuchMethod
      s!"{service.reference.label} does not implement {signature.describe}")
  | some handler =>
    if values.length ≠ signature.params.length then
      .error (.new RemoteError.badArguments
        (s!"{signature.describe}: expected {signature.params.length} arguments, " ++
          s!"got {values.length}"))
    else
      match misfit? 0 signature.params values with
      | some (index, param, value) =>
        .error (.new RemoteError.badArguments
          s!"{signature.describe}: argument {index} is {value.typeName}, expected {param}")
      | none => .ok (handler, ⟨signature, values⟩)

/-- Calls a method on the spot.  `run` says how a handler ends and what it leaves of a state. -/
def call {σ : Type} (service : ServiceObject η) (run : η → Arguments → σ → Ending × σ)
    (signature : Signature) (values : List Value) (state : σ) : Ending × σ :=
  match service.dispatch signature values with
  | .error error => (.failure error, state)
  | .ok (handler, arguments) => run handler arguments state

/-- What a reader is shown of a service object. -/
def describe (service : ServiceObject η) : String :=
  "ServiceObject \x7b label: " ++ Text.quoted service.reference.label ++ ", interfaces: " ++
    describeTexts service.reference.interfaces ++
    s!", methods: {service.handlers.length} \x7d"

end ServiceObject

/-! ## Building service objects -/

/-- A service object under construction. -/
structure ServiceBuilder (η : Type) where
  label : String
  interfaces : List Interface
  handlers : List (Signature × η)
  errors : List String

namespace ServiceBuilder

variable {η : Type}

def new (label : String) : ServiceBuilder η := ⟨label, [], [], []⟩

/-- The table with a handler under a signature, in place of an earlier one. -/
def register (signature : Signature) (handler : η) :
    List (Signature × η) → List (Signature × η)
  | [] => [(signature, handler)]
  | entry :: rest =>
    if entry.1 = signature then (signature, handler) :: rest
    else entry :: register signature handler rest

/-- Binds a handler to the first method of a name. -/
def handle (builder : ServiceBuilder η) (interface : Interface) (name : String) (handler : η) :
    ServiceBuilder η :=
  match interface.get? name with
  | none =>
    { builder with errors := builder.errors ++ [s!"{interface.name} has no method {name}"] }
  | some method =>
    let known := builder.interfaces.any fun other => other.name = interface.name
    { builder with
      interfaces := if known then builder.interfaces else builder.interfaces ++ [interface]
      handlers := register method.signature handler builder.handlers }

/-- The methods of the interfaces that have no handler. -/
def missing (builder : ServiceBuilder η) : List Signature :=
  (builder.interfaces.flatMap fun interface => interface.methods.map (·.signature)).filter
    fun signature => !builder.handlers.any fun entry => entry.1 = signature

/-- The finished object.  Every method of every interface needs a handler. -/
def build (builder : ServiceBuilder η) (identity : Nat) : Except CallError (ServiceObject η) :=
  let faults := builder.errors ++ builder.missing.map fun signature =>
    s!"{builder.label}: no handler for {signature.describe}"
  if faults = [] then
    .ok ⟨⟨identity, builder.label, builder.interfaces.map (·.name)⟩, builder.handlers⟩
  else .error (.definition ("; ".intercalate faults))

end ServiceBuilder

end Courier
