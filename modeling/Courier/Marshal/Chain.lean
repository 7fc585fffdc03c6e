import Courier.Value.Reading

/-!
# The marshaling chain

On its way to the wire a value passes through a chain of stages.  Every node
of the graph is shown to all stages, first to last, and only then are the
children of what they made of it taken up; so what a stage puts in place of a
node is seen by all stages again.  On the way back it is the other way round:
children before their parents, and the stages last to first.

A stage may look at and change a state that all stages of the chain share,
such as the registry of exported objects.  What it did stays done when a later
node fails.

The graph that stages unfold need not be smaller than the one they were given,
so the walk outwards carries an allowance for how deep the graph may become.
-/

namespace Courier

set_option autoImplicit false

inductive MarshalError where
  /-- A live object was left that no stage has replaced. -/
  | notPortable (typeName : String)
  /-- A reference does not lead anywhere. -/
  | unresolved (reference : String)
  | encode (reason : String)
  | decode (reason : String)
  /-- A stage refused with words of its own. -/
  | stage (reason : String)
deriving DecidableEq, Repr

def MarshalError.message : MarshalError → String
  | notPortable typeName => s!"value of type {typeName} cannot cross the wire"
  | unresolved reference => s!"unresolved reference to {reference}"
  | encode reason => s!"encode failed: {reason}"
  | decode reason => s!"decode failed: {reason}"
  | stage reason => reason

/-- A fault in received bytes as a marshaling error. -/
def DecodeError.toMarshalError (fault : DecodeError) : MarshalError := .decode fault.message

/-- A step that may fail and keeps the state it reached. -/
abbrev Marshal (σ : Type) := ExceptT MarshalError (StateM σ)

/-- One stage of a chain: what it makes of a node on the way out and on the way in. -/
structure Stage (σ : Type) where
  write : Value → Marshal σ Value
  read : Value → Marshal σ Value

namespace Stage

variable {σ : Type}

/-- A stage that leaves every node as it is. -/
def plain : Stage σ := ⟨pure, pure⟩

/-- Does a step on a part of the state. -/
def zoom {τ α : Type} (get : σ → τ) (put : τ → σ → σ) (step : Marshal τ α) : Marshal σ α :=
  ExceptT.mk fun state =>
    let (result, part) := step.run (get state)
    (result, put part state)

/-- A stage whose share is a part of the state. -/
def lift {τ : Type} (get : σ → τ) (put : τ → σ → σ) (stage : Stage τ) : Stage σ :=
  ⟨fun value => zoom get put (stage.write value), fun value => zoom get put (stage.read value)⟩

/-- A stage without a share in the state. -/
def ofFunctions (write read : Value → Except MarshalError Value) : Stage σ :=
  ⟨fun value => ExceptT.mk (pure (write value)), fun value => ExceptT.mk (pure (read value))⟩

end Stage

/-- The stages of a chain, first to last on the way out. -/
structure MarshalChain (σ : Type) where
  stages : List (Stage σ)

namespace MarshalChain

variable {σ : Type}

/-- What the stages make of one node on the way out. -/
def replace (chain : MarshalChain σ) (value : Value) : Marshal σ Value :=
  chain.stages.foldlM (fun value stage => stage.write value) value

/-- What the stages make of one node on the way in. -/
def resolve (chain : MarshalChain σ) (value : Value) : Marshal σ Value :=
  chain.stages.reverse.foldlM (fun value stage => stage.read value) value

/-- What is said when the graph outgrows its allowance. -/
def bottomless : String := "the value nests without end"

/-- The portable form of a value, whose graph may become `allowance` nodes deep. -/
def toPortableWithin (chain : MarshalChain σ) : (allowance : Nat) → Value → Marshal σ Portable
  | 0, _ => throw (.encode bottomless)
  | allowance + 1, value => do
    match ← chain.replace value with
    | .null => return .null
    | .bool value => return .bool value
    | .int value => return .int value
    | .float value => return .float value
    | .str text => return .str text
    | .bytes content => return .bytes content
    | .list items => return .list (← items.mapM (toPortableWithin chain allowance))
    | .map entries =>
      return .map (← entries.mapM fun entry => do
        return (entry.1, ← toPortableWithin chain allowance entry.2))
    | .remote handle => return .ref handle
    | .live object => throw (.notPortable object.typeName)

/-- How much deeper than the value it was given a graph may become. -/
def growth : Nat := 4096

/-- The portable form of a value. -/
def toPortable (chain : MarshalChain σ) (value : Value) : Marshal σ Portable :=
  chain.toPortableWithin (value.depth + growth) value

mutual

/-- The value of a portable form. -/
def ofPortable (chain : MarshalChain σ) : Portable → Marshal σ Value
  | .null => chain.resolve .null
  | .bool value => chain.resolve (.bool value)
  | .int value => chain.resolve (.int value)
  | .float value => chain.resolve (.float value)
  | .str text => chain.resolve (.str text)
  | .bytes content => chain.resolve (.bytes content)
  | .list items => do
    let values ← ofPortableItems chain items
    chain.resolve (.list values)
  | .map entries => do
    let values ← ofPortableEntries chain entries
    chain.resolve (.map values)
  | .ref handle => chain.resolve (.remote handle)

def ofPortableItems (chain : MarshalChain σ) : List Portable → Marshal σ (List Value)
  | [] => return []
  | item :: rest => do
    let value ← ofPortable chain item
    let values ← ofPortableItems chain rest
    return value :: values

def ofPortableEntries (chain : MarshalChain σ) :
    List (String × Portable) → Marshal σ (List (String × Value))
  | [] => return []
  | (key, item) :: rest => do
    let value ← ofPortable chain item
    let values ← ofPortableEntries chain rest
    return (key, value) :: values

end

/-! ## Whole messages -/

/-- The bytes of a value on the wire. -/
def encodeValue (chain : MarshalChain σ) (value : Value) : Marshal σ Bytes := do
  return (← chain.toPortable value).encode

/-- The value that bytes on the wire spell. -/
def decodeValue (chain : MarshalChain σ) (bytes : Bytes) : Marshal σ Value :=
  match Portable.decode bytes with
  | .ok portable => chain.ofPortable portable
  | .error fault => throw fault.toMarshalError

end MarshalChain

end Courier
