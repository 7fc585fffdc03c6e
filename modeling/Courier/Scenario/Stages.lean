import Courier.Marshal.Chain

/-!
# Sample stages

Stages for trying out marshaling chains: some leave a trace of the nodes they
see, some change texts, refuse nodes of a type, or put one kind of node in
place of another.
-/

namespace Courier.Scenario

set_option autoImplicit false

/-- On which of the two ways a stage acts that could act on both. -/
inductive Direction where
  | outward
  | inward
  | both
deriving DecidableEq

inductive StageKind where
  /-- Leaves every node as it is. -/
  | plain
  /-- Notes the type of every node under a label. -/
  | trace (label : String)
  /-- Appends to every text. -/
  | suffix (ending : String)
  /-- Fails at every node of a type. -/
  | refuse (typeName : String) (fault : MarshalError)
  /-- Writes an object of the application as a handle named for its type. -/
  | reference
  /-- Writes a positive integer as a list of zero and its digits. -/
  | expand
  /-- Reads a handle as a text with its instance id. -/
  | name
  /-- Reads a list as its length. -/
  | collapse

structure StagePlan where
  kind : StageKind
  direction : Direction

namespace StagePlan

variable {σ : Type}

/-- What a stage of a kind makes of a node on the way out or in.  `note` keeps a line of a trace. -/
def act (note : String → σ → σ) (outward : Bool) (kind : StageKind) (value : Value) :
    Marshal σ Value :=
  match kind, value with
  | .trace label, value => do
    let way := if outward then "write" else "read"
    modify (note s!"{way}:{label}:{value.typeName}")
    return value
  | .suffix ending, .str text => return .str (text ++ ending)
  | .refuse typeName fault, value => if value.typeName = typeName then throw fault else return value
  | .reference, .live (.object typeName _) =>
    return if outward then .remote ⟨s!"obj:{typeName}", []⟩ else value
  | .expand, .int number =>
    return if outward && decide (0 < number) then .list [.int 0, .str (toString number.toInt)]
      else value
  | .name, .remote handle => return if outward then value else .str s!"resolved:{handle.instanceId}"
  | .collapse, .list items => return if outward then value else .int (Int64.ofNat items.length)
  | _, value => return value

/-- Whether a plan acts on one of the two ways.  What puts one kind of node in place of another has
only one way on which it does so, and no direction changes that. -/
def acts (plan : StagePlan) (outward : Bool) : Bool :=
  match plan.kind, plan.direction with
  | .trace _, .inward | .suffix _, .inward | .refuse _ _, .inward => !outward
  | .trace _, .outward | .suffix _, .outward | .refuse _ _, .outward => outward
  | _, _ => true

/-- The stage of a plan. -/
def stage (note : String → σ → σ) (plan : StagePlan) : Stage σ where
  write value := if plan.acts true then act note true plan.kind value else return value
  read value := if plan.acts false then act note false plan.kind value else return value

end StagePlan

end Courier.Scenario
