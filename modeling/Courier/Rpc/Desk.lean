import Courier.Rpc.Channel

/-!
# Desks

A channel marshals at a desk: the stages of its chain share the channel itself,
which its own stage looks after, and whatever the further stages of the
application keep.  Those come before the channel's own stage on the way out.
-/

namespace Courier

set_option autoImplicit false

/-- What the stages of a chain share at one end of a connection. -/
structure Desk (τ : Type) where
  channel : Channel
  /-- What the further stages keep. -/
  kept : τ

namespace Desk

variable {τ : Type}

/-- The channel's own stage at a desk. -/
def ownStage : Stage (Desk τ) :=
  .lift channel (fun channel desk => { desk with channel }) Channel.stage

/-- A further stage at a desk. -/
def furtherStage (stage : Stage τ) : Stage (Desk τ) :=
  stage.lift kept fun kept desk => { desk with kept }

/-- The chain of an end without a channel. -/
def plainChain (further : List (Stage τ)) : MarshalChain (Desk τ) := ⟨further.map furtherStage⟩

/-- The chain of a channel, whose own stage comes last. -/
def chain (further : List (Stage τ)) : MarshalChain (Desk τ) :=
  ⟨further.map furtherStage ++ [ownStage]⟩

end Desk

end Courier
