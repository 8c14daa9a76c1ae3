import Telemetry.Frame.Error
import Telemetry.Tier
/-!
# Telemetry.Node.Error

**Why an operation of a node failed.** A failed frame never takes the node down. A crash
of a live source under the node's lock does: every later use of the lock is refused.
-/

namespace Telemetry

/-- Why an operation of a node failed. -/
inductive NodeError
  | frame (cause : FrameError)
  | unknownField (name : String)
  | invalidEvent (event : Nat)
  /-- A packet counter must be an unsigned whole number. -/
  | invalidCounter (field : String)
  /-- A live source crashed earlier while the node was locked. -/
  | lockPoisoned
  deriving DecidableEq

def NodeError.message : NodeError → String
  | frame cause => s!"frame error: {cause.message}"
  | unknownField name => s!"unknown field: {name}"
  | invalidEvent event => s!"event {event} out of range (max {maxEvent})"
  | invalidCounter field => s!"field {field} cannot be used as a packet counter"
  | lockPoisoned => "node state lock poisoned"

/-- The operation did not return: the live source that it read crashed. -/
def NodeError.isCrash : NodeError → Bool
  | frame .sourceCrashed => true
  | _ => false

end Telemetry
