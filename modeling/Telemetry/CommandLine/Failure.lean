import Telemetry.Node.Error
import Telemetry.Schema.Error
import Telemetry.CommandLine.Host
/-!
# Telemetry.CommandLine.Failure

**How a command fails**: with an exit status that tells the kind of the failure, and a message
that tells what the command was about when it failed.
-/

namespace Telemetry.CommandLine

/-- The exit statuses. -/
inductive ExitStatus
  | success
  | failure
  | usageFault
  | transportFault
  | permissionDenied
  | invalidData
  | misuse
  | internalFault
  deriving DecidableEq

/-- Wrong arguments end with 2, arguments whose content is wrong with 64. -/
def ExitStatus.number : ExitStatus → Nat
  | success => 0
  | failure => 1
  | usageFault => 2
  | transportFault => 3
  | permissionDenied => 50
  | invalidData => 60
  | misuse => 64
  | internalFault => 125

/-- Why a command failed. -/
structure Failure where
  status : ExitStatus
  message : String

namespace Failure

def misuse (message : String) : Failure := ⟨.misuse, message⟩

def ofFile (context : String) (fault : FileFault) : Failure :=
  let status := match fault with
    | .permissionDenied => .permissionDenied
    | _ => .internalFault
  ⟨status, s!"{context}: {fault.message}"⟩

def ofNetwork (context : String) (fault : NetworkFault) : Failure :=
  let status := match fault with
    | .addressNotAvailable => .transportFault
    | .unreachable => .internalFault
  ⟨status, s!"{context}: {fault.message}"⟩

def ofSchema (context : String) (e : SchemaError) : Failure :=
  let status := match e with
    | .loadFailed .. => .failure
    | .unknownVariant _ => .misuse
    | _ => .invalidData
  ⟨status, s!"{context}: {e.message}"⟩

/-- A fault of the link is told without the words that lead to it. -/
def ofFrame (context : String) (e : FrameError) : Failure :=
  match e with
  | .link cause => ⟨.invalidData, s!"{context}: {cause.message}"⟩
  | .unknownField _ => ⟨.misuse, s!"{context}: {e.message}"⟩
  | e => ⟨.invalidData, s!"{context}: {e.message}"⟩

def ofNode (context : String) (e : NodeError) : Failure :=
  match e with
  | .frame cause => ofFrame context cause
  | .unknownField _ => ⟨.misuse, s!"{context}: {e.message}"⟩
  | .invalidEvent _ => ⟨.misuse, s!"{context}: {e.message}"⟩
  | .invalidCounter _ => ⟨.invalidData, s!"{context}: {e.message}"⟩
  | .lockPoisoned => ⟨.internalFault, s!"{context}: {e.message}"⟩

end Failure

end Telemetry.CommandLine
