import Telemetry.CommandLine.FileTree
import Telemetry.Float.Binary64
/-!
# Telemetry.CommandLine.Host

**The machine that a command runs on**, as far as a command can see it: what lies at a
path, whether an address can be reached, the time, and its sine. A command is a function
of it.
-/

namespace Telemetry.CommandLine

/-- Why an address cannot be reached. -/
inductive NetworkFault
  | unreachable
  | addressNotAvailable
  deriving DecidableEq

def NetworkFault.message : NetworkFault → String
  | unreachable => "Network is unreachable (os error 101)"
  | addressNotAvailable => "Cannot assign requested address (os error 99)"

structure Host where
  /-- What lies at a path, a symbolic link not being followed. -/
  entry : String → FileEntry
  /-- The content of the file at a path. -/
  read : String → Except FileFault (List UInt8)
  /-- The fault of an address that cannot be sent to. -/
  network : SocketAddress → Option NetworkFault
  /-- The seconds since 1970, if there is a clock. -/
  unixSeconds : Option Nat
  /-- By how many nanoseconds each turn of a loop is late. After the last one the loop is
  interrupted. -/
  lateness : List Nat := []
  /-- The sine of a number, as the mathematical library of the machine rounds it. -/
  sine : Binary64 → Binary64 := fun _ => .zero

/-- A machine without a network: addresses of four octets have no route, and the others
no local address to send from. -/
def offline (a : SocketAddress) : Option NetworkFault :=
  match a.host with
  | .octets .. => some .unreachable
  | .groups [0, 0, 0, 0, 0, 0xffff, _, _] _ => some .unreachable
  | .groups .. => some .addressNotAvailable

/-- A machine without network and clock that has these files in one directory. -/
def Host.ofFiles (directory : String) (files : List (String × List UInt8)) : Host where
  entry := (FileTree.ofFiles directory files).entry
  read := (FileTree.ofFiles directory files).read
  network := offline
  unixSeconds := none

end Telemetry.CommandLine
