import Telemetry.CommandLine.Run
/-!
# Telemetry.Main

**The command-line program.** It looks up the files that a call names, runs the call on
the host that shows them, and writes what the call leaves behind. No datagram socket is
opened here: to this program every address is out of reach.
-/

namespace Telemetry.CommandLine

/-- The definition file that a call names. -/
def Request.definitionPath? (r : Request) : Option String :=
  let ofSource : SchemaSource → Option String
    | .file path => some path
    | .variant _ => none
  match r.command with
  | .schema source => ofSource source
  | .encode source _ _ _ => ofSource source
  | .decode source _ _ => ofSource source
  | .send source _ _ _ => ofSource source
  | .listen source _ _ => ofSource source
  | .version _ => none

/-- The file of field values that a call names. -/
def Request.valuesPath? (r : Request) : Option String :=
  match r.command with
  | .encode _ (.file path) _ _ => some path
  | _ => none

/-- What lies at one path, and the content that reading it gives. -/
structure Probe where
  path : String
  entry : FileEntry
  content : Except FileFault (List UInt8)

/-- The host on which just these paths have been looked up, some for what lies there and
some for their content. -/
def Host.ofProbes (looked read : List Probe) (unixSeconds : Option Nat) : Host where
  entry := fun path =>
    ((looked.find? fun p => p.path == path).map Probe.entry).getD (.unreadable .notFound)
  read := fun path =>
    ((read.find? fun p => p.path == path).map Probe.content).getD (.error .notFound)
  network := offline
  unixSeconds := unixSeconds

def faultOf : IO.Error → FileFault
  | .permissionDenied .. => .permissionDenied
  | .inappropriateType _ code _ => if code = 21 then .isDirectory else .notDirectory
  | .invalidArgument .. => .nameTooLong
  | _ => .notFound

/-- Looks up a path. What is not a regular file is read only if asked for, since a device
may have no end. -/
def probe (reads : Bool) (path : String) : IO Probe := do
  let kind ← ((← IO.currentDir) / path).symlinkMetadata.toBaseIO
  let regular := match kind with
    | .ok m => m.type == .file
    | .error _ => false
  let content ← if reads || regular then
      let content ← (IO.FS.readBinFile path).toBaseIO
      pure ((content.map (·.toList)).mapError faultOf)
    else pure (.ok [])
  let entry := match kind with
    | .error e => .unreadable (faultOf e)
    | .ok m =>
      match m.type, content with
      | .dir, _ => .directory
      | .symlink, .ok bytes => .symlink bytes
      | .symlink, .error _ => .symlink []
      | .file, .ok bytes => .file bytes
      | .other, .ok bytes => .special bytes
      | _, .error e => .unreadable e
  return ⟨path, entry, content⟩

/-- The moment at which the system made the entry of this process. -/
def startSeconds : IO (Option Nat) := do
  match ← ((← IO.currentDir) / "/proc/self").metadata.toBaseIO with
  | .ok m => return some m.modified.sec.toNat
  | .error _ => return none

end Telemetry.CommandLine

open Telemetry.CommandLine in
def main (args : List String) : IO UInt32 := do
  let (definition, values) := match readRequest args with
    | .ok request => (request.definitionPath?.toList, request.valuesPath?.toList)
    | .error _ => ([], [])
  let probes := (← definition.mapM (probe false), ← values.mapM (probe true))
  let outcome := run (Host.ofProbes probes.1 probes.2 (← startSeconds)) args
  let out ← IO.getStdout
  out.write (ByteArray.mk outcome.output.toArray)
  out.flush
  IO.eprint outcome.errors
  return UInt32.ofNat outcome.status.number
