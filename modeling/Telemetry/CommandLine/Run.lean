import Telemetry.Node.Receiver
import Telemetry.Schema.Variants
import Telemetry.CommandLine.Transmit
/-!
# Telemetry.CommandLine.Run

**Running a call of the program**: its arguments and the host give what is written to the
two outputs and the exit status. The status tells the kind of a failure; its message goes
to the error output.
-/

namespace Telemetry.CommandLine

/-- What a call leaves behind. -/
structure Outcome where
  status : ExitStatus
  output : List UInt8
  errors : String

variable (host : Host)

/-- The schema that a command works with. -/
def loadSchema : SchemaSource → Except Failure Schema
  | .file path =>
    (Schema.ofFile {} path (host.entry path)).mapError (Failure.ofSchema "schema load failed")
  | .variant name =>
    (Schema.variant name).mapError (Failure.ofSchema "schema variant failed")

/-! ### Building a frame -/

/-- The text of the field values; none when no values are given. -/
def valuesText : ValuesSource → Except Failure (Option String)
  | .none => .ok none
  | .text json => .ok (some json)
  | .file path =>
    let fault (e : FileFault) := Failure.ofFile s!"failed reading {path}" e
    match host.read path with
    | .error e => .error (fault e)
    | .ok bytes =>
      match decodeText? bytes with
      | some text => .ok (some text)
      | none => .error (fault .notText)

/-- The field values, sorted by name. -/
def readValues (source : ValuesSource) : Except Failure (List (String × Json)) := do
  match ← valuesText host source with
  | none => return []
  | some text =>
    match Json.parse text with
    | some (.object members) => return members
    | some _ => .error (.misuse "values must be a JSON object")
    | none => .error (.misuse "values are not valid JSON: unreadable text")

/-- Stores the values one after the other. -/
def storeValues {schema : Schema} (store : Store schema) :
    List (String × Json) → Except Failure (Store schema)
  | [] => .ok store
  | (name, value) :: rest =>
    match Reading.ofJson? value with
    | none => .error (.misuse s!"value for {name} is not a number")
    | some r =>
      match store.setByName name r with
      | .error e => .error (Failure.ofFrame "invalid value" e)
      | .ok store => storeValues store rest

/-- The periodic tier of a name, in either case and with blanks around it. -/
def readTier (name : String) : Except Failure Tier :=
  let key := String.ofList ((Text.trim name.toList).map Char.toLower)
  match Tier.periodic.find? fun t => t.name == key with
  | some t => .ok t
  | none =>
    let hint := "(expected fast, medium or slow; use --events for conditional fields)"
    .error (.misuse s!"unknown tier {Text.quoted name} {hint}")

/-- The flags with the named tiers marked. -/
def markTiers (flags : DirtyFlags) : List String → Except Failure DirtyFlags
  | [] => .ok flags
  | name :: rest =>
    match readTier name with
    | .error e => .error e
    | .ok t => markTiers (flags.mark t).2 rest

/-- The flags with the events raised. -/
def raiseEvents (flags : DirtyFlags) : List Nat → Except Failure DirtyFlags
  | [] => .ok flags
  | event :: rest =>
    match flags.raise event with
    | (true, flags) => raiseEvents flags rest
    | (false, _) => .error (.misuse s!"event {event} out of range")

/-- The code of the named tiers and events, and the frame of the values. -/
def encodeFrame (schema : Schema) (values : List (String × Json)) (tiers : List String)
    (events : List Nat) : Except Failure (MessageCode × Bytes) := do
  let store ← storeValues (Store.initial schema) values
  let flags ← markTiers .clean tiers
  let flags ← raiseEvents flags events
  let (code, _) := flags.drain
  match store.serializeInto (fun _ => .crashes) code [] with
  | (.ok _, frame) => return (code, frame)
  | (.error e, _) => .error (Failure.ofFrame "encode failed" e)

def runEncode (format : OutputFormat) (source : SchemaSource) (values : ValuesSource)
    (tiers : List String) (events : List Nat) : Except Failure (List UInt8) := do
  let schema ← loadSchema host source
  let values ← readValues host values
  let (code, frame) ← encodeFrame schema values tiers events
  return encodedReport code frame format

/-! ### Reading a frame -/

/-- The code of a frame and the values of a fresh receiver after it. -/
def decodeFrame (schema : Schema) (config : FrameConfig) (frame : Bytes) :
    Except Failure (MessageCode × Json) :=
  match (Receiver.initial schema config).apply frame with
  | (.error e, _) => .error (Failure.ofNode "decode failed" e)
  | (.ok code, node) =>
    match node.snapshot with
    | (.error e, _) => .error (Failure.ofNode "snapshot failed" e)
    | (.ok snapshot, _) => .ok (code, snapshot)

def runDecode (format : OutputFormat) (source : SchemaSource) (frame : String)
    (allowTrailing : Bool) : Except Failure (List UInt8) := do
  let schema ← loadSchema host source
  match Text.Hex.decode? frame with
  | none => .error (.misuse "frame must be an even number of hex digits")
  | some bytes =>
    let config : FrameConfig := { rejectTrailingBytes := !allowTrailing }
    let (code, snapshot) ← decodeFrame schema config bytes
    return textBytes (snapshotReport code bytes snapshot host.unixSeconds format)

/-! ### Nodes -/

def runSend (format : OutputFormat) (source : SchemaSource) (target : SocketAddress)
    (count : Option Nat) (intervals : TickIntervals) : Except Failure (List UInt8) := do
  let schema ← loadSchema host source
  match host.network target with
  | some fault => .error (Failure.ofNetwork "connect failed" fault)
  | none =>
    let loop ← transmit host schema intervals count
    return textBytes (sendReport (loop.summary target) format)

/-- A listener prints a frame when one arrives. No datagram reaches the hosts of this
module, so it prints nothing. -/
def runListen (source : SchemaSource) : Except Failure (List UInt8) := do
  let _ ← loadSchema host source
  return []

/-! ### Calls -/

def runCommand (request : Request) : Except Failure (List UInt8) :=
  match request.command with
  | .schema source => do
    let schema ← loadSchema host source
    return textBytes (schemaReport schema request.format)
  | .encode source values tiers events =>
    runEncode host request.format source values tiers events
  | .decode source frame allowTrailing =>
    runDecode host request.format source frame allowTrailing
  | .send source target count intervals =>
    runSend host request.format source target count intervals
  | .listen source _ _ => runListen host source
  | .version true =>
    let config : FrameConfig := {}
    .ok (textBytes (versionReport config.maxFrameSize Schema.variantNames))
  | .version false => .ok (textBytes versionLine)

/-- What a call with these arguments leaves behind. -/
def run (args : List String) : Outcome :=
  match readRequest args with
  | .error .usage => ⟨.usageFault, [], usageText⟩
  | .error .help => ⟨.success, textBytes usageText, ""⟩
  | .error .version => ⟨.success, textBytes versionLine, ""⟩
  | .ok request =>
    match runCommand host request with
    | .ok output => ⟨.success, output, ""⟩
    | .error e => ⟨e.status, [], line s!"error: {e.message}"⟩

end Telemetry.CommandLine
