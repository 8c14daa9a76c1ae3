import Telemetry.CommandLine.Address
import Telemetry.CommandLine.Options
import Telemetry.Node.Schedule
/-!
# Telemetry.CommandLine.Request

**What a call of the program asks for**, read from its arguments: a command with its
settings, and the form of the output.

Options on output and logging may stand before or after the command; after it they
count more.
-/

namespace Telemetry.CommandLine

/-- The form of what a command prints. -/
inductive OutputFormat
  | json
  | table
  | pretty
  | raw
  deriving DecidableEq

def OutputFormat.ofName? : String → Option OutputFormat
  | "json" => some json
  | "table" => some table
  | "pretty" => some pretty
  | "raw" => some raw
  | _ => none

/-- Where the field layout comes from. -/
inductive SchemaSource
  | file (path : String)
  | variant (name : String)
  deriving DecidableEq

/-- Where the field values of a frame come from. -/
inductive ValuesSource
  | none
  | text (json : String)
  | file (path : String)
  deriving DecidableEq

inductive Command
  /-- Show a layout. -/
  | schema (source : SchemaSource)
  /-- Build one frame. -/
  | encode (source : SchemaSource) (values : ValuesSource) (tiers : List String)
      (events : List Nat)
  /-- Read one frame. -/
  | decode (source : SchemaSource) (frame : String) (allowTrailing : Bool)
  /-- Send synthetic values to an address. -/
  | send (source : SchemaSource) (target : SocketAddress) (count : Option Nat)
      (intervals : TickIntervals)
  /-- Show frames that arrive at an address. -/
  | listen (source : SchemaSource) (address : SocketAddress) (count : Option Nat)
  | version (extended : Bool)

/-- A command and the form of its output. -/
structure Request where
  format : OutputFormat
  command : Command

/-! ### Options -/

def globalOptions : List OptionSpec := [
  .valued "format" fun v => (OutputFormat.ofName? v).isSome,
  .valued "log-format" fun v => ["text", "json"].contains v,
  .valued "log-level" fun v => ["error", "warn", "info", "debug", "trace"].contains v]

/-- A file path is not empty. -/
def isPath (v : String) : Bool := v != ""

def sourceOptions : List OptionSpec :=
  [.valued "schema" isPath, .valued "variant" fun _ => true]

/-- The pieces of a value between commas. -/
def pieces (v : String) : List String := (SocketAddress.splitAt ',' v.toList).map String.ofList

def encodeOptions : List OptionSpec := [
  .valued "values" fun _ => true,
  .valued "values-file" isPath,
  .gathered "tiers" fun _ => true,
  .gathered "events" fun v => (pieces v).all fun p => (eventNumber? p).isSome]

def isPeriod (v : String) : Bool := (period? v).isSome

def isCount (v : String) : Bool := (count? v).isSome

def isAddress (v : String) : Bool := (SocketAddress.ofText? v).isSome

def sendOptions : List OptionSpec :=
  [.valued "to" isAddress, .valued "count" isCount, .valued "fast" isPeriod,
    .valued "medium" isPeriod, .valued "slow" isPeriod, .valued "send" isPeriod]

def listenOptions : List OptionSpec := [.valued "bind" isAddress, .valued "count" isCount]

/-- The scope before the command. -/
def topScope : Scope := ⟨globalOptions, 0, true, true⟩

/-- The scope of a command with these options of its own. -/
def commandScope (options : List OptionSpec) (positionals : Nat) : Scope :=
  ⟨options ++ globalOptions, positionals, false, false⟩

/-! ### Settings -/

/-- The layout asked for: a file or a variant, but not both. -/
def schemaSource (f : Found) : Except Interruption SchemaSource :=
  match f.value? "schema", f.value? "variant" with
  | some _, some _ => .error .usage
  | some path, none => .ok (.file path)
  | none, name => .ok (.variant (name.getD "wheels"))

/-- The values asked for: a text or a file, but not both. -/
def valuesSource (f : Found) : Except Interruption ValuesSource :=
  match f.value? "values", f.value? "values-file" with
  | some _, some _ => .error .usage
  | some json, none => .ok (.text json)
  | none, some path => .ok (.file path)
  | none, none => .ok .none

/-- The setting of an option that the scan has accepted, or its default. -/
def setting {α : Type} (f : Found) (name : String) (read : String → Option α) (default : α) : α :=
  ((f.value? name).bind read).getD default

/-- The socket number of nodes that are not told another one. -/
def nodeSocket : Nat := 7300

/-- This machine, as a place to send to. -/
def thisMachine : SocketAddress := ⟨.octets 127 0 0 1, nodeSocket⟩

/-- All interfaces of this machine, as a place to listen at. -/
def allInterfaces : SocketAddress := ⟨.octets 0 0 0 0, nodeSocket⟩

def intervals (f : Found) : TickIntervals where
  fast := setting f "fast" period? TickIntervals.standard.fast
  medium := setting f "medium" period? TickIntervals.standard.medium
  slow := setting f "slow" period? TickIntervals.standard.slow
  send := setting f "send" period? TickIntervals.standard.send

/-- What help can be asked for by name. -/
def helpTopics : List String :=
  ["schema", "encode", "decode", "send", "listen", "version", "help"]

/-- Whether these are arguments of `help`: nothing, or one topic. No topic has parts, and
none of the arguments is taken as an option. -/
def isHelpCall : List String → Bool
  | [] => true
  | [topic] => helpTopics.contains topic
  | _ => false

/-- The command of this name with the arguments after the name. -/
def readCommand (name : String) (args : List String) : Except Interruption (Command × Found) := do
  match name with
  | "schema" =>
    let (f, _) ← (commandScope sourceOptions 0).scan {} args
    return (.schema (← schemaSource f), f)
  | "encode" =>
    let (f, _) ← (commandScope (sourceOptions ++ encodeOptions) 0).scan {} args
    let tiers := (f.values "tiers").flatMap pieces
    let events := ((f.values "events").flatMap pieces).filterMap eventNumber?
    return (.encode (← schemaSource f) (← valuesSource f) tiers events, f)
  | "decode" =>
    let (f, _) ← (commandScope (sourceOptions ++ [.flag "allow-trailing"]) 1).scan {} args
    match f.positionals with
    | [frame] => return (.decode (← schemaSource f) frame (f.has "allow-trailing"), f)
    | _ => .error .usage
  | "send" =>
    let (f, _) ← (commandScope (sourceOptions ++ sendOptions) 0).scan {} args
    let target := setting f "to" SocketAddress.ofText? thisMachine
    return (.send (← schemaSource f) target ((f.value? "count").bind count?) (intervals f), f)
  | "listen" =>
    let (f, _) ← (commandScope (sourceOptions ++ listenOptions) 0).scan {} args
    let address := setting f "bind" SocketAddress.ofText? allInterfaces
    return (.listen (← schemaSource f) address ((f.value? "count").bind count?), f)
  | "version" =>
    let (f, _) ← (commandScope [.flag "extended"] 0).scan {} args
    return (.version (f.has "extended"), f)
  | "help" => .error (if isHelpCall args then .help else .usage)
  | _ => .error .usage

/-- The request of a call. -/
def readRequest (args : List String) : Except Interruption Request := do
  let (top, rest) ← topScope.scan {} args
  match rest with
  | [] => .error .usage
  | name :: args =>
    let (command, f) ← readCommand name args
    let format := (f.value? "format").or (top.value? "format")
    return ⟨(format.bind OutputFormat.ofName?).getD .json, command⟩

end Telemetry.CommandLine
