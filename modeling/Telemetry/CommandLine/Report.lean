import Telemetry.Schema.Definition
import Telemetry.MessageCode
import Telemetry.Text.Hex
import Telemetry.Text.Table
import Telemetry.CommandLine.Request
/-!
# Telemetry.CommandLine.Report

**What commands print**, in each output format. Every text ends in a line feed.
-/

namespace Telemetry.CommandLine

def line (s : String) : String := s ++ "\n"

def jsonLine (j : Json) : String := line j.text

/-! ### Layouts -/

/-- The layout of a schema as one JSON object. -/
def schemaJson (s : Schema) : Json :=
  .object [("name", .string s.name), ("max_frame_len", Json.ofNat s.maxFrameLen),
    ("tier_sizes", .object (Tier.all.map fun t => (t.name, Json.ofNat (s.tierSize t)))),
    ("fields", .array (s.fields.map Definition.fieldToJson))]

/-- The texts of scale and bias; empty for a kind that has none. -/
def scaleCells : FieldKind → List String
  | .quantized _ scale bias => [scale.plainText, bias.plainText]
  | _ => ["", ""]

/-- A row for each field in priority order. -/
def schemaTable (s : Schema) : Text.Table where
  header := ["#", "FIELD", "TIER", "EVENT", "TYPE", "BYTES", "SCALE", "BIAS"]
  rows := s.fields.mapIdx fun i f =>
    [toString i, f.name, f.tier.name, (f.event.map toString).getD "", f.kind.label,
      toString f.size] ++ scaleCells f.kind

/-- A number in at least three columns, at their right. -/
def rightAligned (n : Nat) : String :=
  let digits := Nat.toDigits 10 n
  String.ofList (List.replicate (3 - digits.length) ' ' ++ digits)

/-- A line for each tier with its size and the names of its fields. -/
def tierLine (s : Schema) (t : Tier) : String :=
  let names := ", ".intercalate ((s.fieldsIn t).map Field.name)
  line s!"  {t.name} {rightAligned (s.tierSize t)}B  {names}"

def schemaReport (s : Schema) : OutputFormat → String
  | .json => jsonLine (schemaJson s)
  | .raw => jsonLine (schemaJson s)
  | .table =>
    line (schemaTable s).render ++ line s!"schema {s.name}: max frame {s.maxFrameLen} bytes"
  | .pretty =>
    line s!"{s.name} (max frame {s.maxFrameLen} bytes)" ++ "".intercalate (Tier.all.map (tierLine s))

/-! ### Frames -/

/-- The members that describe a frame. -/
def frameMembers (code : MessageCode) (frame : List UInt8) : List (String × Json) :=
  [("code", Json.ofNat code.toNat), ("len", Json.ofNat frame.length),
    ("hex", .string (Text.Hex.encode frame))]

def frameTable (code : MessageCode) (frame : List UInt8) : Text.Table where
  header := ["CODE", "LEN", "FRAME"]
  rows := [[code.text, toString frame.length, Text.Hex.encode frame]]

/-- The bytes of a text. -/
def textBytes (s : String) : List UInt8 := s.toUTF8.toList

/-- A frame that was built; raw output is the frame itself. -/
def encodedReport (code : MessageCode) (frame : List UInt8) : OutputFormat → List UInt8
  | .raw => frame
  | .json => textBytes (jsonLine (.object (frameMembers code frame)))
  | .table => textBytes (line (frameTable code frame).render)
  | .pretty => textBytes (line (Text.Hex.encode frame))

/-- The members of an object; of every other value, none. -/
def membersOf : Option Json → List (String × Json)
  | some (.object members) => members
  | _ => []

/-- The mark of the rows of a tier. -/
def updatedMark (code : MessageCode) (t : Tier) : String := if code.hasTier t then "*" else ""

/-- A row for each field, tier by tier and by name inside a tier. A row is marked when the
frame carries anything of its tier. -/
def snapshotTable (code : MessageCode) (snapshot : Json) : Text.Table where
  header := ["TIER", "FIELD", "VALUE", "UPDATED"]
  rows := Tier.all.flatMap fun t =>
    (membersOf (snapshot.member? t.name)).map fun (name, value) =>
      [t.name, name, value.text, updatedMark code t]

/-- A frame that was received, with the values after it. -/
def snapshotReport (code : MessageCode) (frame : List UInt8) (snapshot : Json)
    (unixSeconds : Option Nat) : OutputFormat → String
  | .table =>
    line s!"code {code.text} ({frame.length} bytes)" ++ line (snapshotTable code snapshot).render
  | .pretty => line s!"code={code.text} len={frame.length} fields={snapshot.text}"
  | _ =>
    let timestamp := match unixSeconds with
      | some s => [("timestamp", Json.string (toString s))]
      | none => []
    jsonLine (.object (frameMembers code frame ++ [("fields", snapshot)] ++ timestamp))

/-! ### Transmitter runs -/

/-- The totals of a run. -/
structure SendSummary where
  target : String
  frames : UInt64
  bytes : UInt64
  dropped : UInt64

def SendSummary.toJson (s : SendSummary) : Json :=
  .object [("to", .string s.target), ("frames", Json.ofNat s.frames.toNat),
    ("bytes", Json.ofNat s.bytes.toNat), ("dropped", Json.ofNat s.dropped.toNat)]

def SendSummary.table (s : SendSummary) : Text.Table where
  header := ["TO", "FRAMES", "BYTES", "DROPPED"]
  rows := [[s.target, toString s.frames, toString s.bytes, toString s.dropped]]

def sendReport (s : SendSummary) : OutputFormat → String
  | .table => line s.table.render
  | .pretty =>
    line s!"sent {s.frames} frames ({s.bytes} bytes) to {s.target}, {s.dropped} dropped"
  | _ => jsonLine s.toJson

/-! ### The program itself -/

def programName : String := "telelink"

def programVersion : String := "0.1.0"

def versionLine : String := line s!"{programName} {programVersion}"

/-- The version and what the program was built with. -/
def versionReport (maxFrameSize : Nat) (variants : List String) : String :=
  line s!"name: {programName}" ++ line s!"version: {programVersion}"
    ++ line "target: x86_64-unknown-linux-gnu" ++ line s!"max_frame_size: {maxFrameSize}"
    ++ line ("variants: " ++ ", ".intercalate variants)
    ++ line "features: node=true, async=false, cli=true"

def usageText : String :=
  line s!"usage: {programName} [--format json|table|pretty|raw] COMMAND"
    ++ line "commands: schema, encode, decode, send, listen, version"

end Telemetry.CommandLine
