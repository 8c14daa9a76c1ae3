import Telemetry.Node.Transmitter
import Telemetry.CommandLine.Failure
import Telemetry.CommandLine.Report
/-!
# Telemetry.CommandLine.Transmit

**The loop of the `send` command.** A transmitter is fed with synthetic values, which are
functions of how often the fast handler has fired, and its handlers run when they are due.
The loop turns until as many frames have gone out as were asked for, or until it is
interrupted.

Between two turns it sleeps until the next deadline. How late it then wakes up, and when it
is interrupted, is up to the host (`Host.lateness`). The network takes every frame that is
short enough; a socket that refuses one is not looked at here.
-/

namespace Telemetry.CommandLine

/-! ### Synthetic values -/

/-- The value of a kind after so many fast ticks. A quantized one swings over its range,
or over the lowest 200 of it, the other floats between -100 and 100; whole numbers count
up and begin again. -/
def synthetic (sine : Binary64 → Binary64) (kind : FieldKind) (ticks : UInt64) : Reading :=
  let wave := sine (Binary64.ofNat ticks.toNat / Binary64.ofNat 100)
  match kind with
  | .quantized raw scale bias =>
    let (low, high) := match Quantizer.ofScale scale bias with
      | .ok q => q.range raw
      | .error _ => (bias, bias)
    -- no range is negative, so the magnitudes tell which is the smaller one
    let widest := Binary64.ofNat 200
    let width := if (high - low).magnitudeLE widest then high - low else widest
    let half := Binary64.ofNat 1 / Binary64.ofNat 2
    .float (low + width * half * (Binary64.ofNat 1 + wave))
  | .single | .double => .float (wave * Binary64.ofNat 100)
  | .signed _ => .signed ((ticks % 200).toInt64 - 100)
  | .unsigned _ => .unsigned (ticks % 256)

/-- The sources after so many fast ticks. Each is named like the field that it is for. -/
def syntheticSources (sine : Binary64 → Binary64) (schema : Schema) (ticks : UInt64) : Sources :=
  fun name =>
    let kind := ((schema.fields.find? fun f => f.name == name).map Field.kind).getD .double
    .yields (synthetic sine kind ticks)

variable {schema : Schema}

/-- Links the fields to their sources. The packet counter is the transmitter's own. -/
def linkFields (t : Transmitter schema) : List Field → Except NodeError (Transmitter schema)
  | [] => .ok t
  | f :: rest =>
    if f.name = packetCounterName then linkFields t rest
    else
      match t.link f.name f.name with
      | (.ok (), t) => linkFields t rest
      | (.error e, _) => .error e

/-! ### Turns -/

/-- Raises the events one after the other. -/
def raiseAll (t : Transmitter schema) : List Nat → Except NodeError (Transmitter schema)
  | [] => .ok t
  | event :: rest =>
    match t.raise event with
    | (.ok (), t) => raiseAll t rest
    | (.error e, _) => .error e

/-- The slow handler comes with every event that a field is bound to. -/
def raiseDue (t : Transmitter schema) (due : Due) : Except NodeError (Transmitter schema) :=
  if due.slow then raiseAll t ((schema.fieldsIn .conditional).filterMap Field.event) else .ok t

/-- A loop between two turns, with its totals so far. -/
structure SendLoop (schema : Schema) where
  node : Transmitter schema
  schedule : Schedule
  link : Loopback
  /-- How often the fast handler has fired. -/
  ticks : UInt64
  frames : UInt64
  bytes : UInt64
  dropped : UInt64

namespace SendLoop

/-- A loop that has sent nothing yet. -/
def start (node : Transmitter schema) (intervals : TickIntervals) : SendLoop schema :=
  ⟨node, .start intervals 0, {}, 0, 0, 0, 0⟩

/-- Counts what a turn has sent. -/
def count (s : SendLoop schema) : Except NodeError Nat → SendLoop schema
  | .ok 0 => s
  | .ok length => { s with frames := s.frames + 1, bytes := s.bytes + .ofNat length }
  | .error _ => { s with dropped := s.dropped + 1 }

theorem count_of_pos (s : SendLoop schema) {length : Nat} (h : 0 < length) :
    s.count (.ok length) =
      { s with frames := s.frames + 1, bytes := s.bytes + .ofNat length } := by
  cases length with
  | zero => exact absurd h (Nat.lt_irrefl 0)
  | succ n => rfl

/-- One turn of the loop. A frame that is dropped ends nothing. -/
def turn (sine : Binary64 → Binary64) (s : SendLoop schema) (now : Nat) :
    Except NodeError (SendLoop schema) :=
  let (due, schedule) := s.schedule.due now
  let ticks := if due.fast then s.ticks + 1 else s.ticks
  match raiseDue s.node due with
  | .error e => .error e
  | .ok node =>
    let (sent, node, link) := node.runDue (syntheticSources sine schema ticks) due {} s.link
    .ok ({ s with node, schedule, link, ticks }.count sent)

/-- The turns of the loop, the first of them late from `now` on. -/
def run (sine : Binary64 → Binary64) (limit : Option Nat) (s : SendLoop schema) (now : Nat) :
    List Nat → Except NodeError (SendLoop schema)
  | [] => .ok s
  | late :: rest =>
    match s.turn sine (now + late) with
    | .error e => .error e
    | .ok s =>
      if limit.any fun frames => frames ≤ s.frames.toNat then .ok s
      else s.run sine limit (max (now + late) s.schedule.nextDeadline) rest

def summary (s : SendLoop schema) (target : SocketAddress) : SendSummary :=
  ⟨target.text, s.frames, s.bytes, s.dropped⟩

end SendLoop

/-- A fresh transmitter, linked and run up to its last turn. -/
def transmit (host : Host) (schema : Schema) (intervals : TickIntervals) (limit : Option Nat) :
    Except Failure (SendLoop schema) := do
  let node ← (linkFields (Transmitter.initial schema) schema.fields).mapError
    (Failure.ofNode "link failed")
  ((SendLoop.start node intervals).run host.sine limit 0 host.lateness).mapError
    (Failure.ofNode "raise event failed")

end Telemetry.CommandLine
