import Telemetry.Link.Channel
import Telemetry.Node.Error
import Telemetry.Node.Snapshot
/-!
# Telemetry.Node.Receiver

**The receiving side of a link**: the last known value of every field and two counts of
frames, which wrap. A frame is checked in full before the store is touched; a refused one
is counted and otherwise ignored.

The store is behind a lock, which a crash while it is held would poison. The counts are
not, and neither is the check of a frame. A receiver has no linked fields, so nothing in
it crashes.
-/

namespace Telemetry

/-- A node that receives. -/
structure Receiver (schema : Schema) where
  store : Store schema
  config : FrameConfig
  /-- How many frames were accepted. -/
  received : UInt64
  /-- How many frames were refused. -/
  dropped : UInt64
  poisoned : Bool

namespace Receiver

variable {schema : Schema} {α : Type}

def initial (schema : Schema) (config : FrameConfig) : Receiver schema :=
  ⟨Store.initial schema, config, 0, 0, false⟩

/-- Runs an operation on the store under the lock, which a crash in it poisons. -/
def locked (n : Receiver schema) (run : Store schema → Except FrameError α × Store schema) :
    Except NodeError α × Receiver schema :=
  if n.poisoned then (.error .lockPoisoned, n)
  else
    match run n.store with
    | (.ok a, store) => (.ok a, { n with store })
    | (.error e, store) =>
      (.error (.frame e), { n with store, poisoned := e == .sourceCrashed })

theorem locked_of_ok {n : Receiver schema} (hlock : n.poisoned = false)
    {run : Store schema → Except FrameError α × Store schema} {a : α} {store : Store schema}
    (hrun : run n.store = (.ok a, store)) : n.locked run = (.ok a, { n with store }) := by
  rw [locked, hlock, hrun]
  rfl

/-- Takes in the outcome of reading a frame. -/
def accept (n : Receiver schema) : Except FrameError DecodedFrame →
    Except NodeError MessageCode × Receiver schema
  | .ok frame =>
    match n.locked fun store => (.ok frame.code, frame.apply store) with
    | (.ok code, n) => (.ok code, { n with received := n.received + 1 })
    | (.error e, n) => (.error e, n)
  | .error e => (.error (.frame e), { n with dropped := n.dropped + 1 })

theorem accept_ok {n : Receiver schema} (hlock : n.poisoned = false) (frame : DecodedFrame) :
    n.accept (.ok frame) =
      (.ok frame.code,
        { n with store := frame.apply n.store, received := n.received + 1 }) := by
  have htaken : n.locked (fun store => (.ok frame.code, frame.apply store)) =
      (.ok frame.code, { n with store := frame.apply n.store }) := locked_of_ok hlock rfl
  rw [accept, htaken]

/-- Checks one frame and takes its values. -/
def apply (n : Receiver schema) (frame : Bytes) :
    Except NodeError MessageCode × Receiver schema :=
  n.accept (schema.decodeFrame n.config frame)

/-- Receives one frame, if one waits at the reader, and takes its values. -/
def receive (n : Receiver schema) (reader : FrameReader) (link : Loopback) :
    Except NodeError (Option MessageCode) × Receiver schema × Loopback :=
  match reader.receive schema link with
  | (.ok none, link) => (.ok none, n, link)
  | (.ok (some frame), link) =>
    let (outcome, n) := n.accept (.ok frame)
    (outcome.map some, n, link)
  | (.error e, link) =>
    let (outcome, n) := n.accept (.error e)
    (outcome.map some, n, link)

/-- The sources of a store without linked fields. -/
def noSources : Sources := fun _ => .crashes

/-- The last known value of a field. -/
def get (n : Receiver schema) (name : String) : Except NodeError Reading × Receiver schema :=
  match schema.indexOf? name with
  | none => (.error (.unknownField name), n)
  | some i => n.locked fun store => (store.get noSources i, store)

/-- The last known values, by tier and name. -/
def snapshot (n : Receiver schema) : Except NodeError Json × Receiver schema :=
  n.locked fun store => (store.snapshot noSources, store)

end Receiver

end Telemetry
