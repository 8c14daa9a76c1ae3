import Telemetry.Link.Channel
import Telemetry.Node.Error
import Telemetry.Node.Schedule
/-!
# Telemetry.Node.Transmitter

**The sending side of a link.** A transmitter keeps the store and its dirty flags behind
one lock. Each operation here is one use of the lock from start to end, as a function
from the transmitter before it to an outcome and the transmitter after it.

A live source that crashes while it is read poisons the lock: the operation does not
return, and every later one that needs the lock is refused. Names are looked up in the
schema before the lock is taken.
-/

namespace Telemetry

/-- The name of the field that counts packets unless another one is chosen. -/
def packetCounterName : String := "packetnum"

/-- A node that sends. -/
structure Transmitter (schema : Schema) where
  store : Store schema
  flags : DirtyFlags
  /-- The index of the field that counts fast ticks. -/
  counter : Option Nat
  poisoned : Bool
  deriving DecidableEq

/-- Whether a field can count packets. -/
def Schema.isCounter (s : Schema) (index : Nat) : Bool :=
  match (s.fields[index]?).map Field.kind with
  | some (.unsigned _) => true
  | _ => false

namespace Transmitter

variable {schema : Schema} {α : Type}

/-- A fresh node. The field named `packetCounterName` is its counter if it can be one. -/
def initial (schema : Schema) : Transmitter schema where
  store := Store.initial schema
  flags := .clean
  counter := (schema.indexOf? packetCounterName).filter schema.isCounter
  poisoned := false

def index (schema : Schema) (name : String) : Except NodeError Nat :=
  match schema.indexOf? name with
  | some i => .ok i
  | none => .error (.unknownField name)

/-- The node with another field as its packet counter. -/
def withCounter (t : Transmitter schema) (name : String) :
    Except NodeError (Transmitter schema) :=
  match index schema name with
  | .error e => .error e
  | .ok i =>
    if schema.isCounter i then .ok { t with counter := some i }
    else .error (.invalidCounter name)

/-- Runs an operation under the lock, which a crash in it poisons. -/
def locked (t : Transmitter schema)
    (run : Transmitter schema → Except FrameError α × Transmitter schema) :
    Except NodeError α × Transmitter schema :=
  if t.poisoned then (.error .lockPoisoned, t)
  else
    match run t with
    | (.ok a, t) => (.ok a, t)
    | (.error e, t) => (.error (.frame e), { t with poisoned := e == .sourceCrashed })

/-- Runs an operation on a named field under the lock. -/
def lockedAt (t : Transmitter schema) (name : String)
    (run : Nat → Transmitter schema → Except FrameError α × Transmitter schema) :
    Except NodeError α × Transmitter schema :=
  match index schema name with
  | .ok i => t.locked (run i)
  | .error e => (.error e, t)

/-- The transmitter with a new store if there is one. -/
def replaceStore (t : Transmitter schema) :
    Except FrameError (Store schema) → Except FrameError Unit × Transmitter schema
  | .ok store => (.ok (), { t with store })
  | .error e => (.error e, t)

/-- Marks what carries a field: its event, or else its tier. -/
def markField (schema : Schema) (index : Nat) (flags : DirtyFlags) : DirtyFlags :=
  match schema.fields[index]? with
  | none => flags
  | some f =>
    match f.event with
    | some event => (flags.raise event).2
    | none => (flags.mark f.tier).2

/-- Stores a value and marks nothing. It goes out with the next frame that carries the
field. -/
def set (t : Transmitter schema) (name : String) (r : Reading) :
    Except NodeError Unit × Transmitter schema :=
  t.lockedAt name fun i t => t.replaceStore (t.store.set i r)

/-- Stores a value and marks what carries its field. -/
def update (t : Transmitter schema) (name : String) (r : Reading) :
    Except NodeError Unit × Transmitter schema :=
  t.lockedAt name fun i t =>
    match t.store.set i r with
    | .error e => (.error e, t)
    | .ok store => (.ok (), { t with store, flags := markField schema i t.flags })

/-- Links a field to a live source. -/
def link (t : Transmitter schema) (name source : String) :
    Except NodeError Unit × Transmitter schema :=
  t.lockedAt name fun i t => t.replaceStore (t.store.link i source)

/-- The current value of a field. -/
def get (t : Transmitter schema) (sources : Sources) (name : String) :
    Except NodeError Reading × Transmitter schema :=
  t.lockedAt name fun i t => (t.store.get sources i, t)

/-- The largest number that a counter field holds. -/
def counterMax (schema : Schema) (index : Nat) : Nat := Nat.pow 256 (schema.fieldSize index) - 1

/-- The count after a reading: one more, or zero from the largest one on and for what is
not a count. -/
def nextCount (schema : Schema) (index : Nat) (r : Reading) : Reading :=
  match r.toUInt64? with
  | some n => if n.toNat < counterMax schema index then .unsigned (n + 1) else .unsigned 0
  | none => .unsigned 0

/-- The store after a fast tick. A counter that is linked is left to its source, so no
source is read here. -/
def countTick (t : Transmitter schema) : Except FrameError (Store schema) :=
  match t.counter with
  | none => .ok t.store
  | some i =>
    match t.store.slots[i]? with
    | some (.owned r) => t.store.set i (nextCount schema i r)
    | some (.linked _) => .ok t.store
    | none => .error (.unknownField (toString i))

/-- The handler of a periodic tier: marks the tier. The fast one first counts. -/
def tick (t : Transmitter schema) (tier : Tier) : Except NodeError Unit × Transmitter schema :=
  t.locked fun t =>
    let marked : DirtyFlags := (t.flags.mark tier).2
    if tier = .fast then
      match t.countTick with
      | .error e => (.error e, t)
      | .ok store => (.ok (), { t with store, flags := marked })
    else (.ok (), { t with flags := marked })

/-- Raises an event for the next frame. -/
def raise (t : Transmitter schema) (event : Nat) :
    Except NodeError Unit × Transmitter schema :=
  if t.poisoned then (.error .lockPoisoned, t)
  else
    match t.flags.raise event with
    | (true, flags) => (.ok (), { t with flags })
    | (false, _) => (.error (.invalidEvent event), t)

/-- Whether anything waits to be sent. -/
def isDirty (t : Transmitter schema) : Except NodeError Bool :=
  if t.poisoned then .error .lockPoisoned else .ok !t.flags.isClean

/-- Sends one frame of everything that is dirty and leaves the flags clean, also when the
frame is dropped. The answer is the length of the frame, none when nothing was dirty. -/
def send (t : Transmitter schema) (sources : Sources) (writer : FrameWriter)
    (link : Loopback) : Except NodeError Nat × Transmitter schema × Loopback :=
  if t.poisoned then (.error .lockPoisoned, t, link)
  else
    match writer.sendDirty sources t.store t.flags link with
    | (.ok n, flags, link) => (.ok n, { t with flags }, link)
    | (.error e, flags, link) =>
      (.error (.frame e), { t with flags, poisoned := e == .sourceCrashed }, link)

/-- Runs the periodic handlers that are due, in priority order, up to the first failure. -/
def runTicks (t : Transmitter schema) : List Tier → Except NodeError Unit × Transmitter schema
  | [] => (.ok (), t)
  | tier :: rest =>
    match t.tick tier with
    | (.ok (), t) => t.runTicks rest
    | (.error e, t) => (.error e, t)

/-- The periodic tiers whose handlers are due. -/
def dueTiers (d : Due) : List Tier :=
  (if d.fast then [.fast] else []) ++ (if d.medium then [.medium] else [])
    ++ if d.slow then [.slow] else []

/-- Runs the handlers that are due, the ticks before the send. -/
def runDue (t : Transmitter schema) (sources : Sources) (d : Due) (writer : FrameWriter)
    (link : Loopback) : Except NodeError Nat × Transmitter schema × Loopback :=
  match t.runTicks (dueTiers d) with
  | (.error e, t) => (.error e, t, link)
  | (.ok (), t) => if d.send then t.send sources writer link else (.ok 0, t, link)

end Transmitter

end Telemetry
