import Telemetry.Link.Loopback
/-!
# Telemetry.Link.Handle

**Ways to hold an end of a link.** The user of an end holds the end itself or a box with it, and
a box may stand in another one. A box passes every call on to what it holds.
-/

namespace Telemetry

/-- An end of a pair as its user holds it. -/
inductive LinkHandle
  | itself (e : LinkEnd)
  | boxed (held : LinkHandle)

namespace LinkHandle

/-- The end that calls arrive at. -/
def linkEnd : LinkHandle → LinkEnd
  | itself e => e
  | boxed held => held.linkEnd

def maxFrameSize (l : Loopback) : LinkHandle → Nat
  | itself _ => l.maxFrameSize
  | boxed held => held.maxFrameSize l

def send (l : Loopback) (frame : List UInt8) : LinkHandle → Except LinkError Unit × Loopback
  | itself e => l.send e frame
  | boxed held => held.send l frame

def receive (l : Loopback) (buffer : List UInt8) :
    LinkHandle → Option Nat × List UInt8 × Loopback
  | itself e => l.receive e buffer
  | boxed held => held.receive l buffer

theorem maxFrameSize_eq (h : LinkHandle) (l : Loopback) : h.maxFrameSize l = l.maxFrameSize := by
  induction h with
  | itself e => rfl
  | boxed held ih => exact ih

theorem send_eq (h : LinkHandle) (l : Loopback) (frame : List UInt8) :
    h.send l frame = l.send h.linkEnd frame := by
  induction h with
  | itself e => rfl
  | boxed held ih => exact ih

theorem receive_eq (h : LinkHandle) (l : Loopback) (buffer : List UInt8) :
    h.receive l buffer = l.receive h.linkEnd buffer := by
  induction h with
  | itself e => rfl
  | boxed held ih => exact ih

end LinkHandle

end Telemetry
