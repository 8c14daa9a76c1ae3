import Telemetry.Frame.Error
/-!
# Telemetry.Link.Loopback

**A pair of connected datagram ends in one process.** A frame sent on one end is
received whole and in order on the other. The pair is two queues, one for each
direction, and the longest frame that it carries.
-/

namespace Telemetry

/-- One end of a pair. -/
inductive LinkEnd
  | a
  | b
  deriving DecidableEq

def LinkEnd.other : LinkEnd → LinkEnd
  | a => b
  | b => a

/-- The frames on their way, the oldest first, by the end that they go to. -/
structure Loopback where
  maxFrameSize : Nat := 251
  toA : List (List UInt8) := []
  toB : List (List UInt8) := []
  deriving DecidableEq

namespace Loopback

/-- The frames that wait at an end. -/
def waiting (l : Loopback) : LinkEnd → List (List UInt8)
  | .a => l.toA
  | .b => l.toB

/-- The pair with the frames that wait at an end replaced. -/
def withWaiting (l : Loopback) (e : LinkEnd) (frames : List (List UInt8)) : Loopback :=
  match e with
  | .a => { l with toA := frames }
  | .b => { l with toB := frames }

@[simp]
theorem waiting_withWaiting (l : Loopback) (e : LinkEnd) (frames : List (List UInt8)) :
    (l.withWaiting e frames).waiting e = frames := by
  cases e <;> rfl

theorem waiting_withWaiting_of_ne {e e' : LinkEnd} (h : e' ≠ e) (l : Loopback)
    (frames : List (List UInt8)) : (l.withWaiting e' frames).waiting e = l.waiting e := by
  cases e <;> cases e' <;> first | rfl | exact absurd rfl h

@[simp]
theorem maxFrameSize_withWaiting (l : Loopback) (e : LinkEnd) (frames : List (List UInt8)) :
    (l.withWaiting e frames).maxFrameSize = l.maxFrameSize := by
  cases e <;> rfl

/-- How many frames wait at an end. -/
def pending (l : Loopback) (e : LinkEnd) : Nat := (l.waiting e).length

/-- Sends a frame from an end. Too long a frame is refused. -/
def send (l : Loopback) (e : LinkEnd) (frame : List UInt8) :
    Except LinkError Unit × Loopback :=
  if l.maxFrameSize < frame.length then
    (.error (.frameTooLarge frame.length l.maxFrameSize), l)
  else (.ok (), l.withWaiting e.other (l.waiting e.other ++ [frame]))

/-- A frame that the link carries waits at the other end, behind those before it. -/
theorem send_of_le (l : Loopback) (e : LinkEnd) (frame : List UInt8)
    (h : frame.length ≤ l.maxFrameSize) :
    l.send e frame = (.ok (), l.withWaiting e.other (l.waiting e.other ++ [frame])) :=
  if_neg (Nat.not_lt.2 h)

/-- A refused frame leaves the link as it was. -/
theorem send_of_lt (l : Loopback) (e : LinkEnd) (frame : List UInt8)
    (h : l.maxFrameSize < frame.length) :
    l.send e frame = (.error (.frameTooLarge frame.length l.maxFrameSize), l) :=
  if_pos h

/-- Takes the oldest frame that waits at an end. -/
def next? (l : Loopback) (e : LinkEnd) : Option (List UInt8 × Loopback) :=
  match l.waiting e with
  | [] => none
  | frame :: rest => some (frame, l.withWaiting e rest)

/-- Receives a frame at an end, of which at most `capacity` bytes are seen. The rest of it
is lost. -/
def receiveUpTo (l : Loopback) (e : LinkEnd) (capacity : Nat) : Option (List UInt8) × Loopback :=
  match l.next? e with
  | none => (none, l)
  | some (frame, l) => (some (frame.take capacity), l)

/-- Receives a frame at an end into a buffer. What does not fit the buffer is lost. The
answer is how many bytes were written, none when nothing waits, and the buffer
afterwards. -/
def receive (l : Loopback) (e : LinkEnd) (buffer : List UInt8) :
    Option Nat × List UInt8 × Loopback :=
  match l.receiveUpTo e buffer.length with
  | (none, l) => (none, buffer, l)
  | (some part, l) => (some part.length, part ++ buffer.drop part.length, l)

/-- Nothing is received where nothing waits. -/
theorem receive_of_nil {l : Loopback} {e : LinkEnd} (h : l.waiting e = []) (buffer : List UInt8) :
    l.receive e buffer = (none, buffer, l) := by
  simp [receive, receiveUpTo, next?, h]

/-- The oldest frame that waits is taken off, and cut where the buffer ends. -/
theorem receive_of_cons {l : Loopback} {e : LinkEnd} {frame : List UInt8}
    {rest : List (List UInt8)} (h : l.waiting e = frame :: rest) (buffer : List UInt8) :
    l.receive e buffer = (some (min frame.length buffer.length),
      frame.take (min frame.length buffer.length) ++
        buffer.drop (min frame.length buffer.length), l.withWaiting e rest) := by
  have hlength : (frame.take buffer.length).length = min frame.length buffer.length := by
    rw [List.length_take, Nat.min_comm]
  have htake : frame.take buffer.length = frame.take (min frame.length buffer.length) := by
    rw [List.take_eq_take_iff]
    omega
  simp only [receive, receiveUpTo, next?, h, hlength, ← htake]

end Loopback

end Telemetry
