import Telemetry.DirtyFlags
import Telemetry.Frame.Basic
import Telemetry.Link.Loopback
/-!
# Telemetry.Link.Channel

**Frames over a link.** A writer packs a store and sends the frame; a reader receives a
datagram and reads it as a frame; a datagram codec reads datagrams that came another
way. Each datagram is one frame.

A reader's buffer is one byte longer than the longest frame that it or the link accepts.
A datagram that the buffer cuts off is therefore still too long, and is refused.
-/

namespace Telemetry

/-- Sends frames from one end of a link. -/
structure FrameWriter where
  config : FrameConfig := {}
  linkEnd : LinkEnd := .a

namespace FrameWriter

/-- Packs the fields of a code and sends the frame. The answer is its length, none for
the empty code, for which nothing is sent. -/
def send {schema : Schema} (w : FrameWriter) (sources : Sources) (store : Store schema)
    (code : MessageCode) (link : Loopback) : Except FrameError Nat × Loopback :=
  match store.serializeInto sources code [] with
  | (.error e, _) => (.error e, link)
  | (.ok n, frame) =>
    -- the shorter limit is named in the error, whichever side it belongs to
    let limit := min w.config.maxFrameSize link.maxFrameSize
    if n = 0 then (.ok 0, link)
    else if limit < n then (.error (.link (.frameTooLarge n limit)), link)
    else
      match link.send w.linkEnd frame with
      | (.ok (), link) => (.ok n, link)
      | (.error e, link) => (.error (.link e), link)

/-- Sends the frame of everything that is dirty. The flags are clean afterwards, also
when the frame is dropped. -/
def sendDirty {schema : Schema} (w : FrameWriter) (sources : Sources) (store : Store schema)
    (flags : DirtyFlags) (link : Loopback) : Except FrameError Nat × DirtyFlags × Loopback :=
  let (code, flags) := flags.drain
  let (outcome, link) := w.send sources store code link
  (outcome, flags, link)

theorem sendDirty_eq {schema : Schema} (w : FrameWriter) (sources : Sources) (store : Store schema)
    (flags : DirtyFlags) (link : Loopback) : w.sendDirty sources store flags link =
      ((w.send sources store flags.pending link).1, .clean,
        (w.send sources store flags.pending link).2) := by
  rw [sendDirty, DirtyFlags.drain_eq]

end FrameWriter

/-- Receives frames at one end of a link. -/
structure FrameReader where
  config : FrameConfig := {}
  linkEnd : LinkEnd := .b

namespace FrameReader

/-- How long a datagram the reader sees whole. -/
def capacity (r : FrameReader) (link : Loopback) : Nat :=
  max r.config.maxFrameSize link.maxFrameSize + 1

/-- Receives one frame, if one waits. -/
def receive (r : FrameReader) (schema : Schema) (link : Loopback) :
    Except FrameError (Option DecodedFrame) × Loopback :=
  match link.receiveUpTo r.linkEnd (r.capacity link) with
  | (none, link) => (.ok none, link)
  | (some datagram, link) => ((schema.decodeFrame r.config datagram).map some, link)

/-- Receives one frame, if one waits, into a store. -/
def poll {schema : Schema} (r : FrameReader) (store : Store schema) (link : Loopback) :
    Except FrameError (Option MessageCode) × Store schema × Loopback :=
  match r.receive schema link with
  | (.error e, link) => (.error e, store, link)
  | (.ok none, link) => (.ok none, store, link)
  | (.ok (some frame), link) => (.ok (some frame.code), frame.apply store, link)

end FrameReader

/-- Reads the datagram in a buffer as a frame and empties the buffer. An empty buffer
holds no frame yet. -/
def Schema.decodeDatagram (s : Schema) (config : FrameConfig) (buffer : Bytes) :
    Except FrameError (Option DecodedFrame) × Bytes :=
  if buffer.isEmpty then (.ok none, buffer)
  else ((s.decodeFrame config buffer).map some, [])

end Telemetry
