import Telemetry.Store
import Telemetry.MessageCode
/-!
# Telemetry.Frame.Basic

**Frames**: a header with the message code, then the fields that the code selects,
packed without names or gaps. Fast fields come first, then medium and slow ones, then
conditional fields by ascending event.

Writing and reading walk the same list, `carried`. A frame is checked by its length
alone before anything is read from it, so a refused frame has no effect at all.
-/

namespace Telemetry

/-- Limits of a writer or a reader of frames. -/
structure FrameConfig where
  /-- The longest frame that is written or accepted. -/
  maxFrameSize : Nat := 251
  /-- Whether a frame longer than its code implies is refused. -/
  rejectTrailingBytes : Bool := true

/-- The indices of the fields that a frame with this code carries, in frame order. -/
def Schema.carried (s : Schema) (code : MessageCode) : List Nat :=
  let periodic := (Tier.periodic.filter code.hasTier).flatMap fun t => (s.span t).indices
  let conditional := ((List.range (maxEvent + 1)).filter code.hasEvent).filterMap
    s.conditionalIndex?
  periodic ++ conditional

/-- The size of the field at an index. -/
def Schema.fieldSize (s : Schema) (index : Nat) : Nat :=
  match s.fields[index]? with
  | some f => f.size
  | none => 0

/-- Bytes that the fields at some indices take together. -/
def Schema.payloadSize (s : Schema) : List Nat → Nat
  | [] => 0
  | index :: rest => s.fieldSize index + s.payloadSize rest

/-- The length of the frame with this code, header included. The empty code has no
frame. -/
def Schema.frameLen (s : Schema) (code : MessageCode) : Nat :=
  if code.isEmpty then 0
  else headerSize + s.payloadSize (s.carried code)

namespace Store

variable {schema : Schema}

/-- The bytes of a field as it is now. -/
def encodeField (s : Store schema) (sources : Sources) (index : Nat) :
    Except FrameError Bytes :=
  match schema.fields[index]? with
  | none => .ok []
  | some f =>
    match s.get sources index with
    | .error e => .error e
    | .ok r => r.encode f

/-- The bytes of some fields one after the other. Packing ends at the first field that
cannot be encoded; the bytes of those before it are kept beside its error. -/
def pack (s : Store schema) (sources : Sources) : List Nat → Bytes × Except FrameError Unit
  | [] => ([], .ok ())
  | index :: rest =>
    match s.encodeField sources index with
    | .error e => ([], .error e)
    | .ok bytes =>
      let (more, outcome) := s.pack sources rest
      (bytes ++ more, outcome)

/-- Writes the frame of a code over the front of a buffer. The answer is the length of
the frame, none for the empty code, and the buffer afterwards. When a field cannot be
encoded, what was packed before it has already been written. -/
def serialize (s : Store schema) (sources : Sources) (code : MessageCode) (buffer : Bytes) :
    Except FrameError Nat × Bytes :=
  if code.isEmpty then (.ok 0, buffer)
  else
    let needed := schema.frameLen code
    if buffer.length < needed then (.error (.bufferTooSmall needed buffer.length), buffer)
    else
      -- the buffer keeps what was packed, whether or not packing came to its end
      let (payload, outcome) := s.pack sources (schema.carried code)
      let written := code.toBytes ++ payload
      (outcome.map fun () => written.length, written ++ buffer.drop written.length)

/-- Appends the frame of a code to a buffer: makes room behind what the buffer holds, packs the
frame there, and gives the room up if a field cannot be encoded. A crash leaves the room as it
is. -/
def serializeInto (s : Store schema) (sources : Sources) (code : MessageCode)
    (buffer : Bytes) : Except FrameError Nat × Bytes :=
  let len := schema.frameLen code
  if len = 0 then (.ok 0, buffer)
  else
    let start := buffer.length
    let room := buffer ++ List.replicate len 0
    let (outcome, written) := s.serialize sources code (room.drop start)
    let filled := room.take start ++ written
    match outcome with
    | .ok n => (.ok n, filled)
    | .error e => (.error e, if e = .sourceCrashed then filled else filled.take start)

end Store

/-- An accepted frame: its code and the values it carries, each with its field's index,
in frame order. -/
structure DecodedFrame where
  code : MessageCode
  updates : List (Nat × Reading)
  deriving DecidableEq

/-- The store with every value of the frame put into its field. -/
def DecodedFrame.apply {schema : Schema} (frame : DecodedFrame) (s : Store schema) :
    Store schema :=
  frame.updates.foldl (fun s (index, r) => s.put index r) s

namespace Schema

/-- The values of some fields that stand one after the other in a payload. -/
def unpack (s : Schema) : List Nat → Bytes → List (Nat × Reading)
  | [], _ => []
  | index :: rest, payload =>
    match s.fields[index]? with
    | none => s.unpack rest payload
    | some f =>
      (index, Reading.decode f.kind (payload.take f.size)) ::
        s.unpack rest (payload.drop f.size)

/-- The code at the front of a frame; the empty code when it has no full header. -/
def headerOf : Bytes → MessageCode
  | low :: high :: _ => MessageCode.ofBytes low high
  | _ => .empty

/-- Reads a frame. Too long a frame is refused before its header is read, a frame that
is cut short before one with surplus bytes. -/
def decodeFrame (s : Schema) (config : FrameConfig) (frame : Bytes) :
    Except FrameError DecodedFrame :=
  if config.maxFrameSize < frame.length then
    .error (.frameTooLarge frame.length config.maxFrameSize)
  else if frame.length < headerSize then
    .error (.truncatedFrame headerSize frame.length)
  else
    let code := headerOf frame
    -- the empty code implies no frame, but its header has been received
    let expected := max (s.frameLen code) headerSize
    if frame.length < expected then .error (.truncatedFrame expected frame.length)
    else if expected < frame.length ∧ config.rejectTrailingBytes then
      .error (.trailingBytes expected frame.length)
    else .ok ⟨code, s.unpack (s.carried code) (frame.drop headerSize)⟩

end Schema

/-- Reads a frame into a store. A refused frame leaves the store as it was. -/
def Store.deserialize {schema : Schema} (s : Store schema) (config : FrameConfig)
    (frame : Bytes) : Except FrameError MessageCode × Store schema :=
  match schema.decodeFrame config frame with
  | .ok decoded => (.ok decoded.code, decoded.apply s)
  | .error e => (.error e, s)

end Telemetry
