import Telemetry.Quantizer
/-!
# Telemetry.Frame.Error

**Why a frame was dropped.** None of these stops a node: the frame at hand is given up
and the next tick goes on. That the two ends disagree on the layout cannot be seen
from a frame; it is prevented by giving both the same schema.
-/

namespace Telemetry

/-- Why a link did not carry a frame. -/
inductive LinkError
  | frameTooLarge (size max : Nat)
  deriving DecidableEq

def LinkError.message : LinkError → String
  | frameTooLarge size max => s!"frame too large for link ({size} bytes, max {max})"

/-- Why a frame was not built, sent or accepted. -/
inductive FrameError
  | bufferTooSmall (needed capacity : Nat)
  /-- The frame is shorter than its header, or than its code implies. -/
  | truncatedFrame (expected actual : Nat)
  | frameTooLarge (size max : Nat)
  /-- The frame is longer than its code implies. -/
  | trailingBytes (expected actual : Nat)
  /-- A value does not fit the raw width of its quantized field. -/
  | overflow (field : String) (cause : QuantizeError)
  /-- A value does not fit the width, sign or float range of its field. -/
  | valueOutOfRange (field value kind : String)
  /-- A float was given for a whole-number field. -/
  | kindMismatch (field kind : String)
  | unknownField (name : String)
  | link (cause : LinkError)
  /-- The live source of a linked field crashed when it was read. -/
  | sourceCrashed
  deriving DecidableEq

def FrameError.message : FrameError → String
  | bufferTooSmall needed capacity =>
    s!"buffer too small ({capacity} bytes, frame needs {needed})"
  | truncatedFrame expected actual =>
    s!"truncated frame ({actual} bytes, code implies {expected})"
  | frameTooLarge size max => s!"frame too large ({size} bytes, max {max})"
  | trailingBytes expected actual =>
    s!"frame has trailing bytes ({actual} bytes, code implies {expected})"
  | overflow field cause => s!"field {field}: {cause.message}"
  | valueOutOfRange field value kind => s!"field {field}: value {value} out of range for {kind}"
  | kindMismatch field kind => s!"field {field}: expected an integer for {kind}"
  | unknownField name => s!"unknown field: {name}"
  | link cause => s!"link error: {cause.message}"
  | sourceCrashed => "live source crashed"

end Telemetry
