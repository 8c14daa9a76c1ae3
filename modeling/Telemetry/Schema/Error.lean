import Telemetry.Tier
import Telemetry.Quantizer
/-!
# Telemetry.Schema.Error

**Why a schema was refused**: one constructor for each cause, and the message of each.
-/

namespace Telemetry

/-- Why a file could not be read. -/
inductive FileFault
  | notFound
  | permissionDenied
  | notDirectory
  | isDirectory
  | nameTooLong
  | notText
  deriving DecidableEq

def FileFault.message : FileFault → String
  | notFound => "No such file or directory (os error 2)"
  | permissionDenied => "Permission denied (os error 13)"
  | notDirectory => "Not a directory (os error 20)"
  | isDirectory => "Is a directory (os error 21)"
  | nameTooLong => "File name too long (os error 36)"
  | notText => "stream did not contain valid UTF-8"

/-- Why a definition file was not loaded. -/
inductive LoadFault
  | unreadable (fault : FileFault)
  | symlink
  | notRegular
  | tooLong (size limit : Nat)
  deriving DecidableEq

def LoadFault.message : LoadFault → String
  | unreadable fault => fault.message
  | symlink => "definition is a symlink"
  | notRegular => "definition is not a regular file"
  | tooLong size limit => s!"{size} bytes exceeds the {limit} byte limit"

/-- Why a schema was refused. -/
inductive SchemaError
  | loadFailed (path : String) (fault : LoadFault)
  /-- The document is not JSON, or an event in it is not written as a whole number. -/
  | invalidJson
  /-- The document does not have the definition format. -/
  | validationFailed
  | duplicateField (name : String)
  | emptyFieldName
  /-- The event of a conditional field is missing or too high, or a periodic field
  has one. -/
  | invalidEvent (field : String) (event : Option Nat)
  /-- A conditional field is declared after one with the same or a later event. -/
  | eventOrder (field : String) (event previous : Nat)
  | invalidQuantizer (field : String) (scale bias : Binary64)
  | frameTooLarge (size max : Nat)
  | tooManyFields (count max : Nat)
  | unknownVariant (name : String)
  deriving DecidableEq

namespace SchemaError

/-- An event as diagnostics show it. -/
def eventText : Option Nat → String
  | some event => s!"Some({event})"
  | none => "None"

def message : SchemaError → String
  | loadFailed path fault => s!"failed to load schema definition: {path}: {fault.message}"
  | invalidJson => "schema definition is not valid JSON: unreadable document"
  | validationFailed => "schema definition rejected: not in the definition format"
  | duplicateField name => s!"duplicate field name: {name}"
  | emptyFieldName => "field name must not be empty"
  | invalidEvent field event =>
    s!"field {field}: invalid conditional event {eventText event} (expected 0..={maxEvent})"
  | eventOrder field event previous =>
    s!"field {field}: event {event} declared after event {previous}"
  | invalidQuantizer field scale bias =>
    s!"field {field}: invalid quantizer (scale {scale.plainText}, bias {bias.plainText})"
  | frameTooLarge size max => s!"largest frame is {size} bytes, link max is {max}"
  | tooManyFields count max => s!"schema has {count} fields, max {max}"
  | unknownVariant name => s!"unknown schema variant: {name}"

end SchemaError

end Telemetry
