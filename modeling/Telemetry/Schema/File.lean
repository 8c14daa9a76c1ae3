import Telemetry.Schema.Definition
/-!
# Telemetry.Schema.File

**Definition files.** Only a regular file within the size limit is read; a symbolic
link is refused even when it leads to one.
-/

namespace Telemetry

/-- What is found at a path, a symbolic link not being followed. -/
inductive FileEntry
  | file (content : List UInt8)
  /-- A symbolic link, with what reading through it gives. -/
  | symlink (content : List UInt8)
  | directory
  /-- A device or a pipe, with what reading it gives. -/
  | special (content : List UInt8)
  | unreadable (fault : FileFault)
  deriving DecidableEq

/-- The text whose encoding the bytes are, if they are one. -/
def decodeText? (bytes : List UInt8) : Option String :=
  String.fromUTF8? (ByteArray.mk bytes.toArray)

/-- The text of a definition file of at most `limit` bytes. -/
def FileEntry.definitionText (limit : Nat) : FileEntry → Except LoadFault String
  | unreadable fault => .error (.unreadable fault)
  | symlink _ => .error .symlink
  | directory => .error .notRegular
  | special _ => .error .notRegular
  | file content =>
    if limit < content.length then .error (.tooLong content.length limit)
    else
      match decodeText? content with
      | some text => .ok text
      | none => .error (.unreadable .notText)

/-- The schema of the definition file found at `path`. -/
def Schema.ofFile (limits : SchemaLimits) (path : String) (entry : FileEntry) :
    Except SchemaError Schema :=
  match entry.definitionText limits.maxFileSize with
  | .ok text => Schema.ofText limits text
  | .error fault => .error (.loadFailed path fault)

end Telemetry
