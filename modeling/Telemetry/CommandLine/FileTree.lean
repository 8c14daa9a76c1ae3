import Telemetry.Schema.File
import Telemetry.CommandLine.Address
/-!
# Telemetry.CommandLine.FileTree

**Files and directories**, and what a path leads to. A path is walked name by name from
the root, or from the working directory if no stroke begins it. Each step, also one that
stays in place or goes up, needs a directory to start from, so of two faults on a path
the first one on the way shows.
-/

namespace Telemetry.CommandLine

/-- The content that reading an entry gives. -/
def entryContent : FileEntry → Except FileFault (List UInt8)
  | .file content => .ok content
  | .symlink content => .ok content
  | .special content => .ok content
  | .directory => .error .isDirectory
  | .unreadable fault => .error fault

/-- Entries under the names that lead to them from the root, and the working directory.
The root itself is a directory and needs no entry. -/
structure FileTree where
  entries : List (List String × FileEntry)
  working : List String

/-- The greatest number of bytes in a name. -/
def longestName : Nat := 255

/-- The greatest number of bytes in a path. -/
def longestPath : Nat := 4095

/-- The names between the strokes of a path. -/
def pathNames (path : String) : List String :=
  (SocketAddress.splitAt '/' path.toList).map String.ofList

namespace FileTree

/-- The entry under these names. -/
def entryAt (t : FileTree) (names : List String) : FileEntry :=
  if names.isEmpty then .directory
  else (t.entries.lookup names).getD (.unreadable .notFound)

/-- The place that is reached from `place` by these names. An empty name or a dot stays
there, and two dots go up, from the root to itself. -/
def walk (t : FileTree) (place : List String) : List String → Except FileFault (List String)
  | [] => .ok place
  | name :: names =>
    if t.entryAt place ≠ .directory then .error .notDirectory
    else if name = "" ∨ name = "." then walk t place names
    else if name = ".." then walk t place.dropLast names
    else if longestName < name.utf8ByteSize then .error .nameTooLong
    else if t.entryAt (place ++ [name]) = .unreadable .notFound then .error .notFound
    else walk t (place ++ [name]) names

/-- What lies at a path. The empty path leads nowhere. -/
def entry (t : FileTree) (path : String) : FileEntry :=
  if path = "" then .unreadable .notFound
  else if longestPath < path.utf8ByteSize then .unreadable .nameTooLong
  else
    match t.walk (if path.toList.head? = some '/' then [] else t.working) (pathNames path) with
    | .ok place => t.entryAt place
    | .error fault => .unreadable fault

/-- The content of the file at a path. -/
def read (t : FileTree) (path : String) : Except FileFault (List UInt8) :=
  entryContent (t.entry path)

/-- The entries that make these names, one by one, directories. -/
def directories (names : List String) : List (List String × FileEntry) :=
  (List.range names.length).map fun n => (names.take (n + 1), .directory)

/-- Entries that any machine has below its root. Devices that have no end of their own are
given none to read. -/
def usual : List (List String × FileEntry) :=
  ["dev", "etc", "home", "proc", "root", "sys", "tmp", "usr", "var"].map
      (fun name => ([name], .directory))
    ++ ["null", "zero", "full", "random", "urandom"].map
      (fun name => (["dev", name], .special []))
    ++ ["stdin", "stdout", "stderr"].map (fun name => (["dev", name], .symlink []))

/-- The tree of a machine that has these files in one directory, and is used from another
one. -/
def ofFiles (directory : String) (files : List (String × List UInt8)) : FileTree :=
  let root := (pathNames directory).filter (· ≠ "")
  { entries := files.map (fun (name, content) => (root ++ [name], .file content))
      ++ directories root ++ directories ["home", "user"] ++ usual
    working := ["home", "user"] }

end FileTree

end Telemetry.CommandLine
