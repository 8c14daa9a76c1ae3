import Telemetry.Text.Hex
import Telemetry.CommandLine.Numeral
/-!
# Telemetry.CommandLine.Address

**Socket addresses**: a host and the number of a socket on it. The host of
`a.b.c.d:number` is four octets; that of `[groups]:number` is eight groups, where `::`
stands for a run of zero groups, the last two groups may be written as four octets, and a
scope number may follow a percent sign. `text` writes the shortest standard form.
-/

namespace Telemetry.CommandLine

/-- The host part of an address. -/
inductive HostAddress
  | octets (a b c d : Nat)
  | groups (gs : List Nat) (scope : Nat)
  deriving DecidableEq

/-- A host and the number of a socket on it. -/
structure SocketAddress where
  host : HostAddress
  number : Nat
  deriving DecidableEq

namespace SocketAddress

/-- The parts of a text between the given characters. -/
def splitAt (sep : Char) : List Char → List (List Char)
  | [] => [[]]
  | c :: cs =>
    match splitAt sep cs with
    | part :: rest => if c = sep then [] :: part :: rest else (c :: part) :: rest
    | [] => [[c]]

/-- A decimal octet without leading zeros. -/
def octet? (cs : List Char) : Option Nat :=
  if cs.length ≠ 1 ∧ cs.head? = some '0' then none
  else if 3 < cs.length then none
  else (digits? cs).filter fun n => n < 256

def octets? (cs : List Char) : Option (Nat × Nat × Nat × Nat) :=
  match splitAt '.' cs with
  | [a, b, c, d] => do return (← octet? a, ← octet? b, ← octet? c, ← octet? d)
  | _ => none

/-- A group of one to four hexadecimal digits. -/
def group? (cs : List Char) : Option Nat :=
  if cs.isEmpty || 4 < cs.length then none
  else cs.foldlM (fun n c => (Text.Hex.digit? c).map fun d => 16 * n + d) 0

/-- The groups of some parts. Four octets count as two groups and stand only at the end
of an address. -/
def groupList? (atEnd : Bool) : List (List Char) → Option (List Nat)
  | [] => some []
  | [part] =>
    match group? part with
    | some g => some [g]
    | none =>
      if atEnd then
        (octets? part).map fun (a, b, c, d) => [256 * a + b, 256 * c + d]
      else none
  | part :: rest => do
    let g ← group? part
    let gs ← groupList? atEnd rest
    return g :: gs

/-- The groups of a text without `::`; an empty text has none. -/
def groupsOf? (atEnd : Bool) (cs : List Char) : Option (List Nat) :=
  if cs.isEmpty then some [] else groupList? atEnd (splitAt ':' cs)

/-- The text before and after the first `::`. -/
def splitDouble : List Char → List Char × Option (List Char)
  | ':' :: ':' :: rest => ([], some rest)
  | c :: rest =>
    let (before, after) := splitDouble rest
    (c :: before, after)
  | [] => ([], none)

/-- The eight groups of an address. -/
def eightGroups? (cs : List Char) : Option (List Nat) :=
  match splitDouble cs with
  | (whole, none) => (groupsOf? true whole).filter fun gs => gs.length = 8
  | (before, some after) => do
    let front ← groupsOf? false before
    let back ← groupsOf? true after
    if front.length + back.length ≤ 7 then
      some (front ++ List.replicate (8 - front.length - back.length) 0 ++ back)
    else none

def socketNumber? (cs : List Char) : Option Nat := (digits? cs).filter fun n => n < UInt16.size

/-- The address of the text after the opening bracket. -/
def bracketed? (cs : List Char) : Option SocketAddress := do
  let inner := cs.takeWhile (· ≠ ']')
  let number ← match cs.dropWhile (· ≠ ']') with
    | ']' :: ':' :: rest => socketNumber? rest
    | _ => none
  let gs ← eightGroups? (inner.takeWhile (· ≠ '%'))
  let scope ← match inner.dropWhile (· ≠ '%') with
    | '%' :: rest => (digits? rest).filter fun n => n < UInt32.size
    | _ => some 0
  return ⟨.groups gs scope, number⟩

def ofText? (text : String) : Option SocketAddress :=
  match text.toList with
  | '[' :: rest => bracketed? rest
  | cs =>
    match splitAt ':' cs with
    | [host, number] => do
      let (a, b, c, d) ← octets? host
      let number ← socketNumber? number
      return ⟨.octets a b c d, number⟩
    | _ => none

/-! ### Text -/

def octetsText (a b c d : Nat) : String := s!"{a}.{b}.{c}.{d}"

/-- The length of the run of zeros at the front. -/
def zeroRun (gs : List Nat) : Nat := (gs.takeWhile (· = 0)).length

/-- The start and length of the first longest run of zeros. -/
def longestRun (gs : List Nat) : Nat × Nat :=
  (List.range gs.length).foldl (fun best i =>
    let n := zeroRun (gs.drop i)
    if best.2 < n then (i, n) else best) (0, 0)

def groupsText (gs : List Nat) : String :=
  ":".intercalate (gs.map fun g => String.ofList (Nat.toDigits 16 g))

/-- The eight groups with their longest run of two or more zeros written as `::`; an
embedded four-octet address is written as one. -/
def hostGroupsText (gs : List Nat) : String :=
  match gs with
  | [0, 0, 0, 0, 0, 0xffff, x, y] =>
    "::ffff:" ++ octetsText (x / 256) (x % 256) (y / 256) (y % 256)
  | gs =>
    let (start, n) := longestRun gs
    if n < 2 then groupsText gs
    else groupsText (gs.take start) ++ "::" ++ groupsText (gs.drop (start + n))

def text (a : SocketAddress) : String :=
  match a.host with
  | .octets w x y z => s!"{octetsText w x y z}:{a.number}"
  | .groups gs scope =>
    let scopeText := if scope = 0 then "" else s!"%{scope}"
    s!"[{hostGroupsText gs}{scopeText}]:{a.number}"

end SocketAddress

end Telemetry.CommandLine
