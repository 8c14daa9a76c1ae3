import Telemetry.Node.Schedule
import Telemetry.Text.Blank
/-!
# Telemetry.CommandLine.Numeral

**Numbers in arguments**: decimal digits with any number of leading zeros, after an
optional plus sign. A small number may also be a negative zero. Periods carry a unit.
-/

namespace Telemetry.CommandLine

/-- The number of a text of decimal digits; none for an empty text. -/
def digits? (cs : List Char) : Option Nat :=
  if cs.isEmpty || !cs.all Char.isDigit then none
  else some (cs.foldl (fun n c => 10 * n + (c.toNat - '0'.toNat)) 0)

/-- A number below `limit`, with an optional plus sign. -/
def natBelow? (limit : Nat) (text : List Char) : Option Nat :=
  let body := match text with
    | '+' :: rest => rest
    | cs => cs
  (digits? body).filter fun n => n < limit

/-- A 64-bit count. -/
def count? (text : String) : Option Nat := natBelow? UInt64.size text.toList

/-- An event number, which fits a byte; whether the event exists is not checked here. -/
def eventNumber? (text : String) : Option Nat :=
  match text.toList with
  | '-' :: rest => (digits? rest).filter fun n => n = 0
  | cs => natBelow? 256 cs

/-- A positive period in nanoseconds: `500ms`, `2s`, or a bare number of seconds. -/
def period? (text : String) : Option Nat :=
  let cs := Text.trim text.toList
  let (body, unit) := match cs.reverse with
    | 's' :: 'm' :: rest => (rest.reverse, nanosPerMilli)
    | 's' :: rest => (rest.reverse, nanosPerSecond)
    | _ => (cs, nanosPerSecond)
  (natBelow? UInt64.size body).bind fun n => if n = 0 then none else some (n * unit)

end Telemetry.CommandLine
