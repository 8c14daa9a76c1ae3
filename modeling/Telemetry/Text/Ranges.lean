/-!
# Telemetry.Text.Ranges

**Sets of characters** given as ascending lists of code point ranges, both ends
included. The character properties of this folder are tables of this kind.
-/

namespace Telemetry.Text

/-- A set of code points as ranges, both ends included. -/
abbrev Ranges := List (Nat × Nat)

/-- Whether a code point lies in one of the ranges. The ranges ascend, so the search
ends at the first one that begins past it. -/
def Ranges.contains : Ranges → Nat → Bool
  | [], _ => false
  | (first, last) :: rest, code =>
    if code < first then false else code ≤ last || contains rest code

end Telemetry.Text
