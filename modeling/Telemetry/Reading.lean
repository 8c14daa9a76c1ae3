import Telemetry.Quantizer
import Telemetry.Json.Basic
/-!
# Telemetry.Reading

**Sensor readings**: what a field of a store holds. Whole numbers keep whether they
came as unsigned or signed. A quantized field holds its decoded float; the raw number
never leaves the frame encoding.
-/

namespace Telemetry

/-- The value of a sensor. -/
inductive Reading
  | unsigned (n : UInt64)
  | signed (n : Int64)
  | float (x : Binary64)
  deriving DecidableEq

namespace Reading

/-- A number as diagnostics show it: with a fraction or an exponent, so that a float is
told from a whole number. -/
def diagnosticLayout : Layout where
  tie := .upper
  positionalFrom := some (-4)
  positionalTo := some 15
  wholeFraction := true
  exponentPlus := false

/-- What a field of this kind holds at first. A quantized field starts at its bias,
which is the value of the raw number zero. -/
def initial : FieldKind → Reading
  | .unsigned _ => unsigned 0
  | .signed _ => signed 0
  | .single => float Binary64.zero
  | .double => float Binary64.zero
  | .quantized _ _ bias => float bias

/-- The whole number of an integer reading. -/
def toInt? : Reading → Option Int
  | unsigned n => some n.toNat
  | signed n => some n.toInt
  | float _ => none

/-- The nearest float. -/
def toBinary64 : Reading → Binary64
  | unsigned n => Binary64.ofNat n.toNat
  | signed n => Binary64.ofInt n.toInt
  | float x => x

/-- The whole number, if it is one from `0` to `2 ^ 64 - 1`. -/
def toUInt64? : Reading → Option UInt64
  | unsigned n => some n
  | signed n => if 0 ≤ n then some n.toUInt64 else none
  | float _ => none

/-- The whole number, if it is one from `-2 ^ 63` to `2 ^ 63 - 1`. -/
def toInt64? : Reading → Option Int64
  | unsigned n => if 2 * n.toNat < UInt64.size then some n.toInt64 else none
  | signed n => some n
  | float _ => none

/-- The text in messages. -/
def text : Reading → String
  | unsigned n => toString n.toNat
  | signed n => toString n.toInt
  | float x => x.plainText

/-- The text in diagnostics, which tells the three forms apart. -/
def diagnostic : Reading → String
  | unsigned n => s!"Unsigned({n.toNat})"
  | signed n => s!"Signed({n.toInt})"
  | float x => s!"Float({diagnosticLayout.text x})"

/-- The JSON form; `null` for a float that is not finite. -/
def toJson : Reading → Json
  | unsigned n => Json.ofUInt64 n
  | signed n => Json.ofInt64 n
  | float x => Json.ofBinary64 x

/-- The reading that a JSON number stands for. Whether it fits a field is checked when
it is stored. -/
def ofJson? : Json → Option Reading
  | .number (.unsigned n) => some (unsigned n)
  | .number (.signed n) => some (signed n)
  | .number (.real x) => some (float x)
  | _ => none

end Reading

end Telemetry
