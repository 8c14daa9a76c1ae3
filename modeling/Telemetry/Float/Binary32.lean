import Telemetry.Float.Binary64
/-!
# Telemetry.Float.Binary32

**Binary32 numbers** and the way between the two widths: `widen` is exact, `narrow`
rounds to nearest with ties to even. Both keep the sign and the leading payload
bits of a NaN and make it quiet.
-/

namespace Telemetry

/-- A binary32 number as its bit pattern. -/
structure Binary32 where
  bits : UInt32
  deriving DecidableEq, Inhabited

namespace Binary32

/-- Bits of the significand, the implied one included. -/
def precision : Nat := 24

/-- The bit pattern of positive infinity. -/
def infinityIndex : Nat := 0x7f800000

/-- The weight of the sign bit. -/
def signWeight : Nat := 0x80000000

/-- One step of this width in steps of binary64. -/
def step : Nat := Nat.pow 2 925

/-- The bit of the significand that makes a NaN quiet. -/
def quietBit : Nat := 0x400000

/-- The weight of the last payload bit among the payload bits of binary64. -/
def payloadWeight : Nat := 0x20000000

def negative (x : Binary32) : Bool := decide (signWeight ≤ x.bits.toNat)

/-- The bits below the sign: the index of the magnitude on the grid. -/
def index (x : Binary32) : Nat := x.bits.toNat % signWeight

/-- The number with this sign and index. -/
def ofIndex (negative : Bool) (index : Nat) : Binary32 :=
  ⟨UInt32.ofNat (index + if negative then signWeight else 0)⟩

/-- The payload of a NaN with the quiet bit set. -/
def quieted (payload : Nat) : Nat := payload % quietBit + quietBit

/-- The same number in binary64. -/
def widen (x : Binary32) : Binary64 :=
  if x.index < infinityIndex then
    Binary64.round x.negative (Grid.steps precision x.index * step) 1
  else if x.index = infinityIndex then Binary64.infinity x.negative
  else
    Binary64.ofIndex x.negative
      (Binary64.infinityIndex + quieted (x.index - infinityIndex) * payloadWeight)

/-- The nearest number of this width, infinity when it is past the largest finite one. -/
def narrow (x : Binary64) : Binary32 :=
  if x.isFinite then
    ofIndex x.negative (min (Grid.nearest precision x.steps step) infinityIndex)
  else if x.isNaN then
    ofIndex x.negative
      (infinityIndex + quieted ((x.index - Binary64.infinityIndex) / payloadWeight))
  else ofIndex x.negative infinityIndex

/-- The largest finite number of this width. -/
def largest : Binary32 := ofIndex false (infinityIndex - 1)

end Binary32

end Telemetry
