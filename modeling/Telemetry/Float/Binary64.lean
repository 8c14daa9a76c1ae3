import Telemetry.Float.Grid
/-!
# Telemetry.Float.Binary64

**Binary64 numbers**, held as their bit patterns, with exact-integer arithmetic
rounded to nearest, ties to even.

Design points:

* The type is the bit pattern, so a number that is only carried (a NaN with a
  payload, a negative zero) comes out as it went in.
* Every finite number is a whole number of steps of `2 ^ -1074`
  (`Binary64.steps`). Arithmetic works on these counts in `Nat` and `Int` and
  rounds once, through `Grid.nearest`.
* An operation whose result is not a number answers the one quiet NaN `nan`.
-/

namespace Telemetry

/-- A binary64 number as its bit pattern. -/
structure Binary64 where
  bits : UInt64
  deriving DecidableEq, Inhabited

namespace Binary64

/-- Bits of the significand, the implied one included. -/
def precision : Nat := 53

/-- The bit pattern of positive infinity: the first index past the finite ones. -/
def infinityIndex : Nat := 0x7ff0000000000000

/-- The weight of the sign bit. -/
def signWeight : Nat := 0x8000000000000000

/-- The number one, in steps. -/
def one : Nat := Nat.pow 2 1074

/-- Whether the sign bit is set. -/
def negative (x : Binary64) : Bool := decide (signWeight ≤ x.bits.toNat)

/-- The bits below the sign: the index of the magnitude on the grid. -/
def index (x : Binary64) : Nat := x.bits.toNat % signWeight

def isFinite (x : Binary64) : Bool := decide (x.index < infinityIndex)

def isNaN (x : Binary64) : Bool := decide (infinityIndex < x.index)

/-- The number with this sign and index. -/
def ofIndex (negative : Bool) (index : Nat) : Binary64 :=
  ⟨UInt64.ofNat (index + if negative then signWeight else 0)⟩

/-- The quiet NaN that arithmetic answers. -/
def nan : Binary64 := ofIndex false 0x7ff8000000000000

def infinity (negative : Bool) : Binary64 := ofIndex negative infinityIndex

def zero : Binary64 := ofIndex false 0

/-- The magnitude of a finite number, in steps. -/
def steps (x : Binary64) : Nat := Grid.steps precision x.index

/-- The value of a finite number, in steps. -/
def toInt (x : Binary64) : Int := if x.negative then -(x.steps : Int) else x.steps

/-- The number nearest to `num / den` steps, infinity when that is past the
largest finite one. -/
def round (negative : Bool) (num den : Nat) : Binary64 :=
  ofIndex negative (min (Grid.nearest precision num den) infinityIndex)

/-- The number nearest to a whole number of ones. -/
def ofInt (n : Int) : Binary64 := round (decide (n < 0)) (n.natAbs * one) 1

def ofNat (n : Nat) : Binary64 := ofInt n

/-! ### Order and sign -/

/-- Finite or infinite, and above zero. -/
def isPositive (x : Binary64) : Bool := !x.negative && !x.isNaN && decide (x.index ≠ 0)

/-- Neither operand is a NaN and the magnitude of `x` is at most that of `y`. -/
def magnitudeLE (x y : Binary64) : Bool := !x.isNaN && !y.isNaN && decide (x.index ≤ y.index)

def neg (x : Binary64) : Binary64 := ofIndex (!x.negative) x.index

/-! ### Arithmetic -/

/-- The sum. Two zeros of negative sign add up to the negative zero; every other
exact zero is positive. -/
def add (x y : Binary64) : Binary64 :=
  if x.isNaN || y.isNaN then nan
  else if !x.isFinite then
    if !y.isFinite && x.negative != y.negative then nan else x
  else if !y.isFinite then y
  else
    -- step counts add up exactly, so only the last step rounds
    let sum := x.toInt + y.toInt
    if sum = 0 then ofIndex (x.negative && y.negative) 0
    else round (decide (sum < 0)) sum.natAbs 1

def sub (x y : Binary64) : Binary64 := add x (neg y)

def mul (x y : Binary64) : Binary64 :=
  let sign := x.negative != y.negative
  if x.isNaN || y.isNaN then nan
  else if !x.isFinite || !y.isFinite then
    if x.index = 0 || y.index = 0 then nan else infinity sign
  else round sign (x.steps * y.steps) one

def div (x y : Binary64) : Binary64 :=
  let sign := x.negative != y.negative
  if x.isNaN || y.isNaN then nan
  else if !x.isFinite then if y.isFinite then infinity sign else nan
  else if !y.isFinite then ofIndex sign 0
  else if y.index = 0 then if x.index = 0 then nan else infinity sign
  else round sign (x.steps * one) y.steps

/-- A finite number rounded to a whole one, a half going away from zero. -/
def roundToInt? (x : Binary64) : Option Int :=
  if x.isFinite then
    let n := (2 * x.steps + one) / (2 * one)
    some (if x.negative then -(n : Int) else n)
  else none

instance : Add Binary64 := ⟨add⟩
instance : Sub Binary64 := ⟨sub⟩
instance : Mul Binary64 := ⟨mul⟩
instance : Div Binary64 := ⟨div⟩
instance : Neg Binary64 := ⟨neg⟩

end Binary64

end Telemetry
