import Telemetry.FieldKind
import Telemetry.Decimal.Layout
/-!
# Telemetry.Quantizer

**Fixed-point packing of floats**: `raw = round ((value - bias) * scale)` and
`value = raw / scale + bias`, in binary64 arithmetic, the last step of packing rounding
halves away from zero.

A `Quantizer` carries the proof that its scale and bias are usable. A value whose
scaled form does not lie in the raw width (negative, too large, not a number) is
refused, never wrapped or clamped.
-/

namespace Telemetry

/-- Whole numbers without a fraction, and never an exponent. -/
def Layout.plain : Layout where
  tie := .upper
  positionalFrom := none
  positionalTo := none
  wholeFraction := false
  exponentPlus := false

/-- The text of a number in messages and tables. -/
def Binary64.plainText (x : Binary64) : String := Layout.plain.text x

/-- Why a quantizer was refused, or a value by a quantizer. -/
inductive QuantizeError
  /-- The scaled value does not fit the raw width. -/
  | overflow (value min max : Binary64)
  /-- The scale is not finite and positive, or the bias is not finite. -/
  | invalidScale (scale bias : Binary64)
  deriving DecidableEq

def QuantizeError.message : QuantizeError → String
  | overflow value min max =>
    s!"value {value.plainText} outside quantizable range {min.plainText}..={max.plainText}"
  | invalidScale scale bias =>
    s!"invalid quantizer (scale {scale.plainText}, bias {bias.plainText})"

/-- The value that a raw number stands for. -/
def dequantize (scale bias : Binary64) (raw : Nat) : Binary64 :=
  Binary64.ofNat raw / scale + bias

/-- The scale is finite and positive and the bias is finite. -/
def IsUsableScale (scale bias : Binary64) : Prop :=
  scale.isFinite = true ∧ scale.isPositive = true ∧ bias.isFinite = true

instance (scale bias : Binary64) : Decidable (IsUsableScale scale bias) :=
  inferInstanceAs (Decidable (_ ∧ _ ∧ _))

/-- The scale and bias of a quantized field. -/
structure Quantizer where
  scale : Binary64
  bias : Binary64
  usable : IsUsableScale scale bias

namespace Quantizer

def ofScale (scale bias : Binary64) : Except QuantizeError Quantizer :=
  if h : IsUsableScale scale bias then .ok ⟨scale, bias, h⟩
  else .error (.invalidScale scale bias)

/-- The distance between neighbouring values. -/
def step (q : Quantizer) : Binary64 := Binary64.ofNat 1 / q.scale

def decode (q : Quantizer) (raw : Nat) : Binary64 := dequantize q.scale q.bias raw

/-- The smallest and the largest value of a raw width. -/
def range (q : Quantizer) (width : RawWidth) : Binary64 × Binary64 :=
  (q.bias, q.decode width.maxRaw)

/-- The raw number of a value, before it is checked against a width; none for an
infinite or undefined product. -/
def scaled? (q : Quantizer) (value : Binary64) : Option Int :=
  ((value - q.bias) * q.scale).roundToInt?

def encode (q : Quantizer) (value : Binary64) (width : RawWidth) : Except QuantizeError Nat :=
  let refused := .error (.overflow value (q.range width).1 (q.range width).2)
  match q.scaled? value with
  | none => refused
  | some n => if 0 ≤ n ∧ n ≤ width.maxRaw then .ok n.toNat else refused

/-- Packing never answers a raw number past its width. -/
theorem le_maxRaw_of_encode {q : Quantizer} {value : Binary64} {width : RawWidth} {n : Nat}
    (h : q.encode value width = .ok n) : n ≤ width.maxRaw := by
  unfold encode at h
  dsimp only at h
  split at h
  · cases h
  · split at h
    · cases h
      omega
    · cases h

end Quantizer

end Telemetry
