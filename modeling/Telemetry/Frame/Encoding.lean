import Telemetry.Reading
import Telemetry.Float.Binary32
import Telemetry.Schema.Basic
import Telemetry.Frame.Error
/-!
# Telemetry.Frame.Encoding

**One value on the wire.** Whole numbers travel in two's complement, floats as their
bit patterns, quantized floats as their raw numbers, all little-endian and in exactly
the size of their field.

Encoding refuses what the field cannot hold, so nothing is wrapped, clamped or cut off.
Decoding accepts every byte string of the field's size.
-/

namespace Telemetry

/-- The bytes of a frame or a part of one. -/
abbrev Bytes := List UInt8

/-- The low `count` bytes of a number, lowest first. -/
def bytesOfNat : Nat → Nat → Bytes
  | 0, _ => []
  | count + 1, n => UInt8.ofNat n :: bytesOfNat count (n / 256)

/-- The number of some bytes, lowest first. -/
def natOfBytes : Bytes → Nat
  | [] => 0
  | b :: rest => b.toNat + 256 * natOfBytes rest

theorem length_bytesOfNat (count n : Nat) : (bytesOfNat count n).length = count := by
  induction count generalizing n with
  | zero => rfl
  | succ count ih => simp [bytesOfNat, ih]

/-- The number of its low bytes is the number up to the width they have. -/
theorem natOfBytes_bytesOfNat (count n : Nat) :
    natOfBytes (bytesOfNat count n) = n % Nat.pow 256 count := by
  induction count generalizing n with
  | zero => exact (Nat.mod_one n).symm
  | succ count ih =>
    have hpow : Nat.pow 256 (count + 1) = 256 * Nat.pow 256 count := Nat.mul_comm _ _
    rw [bytesOfNat, natOfBytes, ih, hpow, Nat.mod_mul, UInt8.toNat_ofNat']

theorem bytesOfNat_natOfBytes (bs : Bytes) : bytesOfNat bs.length (natOfBytes bs) = bs := by
  induction bs with
  | nil => rfl
  | cons b rest ih =>
    have hb : b.toNat < 256 := b.toNat_lt
    have hdiv : (b.toNat + 256 * natOfBytes rest) / 256 = natOfBytes rest := by omega
    have hlow : UInt8.ofNat (b.toNat + 256 * natOfBytes rest) = b := by
      apply UInt8.toNat_inj.1
      rw [UInt8.toNat_ofNat']
      omega
    simp only [List.length_cons, bytesOfNat, natOfBytes, hdiv, hlow, ih]

namespace Reading

/-- The whole number of a reading, if it lies in `low ..= high`. -/
def wholeIn (r : Reading) (f : Field) (low high : Int) : Except FrameError Int :=
  match r.toInt? with
  | none => .error (.kindMismatch f.name f.kind.label)
  | some n =>
    if low ≤ n ∧ n ≤ high then .ok n
    else .error (.valueOutOfRange f.name r.text f.kind.label)

/-- The reading as a binary32 number. A finite value past the largest finite one is
refused, so that it does not become infinite; infinities and NaNs pass. -/
def toSingle (r : Reading) (f : Field) : Except FrameError Binary32 :=
  let x := r.toBinary64
  if x.isFinite && !x.magnitudeLE Binary32.largest.widen then
    .error (.valueOutOfRange f.name r.text f.kind.label)
  else .ok (Binary32.narrow x)

/-- The raw number of the reading in a quantized field. -/
def toRaw (r : Reading) (f : Field) (raw : RawWidth) (scale bias : Binary64) :
    Except FrameError Nat :=
  match Quantizer.ofScale scale bias with
  | .error e => .error (.overflow f.name e)
  | .ok q =>
    match q.encode r.toBinary64 raw with
    | .error e => .error (.overflow f.name e)
    | .ok n => .ok n

/-- The least and the largest number of a whole-number width. -/
def lowest (signed : Bool) (w : IntWidth) : Int := if signed then -(w.negatives : Int) else 0

def highest (signed : Bool) (w : IntWidth) : Int :=
  if signed then (w.negatives : Int) - 1 else (w.count : Int) - 1

/-- The bytes of the reading in a whole-number field. -/
def encodeWhole (r : Reading) (f : Field) (signed : Bool) (w : IntWidth) :
    Except FrameError Bytes :=
  match r.wholeIn f (lowest signed w) (highest signed w) with
  | .ok n => .ok (bytesOfNat w.bytes (n % (w.count : Int)).toNat)
  | .error e => .error e

/-- The bytes of the reading in a field. -/
def encode (r : Reading) (f : Field) : Except FrameError Bytes :=
  match f.kind with
  | .unsigned w => r.encodeWhole f false w
  | .signed w => r.encodeWhole f true w
  | .single => (r.toSingle f).map fun x => bytesOfNat 4 x.bits.toNat
  | .double => .ok (bytesOfNat 8 r.toBinary64.bits.toNat)
  | .quantized raw scale bias =>
    (r.toRaw f raw scale bias).map fun n => bytesOfNat raw.bytes n

/-- The reading that the bytes of a field of this kind stand for. -/
def decode (kind : FieldKind) (bytes : Bytes) : Reading :=
  let n := natOfBytes bytes
  match kind with
  | .unsigned _ => .unsigned (UInt64.ofNat n)
  | .signed w => .signed (Int64.ofInt ((n : Int).bmod w.count))
  | .single => .float (Binary32.widen ⟨UInt32.ofNat n⟩)
  | .double => .float ⟨UInt64.ofNat n⟩
  | .quantized _ scale bias => .float (dequantize scale bias n)

end Reading

end Telemetry
