import Telemetry.Proofs.Float.Widening
import Telemetry.Proofs.Frame.WireImage
import Telemetry.Proofs.Schema.Layout
/-!
# Telemetry.Proofs.Frame.Reencoding

**Which decoded readings can be encoded again.** All of them for whole numbers and plain
floats. For a quantized field it is a question of the scale and the bias: decoding and
encoding both round, and both keep the order of the raw numbers, so they all come back
inside their width if the largest one does (`FieldKind.RangeEncodes`).
-/

namespace Telemetry

/-- The reading has an encoding in a field. -/
def Reading.Encodes (r : Reading) (f : Field) : Prop := ∃ bytes, r.encode f = .ok bytes

/-- The largest raw number of a quantized kind still fits its width when the value that it
stands for is packed. -/
def FieldKind.RangeEncodes : FieldKind → Prop
  | .quantized raw scale bias =>
    ∃ q : Quantizer, q.scale = scale ∧ q.bias = bias ∧
      ∃ n, q.encode (q.decode raw.maxRaw) raw = .ok n
  | _ => True

theorem natOfBytes_lt (bytes : Bytes) : natOfBytes bytes < Nat.pow 256 bytes.length := by
  rw [← bytesOfNat_natOfBytes bytes, natOfBytes_bytesOfNat, length_bytesOfNat]
  exact Nat.mod_lt _ (Nat.pow_pos (by decide))

/-- So do fewer bytes than a field takes. -/
theorem natOfBytes_lt_of_le {bytes : Bytes} {count : Nat} (h : bytes.length ≤ count) :
    natOfBytes bytes < Nat.pow 256 count :=
  Nat.lt_of_lt_of_le (natOfBytes_lt bytes) (Nat.pow_le_pow_right (by decide) h)

/-! ### Quantized values -/

namespace Quantizer

theorem isScale (q : Quantizer) : q.scale.IsScale := ⟨q.usable.1, q.usable.2.1⟩

theorem encode_eq_ok_iff {q : Quantizer} {value : Binary64} {width : RawWidth} {n : Nat} :
    q.encode value width = .ok n ↔ q.scaled? value = some (n : Int) ∧ n ≤ width.maxRaw := by
  unfold encode
  dsimp only
  cases q.scaled? value with
  | none => simp
  | some m =>
    by_cases hm : 0 ≤ m ∧ m ≤ width.maxRaw
    · simp only [if_pos hm, Except.ok.injEq, Option.some.injEq]
      omega
    · simp only [if_neg hm, reduceCtorEq, false_iff, Option.some.injEq]
      omega

/-- A refusal tells the value and the range that it was to lie in. -/
theorem eq_overflow_of_encode {q : Quantizer} {value : Binary64} {width : RawWidth}
    {e : QuantizeError} (h : q.encode value width = .error e) :
    e = .overflow value q.bias (q.decode width.maxRaw) := by
  unfold encode at h
  dsimp only at h
  split at h
  · exact (Except.error.inj h).symm
  · split at h
    · cases h
    · exact (Except.error.inj h).symm

/-- Raw numbers stand for values in the same order. -/
theorem decode_le (q : Quantizer) {m n : Nat} (h : m ≤ n) : (q.decode m).Le (q.decode n) :=
  ((Binary64.ofNat_le h).div_scale q.isScale).add_shift q.usable.2.2

/-- None of the values is below the bias, for which zero stands. -/
theorem bias_le_decode (q : Quantizer) (n : Nat) : q.bias.Le (q.decode n) :=
  ((Binary64.zero_le_ofNat n).zero_le_div_scale q.isScale).le_add q.usable.2.2

/-- A value between the bias and one that is packed is packed too, into no larger a raw
number. -/
theorem encode_of_le (q : Quantizer) {x y : Binary64} {width : RawWidth} {n : Nat}
    (hbias : q.bias.Le x) (hxy : x.Le y) (hy : q.encode y width = .ok n) :
    ∃ m, q.encode x width = .ok m ∧ m ≤ n := by
  obtain ⟨hscaled, hmax⟩ := encode_eq_ok_iff.mp hy
  have hfinite := q.usable.2.2
  have hle := (hxy.sub_shift hfinite).mul_scale q.isScale
  have hzero : Binary64.zero.Le ((x - q.bias) * q.scale) :=
    (hbias.zero_le_sub hfinite).zero_le_mul_scale q.isScale
  obtain ⟨m, hm, hnonneg, hmn⟩ := hle.roundToInt? hzero hscaled
  refine ⟨m.toNat, encode_eq_ok_iff.mpr ⟨?_, by omega⟩, by omega⟩
  rw [Int.toNat_of_nonneg hnonneg]
  exact hm

/-- All raw numbers come back if the largest one does. -/
theorem exists_encode_decode (q : Quantizer) {width : RawWidth} {top : Nat}
    (htop : q.encode (q.decode width.maxRaw) width = .ok top) {n : Nat}
    (hn : n ≤ width.maxRaw) : ∃ m, q.encode (q.decode n) width = .ok m := by
  obtain ⟨m, hm, -⟩ := q.encode_of_le (q.bias_le_decode n) (q.decode_le hn) htop
  exact ⟨m, hm⟩

/-- The bias itself is packed, into zero. -/
theorem encode_bias (q : Quantizer) (width : RawWidth) : q.encode q.bias width = .ok 0 := by
  have hfinite := q.usable.2.2
  have hle : ((q.bias - q.bias) * q.scale).Le Binary64.zero :=
    ((Binary64.sub_self_le hfinite).mul_scale q.isScale).trans
      (Binary64.zero_mul_scale_le q.isScale)
  have hzero : Binary64.zero.Le ((q.bias - q.bias) * q.scale) :=
    ((Binary64.le_refl (Binary64.isNaN_of_isFinite hfinite)).zero_le_sub
      hfinite).zero_le_mul_scale q.isScale
  obtain ⟨m, hm, hnonneg, hmax⟩ := hle.roundToInt? hzero Binary64.roundToInt?_zero
  obtain rfl : m = 0 := Int.le_antisymm hmax hnonneg
  exact encode_eq_ok_iff.mpr ⟨hm, Nat.zero_le _⟩

end Quantizer

/-! ### All kinds -/

namespace Reading

/-- A whole number in the range of its field is sent as its residue. -/
theorem encodeWhole_of_toInt? {r : Reading} {f : Field} {signed : Bool} {w : IntWidth} {n : Int}
    (hn : r.toInt? = some n) (hlow : lowest signed w ≤ n) (hhigh : n ≤ highest signed w) :
    r.encodeWhole f signed w = .ok (bytesOfNat w.bytes (n % (w.count : Int)).toNat) := by
  unfold encodeWhole wholeIn
  rw [hn]
  dsimp only
  rw [if_pos ⟨hlow, hhigh⟩]

/-- The residue of a number of the field's bytes is the number. -/
theorem toNat_emod_count {bytes : Bytes} {w : IntWidth} (hlength : bytes.length ≤ w.bytes) :
    ((natOfBytes bytes : Int) % (w.count : Int)).toNat = natOfBytes bytes := by
  have hlt := natOfBytes_lt_of_le hlength
  rw [← w.count_eq] at hlt
  rw [Int.emod_eq_of_lt (Int.natCast_nonneg _) (Int.ofNat_lt.mpr hlt), Int.toNat_natCast]

/-- Every whole number of a field's bytes is in its range, and is sent as the same number. -/
theorem encode_decode_unsigned {f : Field} {w : IntWidth} (hk : f.kind = .unsigned w)
    {bytes : Bytes} (hlength : bytes.length ≤ w.bytes) :
    (decode (.unsigned w) bytes).encode f = .ok (bytesOfNat w.bytes (natOfBytes bytes)) := by
  have hlt := natOfBytes_lt_of_le hlength
  rw [← w.count_eq] at hlt
  have hsize : natOfBytes bytes < UInt64.size := Nat.lt_of_lt_of_le hlt w.count_le
  have hn : (decode (.unsigned w) bytes).toInt? = some (natOfBytes bytes : Int) := by
    rw [decode, toInt?, UInt64.toNat_ofNat_of_lt' hsize]
  have hlow : lowest false w ≤ (natOfBytes bytes : Int) := Int.natCast_nonneg _
  have hhigh : (natOfBytes bytes : Int) ≤ highest false w := by
    rw [highest, if_neg Bool.false_ne_true]
    omega
  rw [encode, hk]
  dsimp only
  rw [encodeWhole_of_toInt? hn hlow hhigh, toNat_emod_count hlength]

theorem encode_decode_signed {f : Field} {w : IntWidth} (hk : f.kind = .signed w)
    {bytes : Bytes} (hlength : bytes.length ≤ w.bytes) :
    (decode (.signed w) bytes).encode f = .ok (bytesOfNat w.bytes (natOfBytes bytes)) := by
  have htwo := w.count_eq_two_mul
  have hcount : w.count ≤ 18446744073709551616 := w.count_le
  have hpos : 0 < w.count := by cases w <;> decide
  have hleast := Int.le_bmod (x := natOfBytes bytes) hpos
  have hmost := Int.bmod_lt (x := natOfBytes bytes) hpos
  have hn : (decode (.signed w) bytes).toInt? =
      some ((natOfBytes bytes : Int).bmod w.count) := by
    rw [decode, toInt?, Int64.toInt_ofInt_of_le (by omega) (by omega)]
  have hlow : lowest true w ≤ (natOfBytes bytes : Int).bmod w.count := by
    rw [lowest, if_pos rfl]
    omega
  have hhigh : (natOfBytes bytes : Int).bmod w.count ≤ highest true w := by
    rw [highest, if_pos rfl]
    omega
  rw [encode, hk]
  dsimp only
  -- the residue takes the sign off again
  rw [encodeWhole_of_toInt? hn hlow hhigh, Int.bmod_emod, toNat_emod_count hlength]

theorem encode_single {f : Field} (hk : f.kind = .single) {r : Reading}
    (hr : r.toBinary64.isFinite = false ∨
      r.toBinary64.magnitudeLE Binary32.largest.widen = true) :
    r.encode f = .ok (bytesOfNat 4 (Binary32.narrow r.toBinary64).bits.toNat) := by
  have hpass : (r.toBinary64.isFinite && !r.toBinary64.magnitudeLE Binary32.largest.widen) =
      false := by
    rcases hr with hinfinite | hle
    · rw [hinfinite, Bool.false_and]
    · rw [hle, Bool.not_true, Bool.and_false]
  rw [encode, hk]
  dsimp only [toSingle]
  rw [hpass, if_neg Bool.false_ne_true]
  rfl

theorem encode_double {f : Field} (hk : f.kind = .double) (r : Reading) :
    r.encode f = .ok (bytesOfNat 8 r.toBinary64.bits.toNat) := by
  rw [encode, hk]

/-- A quantized field sends the raw number, or names itself where the quantizer refuses. -/
theorem encode_quantized {f : Field} (q : Quantizer) {raw : RawWidth}
    (hk : f.kind = .quantized raw q.scale q.bias) (r : Reading) :
    r.encode f = match q.encode r.toBinary64 raw with
      | .ok n => .ok (bytesOfNat raw.bytes n)
      | .error e => .error (.overflow f.name e) := by
  rw [encode, hk]
  dsimp only [toRaw]
  rw [Quantizer.ofScale, dif_pos q.usable]
  dsimp only
  cases q.encode r.toBinary64 raw <;> rfl

theorem encodes_quantized_iff {f : Field} (q : Quantizer) {raw : RawWidth}
    (hk : f.kind = .quantized raw q.scale q.bias) (r : Reading) :
    Encodes r f ↔ ∃ n, q.encode r.toBinary64 raw = .ok n := by
  rw [Encodes, encode_quantized q hk]
  cases q.encode r.toBinary64 raw with
  | error e => simp
  | ok n => simp

/-- **What is decoded from a field's bytes can be encoded again**, if the largest raw number
can, in case the field is quantized. -/
theorem encodes_decode {f : Field} (hrange : f.kind.RangeEncodes) {bytes : Bytes}
    (hlength : bytes.length ≤ f.size) : Encodes (decode f.kind bytes) f := by
  unfold Field.size at hlength
  cases hk : f.kind with
  | unsigned w =>
    rw [hk] at hlength
    exact ⟨_, encode_decode_unsigned hk hlength⟩
  | signed w =>
    rw [hk] at hlength
    exact ⟨_, encode_decode_signed hk hlength⟩
  | single => exact ⟨_, encode_single hk (Binary32.widen_spec _)⟩
  | double => exact ⟨_, encode_double hk _⟩
  | quantized raw scale bias =>
    rw [hk] at hlength hrange
    obtain ⟨q, rfl, rfl, top, htop⟩ := hrange
    have hmax : natOfBytes bytes ≤ raw.maxRaw := by
      have hlt := natOfBytes_lt_of_le hlength
      rw [FieldKind.size, ← raw.maxRaw_succ] at hlt
      exact Nat.le_of_lt_succ hlt
    rw [encodes_quantized_iff q hk]
    exact q.exists_encode_decode htop hmax

/-- Every field can send its initial value. -/
theorem encodes_initial {f : Field} (husable : f.kind.IsUsable) :
    Encodes (initial f.kind) f := by
  cases hk : f.kind with
  | unsigned w =>
    rw [Encodes, encode, hk]
    exact ⟨_, encodeWhole_of_toInt? rfl (by cases w <;> decide) (by cases w <;> decide)⟩
  | signed w =>
    rw [Encodes, encode, hk]
    exact ⟨_, encodeWhole_of_toInt? rfl (by cases w <;> decide) (by cases w <;> decide)⟩
  | single => exact ⟨_, encode_single hk (Or.inr (by decide +kernel))⟩
  | double => exact ⟨_, encode_double hk _⟩
  | quantized raw scale bias =>
    rw [hk] at husable
    rw [encodes_quantized_iff ⟨scale, bias, husable⟩ hk]
    exact ⟨0, Quantizer.encode_bias _ raw⟩

end Reading

end Telemetry
