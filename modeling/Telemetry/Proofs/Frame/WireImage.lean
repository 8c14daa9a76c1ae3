import Telemetry.Frame.Encoding
/-!
# Telemetry.Proofs.Frame.WireImage

**What becomes of one value on its way.** `Reading.WireImage` says for each kind, without
mentioning bytes, which reading the other end holds: a whole number is kept as it is, a
binary32 field rounds, a quantized field goes through its raw number. The main statement
`decode_encode` is that encoding and decoding a value give its wire image, in exactly the
size of its field.
-/

namespace Telemetry

/-- What a reading becomes when it travels in a field of this kind. -/
inductive Reading.WireImage : FieldKind → Reading → Reading → Prop
  /-- The same number as an unsigned reading. -/
  | unsigned {w : IntWidth} {r : Reading} {n : UInt64} (h : r.toInt? = some (n.toNat : Int)) :
      WireImage (.unsigned w) r (.unsigned n)
  /-- The same number as a signed reading. -/
  | signed {w : IntWidth} {r : Reading} {n : Int64} (h : r.toInt? = some n.toInt) :
      WireImage (.signed w) r (.signed n)
  /-- The nearest binary32 number. -/
  | single (r : Reading) : WireImage .single r (.float (Binary32.narrow r.toBinary64).widen)
  | double (r : Reading) : WireImage .double r (.float r.toBinary64)
  /-- The value of the raw number that the quantizer packs the reading into. -/
  | quantized {raw : RawWidth} {r : Reading} (q : Quantizer) {n : Nat}
      (h : q.encode r.toBinary64 raw = .ok n) :
      WireImage (.quantized raw q.scale q.bias) r (.float (Binary64.ofNat n / q.scale + q.bias))

/-! ### Widths -/

theorem IntWidth.count_eq (w : IntWidth) : w.count = Nat.pow 256 w.bytes := by
  cases w <;> rfl

/-- The width in bits. -/
theorem IntWidth.count_eq_two_pow (w : IntWidth) : w.count = Nat.pow 2 (8 * w.bytes) := by
  cases w <;> rfl

theorem IntWidth.count_le (w : IntWidth) : w.count ≤ UInt64.size := by
  cases w <;> decide

/-- Half of the numbers of a width are negative when it is signed. -/
theorem IntWidth.count_eq_two_mul (w : IntWidth) : w.count = 2 * w.negatives := by
  cases w <;> rfl

theorem RawWidth.maxRaw_succ (raw : RawWidth) : raw.maxRaw + 1 = Nat.pow 256 raw.bytes := by
  cases raw <;> rfl

/-- A number that fits its bytes is read back. -/
theorem natOfBytes_bytesOfNat_of_lt {count n : Nat} (h : n < Nat.pow 256 count) :
    natOfBytes (bytesOfNat count n) = n := by
  rw [natOfBytes_bytesOfNat, Nat.mod_eq_of_lt h]

namespace Reading

/-! ### Whole numbers -/

theorem wholeIn_eq_ok {r : Reading} {f : Field} {low high n : Int}
    (h : r.wholeIn f low high = .ok n) : r.toInt? = some n ∧ low ≤ n ∧ n ≤ high := by
  unfold wholeIn at h
  cases hn : r.toInt? with
  | none => simp [hn] at h
  | some m =>
    simp only [hn] at h
    by_cases hm : low ≤ m ∧ m ≤ high
    · rw [if_pos hm] at h
      obtain rfl := Except.ok.inj h
      exact ⟨rfl, hm⟩
    · rw [if_neg hm] at h
      exact absurd h (by simp)

/-- The bytes of a whole number are its residue, which the width of the field holds. -/
theorem encodeWhole_eq_ok {r : Reading} {f : Field} {signed : Bool} {w : IntWidth}
    {bytes : Bytes} (h : r.encodeWhole f signed w = .ok bytes) :
    ∃ n, r.toInt? = some n ∧ lowest signed w ≤ n ∧ n ≤ highest signed w ∧
      bytes.length = w.bytes ∧ (natOfBytes bytes : Int) = n % w.count := by
  unfold encodeWhole at h
  cases hn : r.wholeIn f (lowest signed w) (highest signed w) with
  | error e => simp [hn] at h
  | ok n =>
    simp only [hn] at h
    obtain rfl := Except.ok.inj h
    obtain ⟨hint, hlow, hhigh⟩ := wholeIn_eq_ok hn
    have hcount : 0 < (w.count : Int) := by cases w <;> decide
    have hnonneg : 0 ≤ n % (w.count : Int) := Int.emod_nonneg n (Int.ne_of_gt hcount)
    have hlt : (n % (w.count : Int)).toNat < Nat.pow 256 w.bytes := by
      rw [← w.count_eq]
      have := Int.emod_lt_of_pos n hcount
      omega
    refine ⟨n, hint, hlow, hhigh, length_bytesOfNat _ _, ?_⟩
    rw [natOfBytes_bytesOfNat_of_lt hlt]
    exact Int.toNat_of_nonneg hnonneg

theorem wireImage_unsigned {r : Reading} {f : Field} {w : IntWidth} {bytes : Bytes}
    (h : r.encodeWhole f false w = .ok bytes) :
    bytes.length = w.bytes ∧ WireImage (.unsigned w) r (decode (.unsigned w) bytes) := by
  obtain ⟨n, hint, hlow, hhigh, hlength, hbytes⟩ := encodeWhole_eq_ok h
  have hcount := w.count_le
  simp only [lowest, highest, if_neg Bool.false_ne_true] at hlow hhigh
  have hself : n % (w.count : Int) = n := Int.emod_eq_of_lt hlow (by omega)
  have hlt : natOfBytes bytes < UInt64.size := by omega
  refine ⟨hlength, .unsigned ?_⟩
  rw [hint, UInt64.toNat_ofNat_of_lt' hlt, hbytes, hself]

theorem wireImage_signed {r : Reading} {f : Field} {w : IntWidth} {bytes : Bytes}
    (h : r.encodeWhole f true w = .ok bytes) :
    bytes.length = w.bytes ∧ WireImage (.signed w) r (decode (.signed w) bytes) := by
  obtain ⟨n, hint, hlow, hhigh, hlength, hbytes⟩ := encodeWhole_eq_ok h
  have htwo := w.count_eq_two_mul
  have hcount : w.count ≤ 18446744073709551616 := w.count_le
  simp only [lowest, highest, if_true] at hlow hhigh
  have hself : Int.bmod (n % (w.count : Int)) w.count = n := by
    rw [Int.emod_bmod]
    exact Int.bmod_eq_of_le (by omega) (by omega)
  refine ⟨hlength, .signed ?_⟩
  rw [hint, hbytes, hself, Int64.toInt_ofInt_of_le (by omega) (by omega)]

/-! ### All kinds -/

/-- **Decoding undoes encoding.** The bytes of a value have the size of its field and stand
for its wire image. -/
theorem decode_encode {r : Reading} {f : Field} {bytes : Bytes} (h : r.encode f = .ok bytes) :
    bytes.length = f.size ∧ WireImage f.kind r (decode f.kind bytes) := by
  unfold encode at h
  unfold Field.size
  cases hk : f.kind with
  | unsigned w =>
    simp only [hk] at h
    exact wireImage_unsigned h
  | signed w =>
    simp only [hk] at h
    exact wireImage_signed h
  | single =>
    simp only [hk, toSingle] at h
    split at h
    · exact absurd h (by simp [Except.map])
    · obtain rfl := Except.ok.inj h
      refine ⟨length_bytesOfNat _ _, ?_⟩
      have hbits : UInt32.ofNat (natOfBytes
          (bytesOfNat 4 (Binary32.narrow r.toBinary64).bits.toNat)) =
          (Binary32.narrow r.toBinary64).bits := by
        rw [natOfBytes_bytesOfNat_of_lt (UInt32.toNat_lt _), UInt32.ofNat_toNat]
      rw [decode, hbits]
      exact .single r
  | double =>
    simp only [hk] at h
    obtain rfl := Except.ok.inj h
    refine ⟨length_bytesOfNat _ _, ?_⟩
    have hbits : UInt64.ofNat (natOfBytes (bytesOfNat 8 r.toBinary64.bits.toNat)) =
        r.toBinary64.bits := by
      rw [natOfBytes_bytesOfNat_of_lt (UInt64.toNat_lt _), UInt64.ofNat_toNat]
    rw [decode, hbits]
    exact .double r
  | quantized raw scale bias =>
    simp only [hk, toRaw, Quantizer.ofScale] at h
    by_cases hs : IsUsableScale scale bias
    · simp only [dif_pos hs] at h
      cases hn : Quantizer.encode ⟨scale, bias, hs⟩ r.toBinary64 raw with
      | error e => simp [hn, Except.map] at h
      | ok n =>
        simp only [hn] at h
        obtain rfl := Except.ok.inj h
        refine ⟨length_bytesOfNat _ _, ?_⟩
        have hle := Quantizer.le_maxRaw_of_encode hn
        have hlt : n < Nat.pow 256 raw.bytes := by
          rw [← raw.maxRaw_succ]
          exact Nat.lt_succ_of_le hle
        rw [decode, natOfBytes_bytesOfNat_of_lt hlt]
        exact .quantized ⟨scale, bias, hs⟩ hn
    · simp only [dif_neg hs] at h
      exact absurd h (by simp [Except.map])

end Reading

end Telemetry
