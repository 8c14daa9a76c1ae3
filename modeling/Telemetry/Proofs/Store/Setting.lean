import Telemetry.Proofs.Float.Value
import Telemetry.Proofs.Store.Encodable
/-!
# Telemetry.Proofs.Store.Setting

**Which values a field takes, and what it sends for them.** `Reading.Fits` says of each kind, in
numbers, what belongs into a field of it, `Reading.misfit` what is answered to anything else, and
`Reading.SentAs` as which bytes a reading that fits goes out. A whole number goes out as this very
number in two's complement, and a quantized one as the number that it rounds to: neither is wrapped,
clamped or cut off.

The main statement is `set_outcome`. Setting a field has one of two outcomes, and `Fits` tells
which.
-/

namespace Telemetry

namespace Reading

/-- The reading belongs to what a field of this kind can hold. -/
def Fits (r : Reading) : FieldKind → Prop
  | .unsigned w => ∃ n, r.toInt? = some n ∧ 0 ≤ n ∧ n < 2 ^ (8 * w.bytes)
  | .signed w => ∃ n, r.toInt? = some n ∧ -2 ^ (8 * w.bytes - 1) ≤ n ∧ n < 2 ^ (8 * w.bytes - 1)
  | .single => r.toBinary64.isFinite = true → |r.toBinary64.value| ≤ (2 ^ 24 - 1) * 2 ^ 104
  | .double => True
  | .quantized raw scale bias =>
    ∃ n : Int, ((r.toBinary64 - bias) * scale).RoundsTo n ∧ 0 ≤ n ∧ n ≤ raw.maxRaw

/-- What a field answers to a reading that does not fit. -/
def misfit (r : Reading) (f : Field) : FrameError :=
  match f.kind with
  | .unsigned _ | .signed _ =>
    if r.toInt? = none then .kindMismatch f.name f.kind.label
    else .valueOutOfRange f.name r.text f.kind.label
  | .single | .double => .valueOutOfRange f.name r.text f.kind.label
  | .quantized raw scale bias =>
    .overflow f.name (.overflow r.toBinary64 bias (dequantize scale bias raw.maxRaw))

/-- A field of this kind sends these bytes for the reading. -/
inductive SentAs (r : Reading) : FieldKind → Bytes → Prop
  | unsigned {w : IntWidth} {n : Int} {bytes : Bytes} (hn : r.toInt? = some n)
      (hlength : bytes.length = w.bytes) (hbytes : (natOfBytes bytes : Int) = n) :
      SentAs r (.unsigned w) bytes
  /-- Two's complement. -/
  | signed {w : IntWidth} {n : Int} {bytes : Bytes} (hn : r.toInt? = some n)
      (hlength : bytes.length = w.bytes)
      (hbytes : (natOfBytes bytes : Int) = if 0 ≤ n then n else n + 2 ^ (8 * w.bytes)) :
      SentAs r (.signed w) bytes
  | single {bytes : Bytes} (hlength : bytes.length = 4)
      (hbytes : natOfBytes bytes = (Binary32.narrow r.toBinary64).bits.toNat) :
      SentAs r .single bytes
  | double {bytes : Bytes} (hlength : bytes.length = 8)
      (hbytes : natOfBytes bytes = r.toBinary64.bits.toNat) : SentAs r .double bytes
  | quantized {raw : RawWidth} {scale bias : Binary64} {n : Int} {bytes : Bytes}
      (hn : ((r.toBinary64 - bias) * scale).RoundsTo n) (hlength : bytes.length = raw.bytes)
      (hbytes : (natOfBytes bytes : Int) = n) : SentAs r (.quantized raw scale bias) bytes

variable {r : Reading} {f : Field}

/-- A field sends its size in bytes. -/
theorem SentAs.length_eq {kind : FieldKind} {bytes : Bytes} (h : r.SentAs kind bytes) :
    bytes.length = kind.size := by
  cases h <;> assumption

/-! ### Whole numbers -/

theorem unsigned_range {w : IntWidth} {n : Int} :
    0 ≤ n ∧ n < 2 ^ (8 * w.bytes) ↔ lowest false w ≤ n ∧ n ≤ highest false w := by
  cases w <;> simp [lowest, highest, IntWidth.bytes, IntWidth.count] <;> omega

theorem signed_range {w : IntWidth} {n : Int} :
    -2 ^ (8 * w.bytes - 1) ≤ n ∧ n < 2 ^ (8 * w.bytes - 1) ↔
      lowest true w ≤ n ∧ n ≤ highest true w := by
  cases w <;> simp [lowest, highest, IntWidth.bytes, IntWidth.negatives, IntWidth.count] <;> omega

theorem fits_unsigned_iff {w : IntWidth} :
    r.Fits (.unsigned w) ↔ ∃ n, r.toInt? = some n ∧ lowest false w ≤ n ∧ n ≤ highest false w := by
  simp only [Fits, unsigned_range]

theorem fits_signed_iff {w : IntWidth} :
    r.Fits (.signed w) ↔ ∃ n, r.toInt? = some n ∧ lowest true w ≤ n ∧ n ≤ highest true w := by
  simp only [Fits, signed_range]

/-- A number of a signed width is its own residue, or is one width below it. -/
theorem emod_count_of_signed {w : IntWidth} {n : Int} (hlow : lowest true w ≤ n)
    (hhigh : n ≤ highest true w) :
    n % (w.count : Int) = if 0 ≤ n then n else n + 2 ^ (8 * w.bytes) := by
  have htwo := w.count_eq_two_mul
  have hcount : ((w.count : Nat) : Int) = 2 ^ (8 * w.bytes) := by
    rw [w.count_eq_two_pow, Nat.pow_eq, Nat.cast_pow, Nat.cast_ofNat]
  simp only [lowest, highest, if_true] at hlow hhigh
  rw [← hcount]
  split
  · exact Int.emod_eq_of_lt (by omega) (by omega)
  · rw [← Int.add_emod_right]
    exact Int.emod_eq_of_lt (by omega) (by omega)

/-- A number in the range of a whole-number field goes out as its residue. -/
theorem exists_encodeWhole {signed : Bool} {w : IntWidth} {n : Int} (hn : r.toInt? = some n)
    (hlow : lowest signed w ≤ n) (hhigh : n ≤ highest signed w) :
    ∃ bytes, r.encodeWhole f signed w = .ok bytes ∧ bytes.length = w.bytes ∧
      (natOfBytes bytes : Int) = n % (w.count : Int) := by
  have hbytes := encodeWhole_of_toInt? (f := f) hn hlow hhigh
  obtain ⟨m, hm, -, -, hlength, hnumber⟩ := encodeWhole_eq_ok hbytes
  obtain rfl : n = m := Option.some.inj (hn.symm.trans hm)
  exact ⟨_, hbytes, hlength, hnumber⟩

/-- A number that a whole-number field cannot hold is out of its range, and a float is not a whole
number at all. -/
theorem encodeWhole_of_not_range {signed : Bool} {w : IntWidth}
    (h : ¬ ∃ n, r.toInt? = some n ∧ lowest signed w ≤ n ∧ n ≤ highest signed w) :
    r.encodeWhole f signed w = .error (if r.toInt? = none then .kindMismatch f.name f.kind.label
      else .valueOutOfRange f.name r.text f.kind.label) := by
  unfold encodeWhole wholeIn
  cases hn : r.toInt? with
  | none => simp
  | some n =>
    have hrange : ¬ (lowest signed w ≤ n ∧ n ≤ highest signed w) :=
      fun hrange => h ⟨n, hn, hrange⟩
    simp [hrange]

/-! ### Floats -/

theorem fits_single_iff : r.Fits .single ↔
    r.toBinary64.isFinite = false ∨
      r.toBinary64.magnitudeLE Binary32.largest.widen = true := by
  have hlargest : |Binary32.largest.widen.value| = (2 ^ 24 - 1) * 2 ^ 104 := by
    rw [Binary32.value_widen_largest]
    norm_num
  unfold Fits
  cases hfinite : r.toBinary64.isFinite with
  | false => simp
  | true =>
    rw [Binary64.magnitudeLE_iff hfinite Binary32.isFinite_widen_largest, hlargest]
    simp

theorem encode_single_of_not_fits (hk : f.kind = .single) (h : ¬ r.Fits .single) :
    r.encode f = .error (.valueOutOfRange f.name r.text f.kind.label) := by
  rw [fits_single_iff, not_or, Bool.not_eq_false, Bool.not_eq_true] at h
  simp [encode, hk, toSingle, h.1, h.2, Except.map]

/-! ### Quantized values -/

theorem fits_quantized_iff {raw : RawWidth} (q : Quantizer) :
    r.Fits (.quantized raw q.scale q.bias) ↔ ∃ n, q.encode r.toBinary64 raw = .ok n := by
  simp only [Quantizer.encode_eq_ok_iff, Quantizer.scaled?, Binary64.roundToInt?_eq_some_iff, Fits]
  constructor
  · rintro ⟨n, hrounds, hlow, hhigh⟩
    obtain ⟨m, rfl⟩ := Int.eq_ofNat_of_zero_le hlow
    exact ⟨m, hrounds, Int.ofNat_le.mp hhigh⟩
  · rintro ⟨n, hrounds, hhigh⟩
    exact ⟨n, hrounds, Int.natCast_nonneg n, Int.ofNat_le.mpr hhigh⟩

/-- What is not finite fits no quantized field. -/
theorem isFinite_of_fits_quantized {raw : RawWidth} {scale bias : Binary64}
    (h : r.Fits (.quantized raw scale bias)) : r.toBinary64.isFinite = true := by
  obtain ⟨n, hrounds, -⟩ := h
  exact Binary64.isFinite_of_sub (Binary64.isFinite_of_mul hrounds.finite)

/-! ### All kinds -/

/-- **What fits is sent**, as the bytes that stand for it. -/
theorem exists_sentAs (husable : f.kind.IsUsable) (h : r.Fits f.kind) :
    ∃ bytes, r.encode f = .ok bytes ∧ r.SentAs f.kind bytes := by
  cases hk : f.kind with
  | unsigned w =>
    rw [hk, fits_unsigned_iff] at h
    obtain ⟨n, hn, hlow, hhigh⟩ := h
    obtain ⟨hzero, hlt⟩ := unsigned_range.mpr ⟨hlow, hhigh⟩
    have hencode : r.encode f = r.encodeWhole f false w := by rw [encode, hk]
    obtain ⟨bytes, hbytes, hlength, hnumber⟩ := exists_encodeWhole (f := f) hn hlow hhigh
    have hself : n % (w.count : Int) = n := by
      apply Int.emod_eq_of_lt hzero
      rwa [w.count_eq_two_pow, Nat.pow_eq, Nat.cast_pow, Nat.cast_ofNat]
    exact ⟨bytes, hencode.trans hbytes, .unsigned hn hlength (hnumber.trans hself)⟩
  | signed w =>
    rw [hk, fits_signed_iff] at h
    obtain ⟨n, hn, hlow, hhigh⟩ := h
    have hencode : r.encode f = r.encodeWhole f true w := by rw [encode, hk]
    obtain ⟨bytes, hbytes, hlength, hnumber⟩ := exists_encodeWhole (f := f) hn hlow hhigh
    have hcomplement := emod_count_of_signed hlow hhigh
    exact ⟨bytes, hencode.trans hbytes, .signed hn hlength (hnumber.trans hcomplement)⟩
  | single =>
    rw [hk, fits_single_iff] at h
    exact ⟨_, encode_single hk h, .single (length_bytesOfNat _ _)
      (natOfBytes_bytesOfNat_of_lt (UInt32.toNat_lt _))⟩
  | double =>
    exact ⟨_, encode_double hk r, .double (length_bytesOfNat _ _)
      (natOfBytes_bytesOfNat_of_lt (UInt64.toNat_lt _))⟩
  | quantized raw scale bias =>
    rw [hk] at h husable
    obtain ⟨n, hn⟩ := (fits_quantized_iff ⟨scale, bias, husable⟩).mp h
    have hencode := encode_quantized ⟨scale, bias, husable⟩ hk r
    rw [hn] at hencode
    obtain ⟨hscaled, hmax⟩ := Quantizer.encode_eq_ok_iff.mp hn
    have hlt : n < Nat.pow 256 raw.bytes := by
      rw [← raw.maxRaw_succ]
      exact Nat.lt_succ_of_le hmax
    exact ⟨_, hencode, .quantized (Binary64.roundToInt?_eq_some_iff.mp hscaled)
      (length_bytesOfNat _ _) (by rw [natOfBytes_bytesOfNat_of_lt hlt])⟩

/-- **What does not fit is refused**, with the error that tells why. -/
theorem encode_of_not_fits (husable : f.kind.IsUsable) (h : ¬ r.Fits f.kind) :
    r.encode f = .error (r.misfit f) := by
  unfold misfit
  cases hk : f.kind with
  | unsigned w =>
    rw [hk, fits_unsigned_iff] at h
    have hrefused := encodeWhole_of_not_range (f := f) h
    rw [hk] at hrefused
    simpa only [encode, hk] using hrefused
  | signed w =>
    rw [hk, fits_signed_iff] at h
    have hrefused := encodeWhole_of_not_range (f := f) h
    rw [hk] at hrefused
    simpa only [encode, hk] using hrefused
  | single =>
    rw [hk] at h
    rw [encode_single_of_not_fits hk h, hk]
  | double =>
    rw [hk] at h
    exact absurd trivial h
  | quantized raw scale bias =>
    rw [hk] at h husable
    have hencode := encode_quantized ⟨scale, bias, husable⟩ hk r
    cases hn : Quantizer.encode ⟨scale, bias, husable⟩ r.toBinary64 raw with
    | ok n => exact absurd ((fits_quantized_iff ⟨scale, bias, husable⟩).mpr ⟨n, hn⟩) h
    | error e =>
      rw [hn] at hencode
      rw [hencode, Quantizer.eq_overflow_of_encode hn]
      rfl

/-- The two forms of a whole number are encoded alike, also where they are refused. -/
theorem encode_congr_toInt {n : UInt64} {m : Int64} (h : (n.toNat : Int) = m.toInt) (f : Field) :
    (unsigned n).encode f = (signed m).encode f := by
  have hint : (unsigned n).toInt? = (signed m).toInt? := congrArg some h
  have hfloat : (unsigned n).toBinary64 = (signed m).toBinary64 := congrArg Binary64.ofInt h
  have htext : (unsigned n).text = (signed m).text := by
    rw [text, text, ← h]
    rfl
  simp only [encode, encodeWhole, wholeIn, toSingle, toRaw, hint, hfloat, htext]

end Reading

namespace Store

variable {schema : Schema}

/-- What is put into a field is what the field sends. -/
theorem encodeField_put (s : Store schema) (sources : Sources) {i : Nat} {f : Field}
    (hf : schema.fields[i]? = some f) (r : Reading) :
    (s.put i r).encodeField sources i = r.encode f := by
  have hlt := (List.getElem?_eq_some_iff.mp hf).1
  have hslot : (s.put i r).slots[i]? = some (.owned r) := by
    rw [getElem?_slots_put, if_pos rfl, if_pos hlt]
  simp only [encodeField, hf, get, hslot, readSlot]

/-- **A value is stored if and only if it fits its field.** It is then sent in the size of the
field and as the bytes that stand for it. A value that does not fit is refused with the error that
tells why; a quantized field takes nothing that is not finite. Whether a whole number came as an
unsigned or as a signed one makes no difference, neither to the refusal nor to the bytes. -/
theorem set_outcome {limits : SchemaLimits} {name : String} {declared : List Field}
    (hbuild : Schema.build limits name declared = .ok schema) (s : Store schema) (i : Nat)
    (r : Reading) :
    (schema.fields[i]? = none → s.set i r = .error (.unknownField (toString i))) ∧
    (∀ f, schema.fields[i]? = some f →
      (r.Fits f.kind → s.set i r = .ok (s.put i r) ∧
        ∃ bytes, bytes.length = f.size ∧ r.SentAs f.kind bytes ∧
          ∀ sources, (s.put i r).encodeField sources i = .ok bytes) ∧
      (¬ r.Fits f.kind → s.set i r = .error (r.misfit f)) ∧
      (r.toBinary64.isFinite = false → ∀ raw scale bias, f.kind = .quantized raw scale bias →
        ¬ r.Fits f.kind)) ∧
    ∀ (n : UInt64) (m : Int64), (n.toNat : Int) = m.toInt → ∀ sources,
      (s.set i (.unsigned n)).map (fun after => after.encodeField sources i) =
        (s.set i (.signed m)).map fun after => after.encodeField sources i := by
  have hs := Schema.build_eq_ok hbuild
  refine ⟨?_, ?_, ?_⟩
  · intro hnone
    rw [set, hnone]
  · intro f hf
    have husable := (hs.valid f (List.mem_of_getElem? hf)).usable
    refine ⟨?_, ?_, ?_⟩
    · intro hfits
      obtain ⟨bytes, hencode, hsent⟩ := Reading.exists_sentAs husable hfits
      refine ⟨set_of_encodes hf ⟨bytes, hencode⟩, bytes, hsent.length_eq, hsent, ?_⟩
      intro sources
      rw [encodeField_put s sources hf, hencode]
    · intro hmisfit
      exact set_of_encode_error hf (Reading.encode_of_not_fits husable hmisfit)
    · intro hinfinite raw scale bias hk hfits
      rw [hk] at hfits
      rw [Reading.isFinite_of_fits_quantized hfits] at hinfinite
      cases hinfinite
  · intro n m hnumber sources
    cases hf : schema.fields[i]? with
    | none => simp only [set, hf, Except.map]
    | some f =>
      have hsame := Reading.encode_congr_toInt hnumber f
      have hput : ∀ r : Reading, (s.set i r).map (fun after => after.encodeField sources i) =
          (r.encode f).map fun bytes => Except.ok bytes := by
        intro r
        cases hr : r.encode f with
        | error e => rw [set_of_encode_error hf hr]; rfl
        | ok bytes =>
          rw [set_of_encodes hf ⟨bytes, hr⟩, Except.map, encodeField_put s sources hf, hr]
          rfl
      rw [hput, hput, hsame]

/-- A byte with a sign and a temperature in tenths from `-40` up. The byte takes `-128` and sends
`80`, and it takes no `128` and no float; the temperature takes what rounds to a byte and no NaN. -/
theorem set_outcome_temperature :
    let byte := Schema.periodicField .fast "byte" (.signed .w8)
    let warm := Schema.periodicField .fast "warm"
      (.quantized .w8 ⟨0x4024000000000000⟩ ⟨0xc044000000000000⟩)
    let schema : Schema := ⟨"two", [byte, warm]⟩
    let s := initial schema
    Schema.build {} "two" [byte, warm] = .ok schema ∧
      (s.set 0 (.signed (-128)) = .ok (s.put 0 (.signed (-128))) ∧
        ∀ sources, (s.put 0 (.signed (-128))).encodeField sources 0 = .ok [0x80]) ∧
      s.set 0 (.unsigned 128) = .error (.valueOutOfRange "byte" "128" "i8") ∧
      s.set 0 (.float .zero) = .error (.kindMismatch "byte" "i8") ∧
      s.set 1 (.float .nan) = .error (.overflow "warm"
        (.overflow .nan ⟨0xc044000000000000⟩ ⟨0xc02d000000000000⟩)) ∧
      s.set 2 (.unsigned 0) = .error (.unknownField "2") := by
  intro byte warm schema s
  have hbuild : Schema.build {} "two" [byte, warm] = .ok schema :=
    Schema.build_of_pairwise (by decide) (by decide) (by decide +kernel) (by decide) (by decide)
  have hbyte : schema.fields[0]? = some byte := rfl
  have hwarm : schema.fields[1]? = some warm := rfl
  have hfits : (Reading.signed (-128)).Fits byte.kind := ⟨-128, by decide, by decide, by decide⟩
  have hlarge : ¬ (Reading.unsigned 128).Fits byte.kind := by
    rintro ⟨n, hn, -, hlt⟩
    obtain rfl : 128 = n := Option.some.inj hn
    exact absurd hlt (by decide)
  have hfloat : ¬ (Reading.float .zero).Fits byte.kind := by
    rintro ⟨n, hn, -⟩
    cases hn
  obtain ⟨-, hset, -⟩ := set_outcome hbuild s 0 (.signed (-128))
  obtain ⟨hput, bytes, -, hsent, hbytes⟩ := (hset byte hbyte).1 hfits
  have hsame : bytes = [0x80] := by
    cases hsent with
    | signed hn hlength hnumber =>
      obtain rfl := Option.some.inj hn
      have hnat : natOfBytes bytes = 128 := Int.ofNat_inj.mp (hnumber.trans (by decide))
      rw [← bytesOfNat_natOfBytes bytes, hlength, hnat]
      rfl
  refine ⟨hbuild, ⟨hput, ?_⟩, ?_, ?_, ?_, ?_⟩
  · rw [← hsame]
    exact hbytes
  · exact ((set_outcome hbuild s 0 (.unsigned 128)).2.1 byte hbyte).2.1 hlarge
  · exact ((set_outcome hbuild s 0 (.float .zero)).2.1 byte hbyte).2.1 hfloat
  · obtain ⟨-, hmisfit, hinfinite⟩ := (set_outcome hbuild s 1 (.float .nan)).2.1 warm hwarm
    rw [hmisfit (hinfinite (by decide) _ _ _ rfl)]
    decide +kernel
  · exact (set_outcome hbuild s 2 (.unsigned 0)).1 rfl

end Store

end Telemetry
