import Telemetry.Proofs.Float.Rounding
import Telemetry.Proofs.Frame.Reencoding
/-!
# Telemetry.Proofs.Frame.Quantization

**Do the values of a quantizer's range come back?** A quantizer reports a range, and who chooses a
scale and a bias relies on it. Packing and unpacking round five times: in the difference, the
product, the whole number, the quotient and the sum. In units of one step only two of these matter,
the whole number (half a step) and the sum (as much as numbers of the size of the bias lie apart);
the others add less than `2 ^ -18` together (`abs_quotient_add_bias_sub_le`).

* A value that is packed comes back within hardly more than one step, since the sum goes to the
  number nearest to it and the value is a number as well (`abs_decode_sub_mul_scale_le`).
* It comes back within one step where numbers lie clearly closer together than steps, and exactly
  where they lie clearly further apart (`Quantizer.SpacingApart`).
* Every value of the range is packed if the largest one is, by the order of the values. But the
  largest one is itself rounded, and may be rounded up to one that is not packed any more.

The main statement is `range_comesBack_iff`.
-/

namespace Telemetry

namespace Quantizer

/-- A finite value in the range that the quantizer reports. -/
structure InRange (q : Quantizer) (width : RawWidth) (v : Binary64) : Prop where
  finite : v.isFinite = true
  low : (q.range width).1.Le v
  high : v.Le (q.range width).2

/-- The value is packed, and it comes back at most one step away. A step that is infinite is not
exceeded by any distance. -/
def ComesBack (q : Quantizer) (width : RawWidth) (v : Binary64) : Prop :=
  ∃ raw, q.encode v width = .ok raw ∧ raw ≤ width.maxRaw ∧
    (q.step.isFinite = true → (q.decode raw).isFinite = true ∧
      |(q.decode raw).value - v.value| ≤ q.step.value)

/-- Numbers of the size of the bias lie clearly closer together than steps, or clearly further
apart: in binary64 the one holds below `2 ^ 52` steps, the other from `2 ^ 53` steps on. -/
def SpacingApart (q : Quantizer) : Prop :=
  |q.bias.value| * q.scale.value ≤ 2 ^ 52 - 2 ^ 36 ∨
    2 ^ 53 + 2 ^ 36 ≤ |q.bias.value| * q.scale.value

/-- The largest finite value of the range. -/
def top (q : Quantizer) (width : RawWidth) : Binary64 :=
  if (q.range width).2.isFinite then (q.range width).2 else Binary64.largest

/-! ### The errors together -/

/-- Up to the last one every operation of a round trip is nearly exact, and only rounding to a whole
number moves by a half. All of it is in units of one step: `a` is the distance of a value from the
bias, `x` and `y` what subtracting and scaling make of it, `r` the raw number and `z` what dividing
makes of that. -/
theorem abs_sub_le_of_errors {a x y r z : ℚ} (ha : 0 ≤ a) (hx : |x - a| ≤ a / 2 ^ 53)
    (hy : |y - x| ≤ |x| / 2 ^ 53 + 1 / 2 ^ 51) (hr : |y - r| ≤ 1 / 2)
    (hmax : r ≤ 2 ^ 32 - 1) (hz : |z - r| ≤ r / 2 ^ 53 + 1 / 2 ^ 51) :
    |z - a| ≤ 1 / 2 + 1 / 2 ^ 19 := by
  obtain ⟨hx1, hx2⟩ := abs_le.mp hx
  have hxpos : 0 ≤ x := by linarith
  rw [abs_of_nonneg hxpos] at hy
  obtain ⟨hy1, hy2⟩ := abs_le.mp hy
  obtain ⟨hr1, hr2⟩ := abs_le.mp hr
  obtain ⟨hz1, hz2⟩ := abs_le.mp hz
  rw [abs_le]
  constructor <;> linarith

/-- An error in other units. -/
theorem abs_mul_sub_mul_le {p t e s ε : ℚ} (hs : 0 < s) (h : |p - t| ≤ |t| / 2 ^ 53 + e)
    (he : e * s ≤ ε) : |p * s - t * s| ≤ |t * s| / 2 ^ 53 + ε := by
  rw [← sub_mul, abs_mul, abs_mul, abs_of_pos hs]
  calc |p - t| * s ≤ (|t| / 2 ^ 53 + e) * s := mul_le_mul_of_nonneg_right h (le_of_lt hs)
    _ = |t| * s / 2 ^ 53 + e * s := by ring
    _ ≤ |t| * s / 2 ^ 53 + ε := by linarith

theorem abs_mul_sub_mul_le_of_share {p t s : ℚ} (hs : 0 < s) (h : |p - t| ≤ |t| / 2 ^ 53) :
    |p * s - t * s| ≤ |t * s| / 2 ^ 53 := by
  have hscaled := abs_mul_sub_mul_le hs (le_trans h (le_of_eq (add_zero _).symm))
    (le_of_eq (zero_mul s))
  rwa [add_zero] at hscaled

/-! ### One round trip -/

section

variable (q : Quantizer)

theorem value_scale_pos : 0 < q.scale.value := by
  have hscale := q.isScale
  rw [Binary64.value_eq, hscale.negative_eq, signed, if_neg Bool.false_ne_true]
  exact div_pos (Int.cast_pos.mpr (Int.ofNat_lt.mpr (Binary64.steps_pos hscale.index_ne_zero)))
    Binary64.cast_one_pos

theorem half_step_mul_scale_le : 1 / 2 / Binary64.one * q.scale.value ≤ 1 / 2 ^ 51 := by
  have hle := Binary64.half_step_mul_le q.usable.1
  rwa [abs_of_pos q.value_scale_pos] at hle

/-- A raw number is near the one that its quotient scales to. -/
theorem abs_quotient_mul_scale_sub_le {raw : Nat} (hraw : raw ≤ 2 ^ 32 - 1)
    (h : (Binary64.ofNat raw / q.scale).isFinite = true) :
    |(Binary64.ofNat raw / q.scale).value * q.scale.value - raw| ≤ raw / 2 ^ 53 + 1 / 2 ^ 51 := by
  have hscale := q.value_scale_pos
  have hvalue : (Binary64.ofNat raw).value = raw :=
    Binary64.value_ofNat (Nat.lt_of_le_of_lt hraw (by decide))
  have hfinite : (Binary64.ofNat raw).isFinite = true :=
    Binary64.isFinite_ofInt (Nat.le_trans hraw (by decide))
  have herror := Binary64.abs_value_div_sub_le hfinite q.usable.1 q.isScale.index_ne_zero h
  have hscaled := abs_mul_sub_mul_le hscale herror q.half_step_mul_scale_le
  rwa [hvalue, div_mul_cancel₀ _ (ne_of_gt hscale), Nat.abs_cast] at hscaled

/-- The step scales to almost one. -/
theorem le_step_mul_scale (h : q.step.isFinite = true) :
    1 - 1 / 2 ^ 18 ≤ q.step.value * q.scale.value := by
  have hsmall : 1 ≤ 2 ^ 32 - 1 := by decide
  have hone := (abs_le.mp (q.abs_quotient_mul_scale_sub_le hsmall h)).1
  rw [Nat.cast_one] at hone
  change 1 - 1 / 2 ^ 18 ≤ (Binary64.ofNat 1 / q.scale).value * q.scale.value
  linarith

end

section

variable {q : Quantizer} {width : RawWidth} {v : Binary64} {raw : Nat}

theorem le_two_pow_of_encode (hencode : q.encode v width = .ok raw) : raw ≤ 2 ^ 32 - 1 :=
  Nat.le_trans (le_maxRaw_of_encode hencode) (by cases width <;> decide)

theorem cast_le_two_pow_of_encode (hencode : q.encode v width = .ok raw) :
    (raw : ℚ) ≤ 2 ^ 32 - 1 := by
  have hraw := le_two_pow_of_encode hencode
  have hlt : ((raw + 1 : ℕ) : ℚ) ≤ (2 ^ 32 : ℕ) := Nat.cast_le.mpr (by omega)
  push_cast at hlt
  linarith

/-- A raw number divided by the scale stays below as many steps as there are raw numbers. -/
theorem abs_quotient_mul_scale_le (hencode : q.encode v width = .ok raw)
    (h : (Binary64.ofNat raw / q.scale).isFinite = true) :
    |(Binary64.ofNat raw / q.scale).value| * q.scale.value ≤ 2 ^ 32 := by
  have herror := abs_le.mp (q.abs_quotient_mul_scale_sub_le (le_two_pow_of_encode hencode) h)
  have hmost := cast_le_two_pow_of_encode hencode
  have hnonneg : (0 : ℚ) ≤ raw := Nat.cast_nonneg raw
  have habs : |(Binary64.ofNat raw / q.scale).value| * q.scale.value =
      |(Binary64.ofNat raw / q.scale).value * q.scale.value| := by
    rw [abs_mul, abs_of_pos q.value_scale_pos]
  rw [habs, abs_le]
  constructor <;> linarith

variable (hlow : q.bias.Le v) (hencode : q.encode v width = .ok raw)
  (hdecode : (q.decode raw).isFinite = true)
include hlow hencode hdecode

/-- Before the last rounding a value comes back within hardly more than half a step. -/
theorem abs_quotient_add_bias_sub_le :
    |(Binary64.ofNat raw / q.scale).value + q.bias.value - v.value| * q.scale.value ≤
      1 / 2 + 1 / 2 ^ 19 := by
  have hscale := q.value_scale_pos
  have hrounds := Binary64.roundToInt?_eq_some_iff.mp (encode_eq_ok_iff.mp hencode).1
  have hraw := le_two_pow_of_encode hencode
  have hdiff : (v - q.bias).isFinite = true := Binary64.isFinite_of_mul hrounds.finite
  have hquot : (Binary64.ofNat raw / q.scale).isFinite = true :=
    (Binary64.isFinite_of_add hdecode).1
  have hbelow : 0 ≤ (v.value - q.bias.value) * q.scale.value :=
    mul_nonneg (sub_nonneg.mpr hlow.value_le) (le_of_lt hscale)
  -- the operations one after the other, each in units of one step
  have hx : |(v - q.bias).value * q.scale.value - (v.value - q.bias.value) * q.scale.value| ≤
      (v.value - q.bias.value) * q.scale.value / 2 ^ 53 := by
    have herror := Binary64.abs_value_add_sub_le (x := v) (y := q.bias.neg) hdiff
    rw [Binary64.value_neg, ← sub_eq_add_neg] at herror
    have hscaled := abs_mul_sub_mul_le_of_share hscale herror
    rwa [abs_of_nonneg hbelow] at hscaled
  have hy : |((v - q.bias) * q.scale).value - (v - q.bias).value * q.scale.value| ≤
      |(v - q.bias).value * q.scale.value| / 2 ^ 53 + 1 / 2 ^ 51 :=
    le_trans (Binary64.abs_value_mul_sub_le q.usable.1 hrounds.finite)
      (add_le_add_right Binary64.half_step_le _)
  have hz := q.abs_quotient_mul_scale_sub_le hraw hquot
  have hmost := cast_le_two_pow_of_encode hencode
  have hnear := abs_sub_le_of_errors hbelow hx hy hrounds.abs_sub_le hmost hz
  rwa [← sub_mul, abs_mul, abs_of_pos hscale, ← sub_add, sub_add_eq_add_sub] at hnear

/-- **A value comes back within hardly more than one step**, whatever the bias: the last rounding
goes to the nearest number, and the value itself is one. -/
theorem abs_decode_sub_mul_scale_le :
    |(q.decode raw).value - v.value| * q.scale.value ≤ 1 + 1 / 2 ^ 18 := by
  have hscale := q.value_scale_pos
  have hhalf := abs_quotient_add_bias_sub_le hlow hencode hdecode
  have hlast : |(q.decode raw).value -
      ((Binary64.ofNat raw / q.scale).value + q.bias.value)| ≤
      |(Binary64.ofNat raw / q.scale).value + q.bias.value - v.value| := by
    rw [abs_sub_comm _ v.value]
    exact Binary64.abs_value_add_sub_le_abs hdecode v
  have hsum := abs_sub_le (q.decode raw).value
    ((Binary64.ofNat raw / q.scale).value + q.bias.value) v.value
  calc |(q.decode raw).value - v.value| * q.scale.value
      ≤ 2 * |(Binary64.ofNat raw / q.scale).value + q.bias.value - v.value| * q.scale.value :=
        mul_le_mul_of_nonneg_right (by linarith) (le_of_lt hscale)
    _ ≤ 1 + 1 / 2 ^ 18 := by linarith

/-- Where numbers lie closer together than steps, the last rounding moves by less than a half. -/
theorem abs_decode_sub_mul_scale_le_of_le
    (hbias : |q.bias.value| * q.scale.value ≤ 2 ^ 52 - 2 ^ 36) :
    |(q.decode raw).value - v.value| * q.scale.value ≤ 1 - 1 / 2 ^ 18 := by
  have hscale := q.value_scale_pos
  have hhalf := abs_quotient_add_bias_sub_le hlow hencode hdecode
  have hquot := abs_quotient_mul_scale_le hencode (Binary64.isFinite_of_add hdecode).1
  have hlast : |(q.decode raw).value -
      ((Binary64.ofNat raw / q.scale).value + q.bias.value)| ≤
      (|(Binary64.ofNat raw / q.scale).value| + |q.bias.value|) / 2 ^ 53 :=
    le_trans (Binary64.abs_value_add_sub_le hdecode)
      (div_le_div_of_nonneg_right (abs_add_le _ _) (by positivity))
  have hsum := abs_sub_le (q.decode raw).value
    ((Binary64.ofNat raw / q.scale).value + q.bias.value) v.value
  calc |(q.decode raw).value - v.value| * q.scale.value
      ≤ ((|(Binary64.ofNat raw / q.scale).value| + |q.bias.value|) / 2 ^ 53 +
          |(Binary64.ofNat raw / q.scale).value + q.bias.value - v.value|) * q.scale.value :=
        mul_le_mul_of_nonneg_right (by linarith) (le_of_lt hscale)
    _ = (|(Binary64.ofNat raw / q.scale).value| * q.scale.value +
          |q.bias.value| * q.scale.value) / 2 ^ 53 +
          |(Binary64.ofNat raw / q.scale).value + q.bias.value - v.value| * q.scale.value := by ring
    _ ≤ 1 - 1 / 2 ^ 18 := by linarith

/-- Where they lie further apart, the value is the only number within reach. -/
theorem value_decode_eq_of_le (hbias : 2 ^ 53 + 2 ^ 36 ≤ |q.bias.value| * q.scale.value) :
    (q.decode raw).value = v.value := by
  by_contra hne
  have hscale := q.value_scale_pos
  have hhalf := abs_quotient_add_bias_sub_le hlow hencode hdecode
  have hquot := abs_quotient_mul_scale_le hencode (Binary64.isFinite_of_add hdecode).1
  have hdistance := abs_decode_sub_mul_scale_le hlow hencode hdecode
  have hapart : |v.value| * q.scale.value ≤
      2 ^ 53 * |v.value - (q.decode raw).value| * q.scale.value :=
    mul_le_mul_of_nonneg_right (Binary64.abs_value_le_mul_abs_sub (Ne.symm hne)) (le_of_lt hscale)
  rw [abs_sub_comm] at hapart
  -- the value is about as far from zero as the bias
  have hfar : |q.bias.value| ≤ |v.value| + |(Binary64.ofNat raw / q.scale).value| +
      |(Binary64.ofNat raw / q.scale).value + q.bias.value - v.value| := by
    have hsplit : q.bias.value = v.value - (Binary64.ofNat raw / q.scale).value +
        ((Binary64.ofNat raw / q.scale).value + q.bias.value - v.value) := by ring
    calc |q.bias.value| ≤ |v.value - (Binary64.ofNat raw / q.scale).value| +
          |(Binary64.ofNat raw / q.scale).value + q.bias.value - v.value| := by
          conv_lhs => rw [hsplit]
          exact abs_add_le _ _
      _ ≤ _ := add_le_add_left (abs_sub _ _) _
  have hscaled := mul_le_mul_of_nonneg_right hfar (le_of_lt hscale)
  rw [add_mul, add_mul] at hscaled
  linarith

/-- **A value comes back at most one step away.** -/
theorem abs_decode_sub_le_step (hbias : q.SpacingApart) (hstep : q.step.isFinite = true) :
    |(q.decode raw).value - v.value| ≤ q.step.value := by
  have hscale := q.value_scale_pos
  have hone := q.le_step_mul_scale hstep
  rcases hbias with hclose | hfar
  · have hdistance := abs_decode_sub_mul_scale_le_of_le hlow hencode hdecode hclose
    exact le_of_mul_le_mul_right (le_trans hdistance hone) hscale
  · rw [value_decode_eq_of_le hlow hencode hdecode hfar, sub_self, abs_zero]
    exact le_of_mul_le_mul_right (by linarith) hscale

end

/-! ### The whole range -/

variable {q : Quantizer} {width : RawWidth} {v : Binary64}

theorem isFinite_top (q : Quantizer) (width : RawWidth) : (q.top width).isFinite = true := by
  unfold top
  split
  · assumption
  · decide

theorem InRange.le_top (h : q.InRange width v) : v.Le (q.top width) := by
  unfold top
  split
  · exact h.high
  · exact Binary64.le_largest h.finite

/-- The largest value of the range is in the range. -/
theorem inRange_top (q : Quantizer) (width : RawWidth) : q.InRange width (q.top width) := by
  have hbias := q.usable.2.2
  have hmax : q.bias.Le (q.range width).2 := q.bias_le_decode width.maxRaw
  refine ⟨q.isFinite_top width, ?_, ?_⟩
  · unfold top
    split
    · exact hmax
    · exact Binary64.le_largest hbias
  · unfold top
    split
    · exact Binary64.le_refl hmax.right
    · -- what is above a finite number and not finite is infinite
      rename_i hinfinite
      have hlarge := Binary64.rank_largest
      have hlow := (Binary64.isFinite_iff_rank.mp hbias).1
      have hrank := hmax.rank_le
      rw [Binary64.isFinite_iff_rank] at hinfinite
      exact ⟨by decide, hmax.right, by omega⟩

/-- **The range is packed if its largest value is.** -/
theorem exists_encode_of_inRange {top : Nat} (htop : q.encode (q.top width) width = .ok top)
    (h : q.InRange width v) : ∃ raw, q.encode v width = .ok raw ∧ raw ≤ top :=
  q.encode_of_le h.low h.le_top htop

/-- What the largest value of the range is packed into has a finite value, unless steps are
infinite. -/
def TopDecodes (q : Quantizer) (width : RawWidth) : Prop :=
  ∃ top, q.encode (q.top width) width = .ok top ∧
    (q.step.isFinite = true → (q.decode top).isFinite = true)

/-- So does then what any other value is packed into. -/
theorem TopDecodes.exists_encode (htop : q.TopDecodes width) (h : q.InRange width v) :
    ∃ raw, q.encode v width = .ok raw ∧
      (q.step.isFinite = true → (q.decode raw).isFinite = true) := by
  obtain ⟨top, hencode, hdecode⟩ := htop
  obtain ⟨raw, hraw, hle⟩ := exists_encode_of_inRange hencode h
  exact ⟨raw, hraw, fun hstep =>
    (q.decode_le hle).isFinite_of_ge (q.bias_le_decode raw) q.usable.2.2 (hdecode hstep)⟩

/-- **A quantizer takes every value of its range exactly if it takes the largest one.** The values
then come back within hardly more than one step. They come back within one step, unless numbers of
the size of the bias lie about as far apart as steps. -/
theorem range_comesBack_iff (q : Quantizer) (width : RawWidth) :
    ((∀ v, q.InRange width v → ∃ raw, q.encode v width = .ok raw ∧ raw ≤ width.maxRaw) ↔
      ∃ top, q.encode (q.top width) width = .ok top) ∧
    (q.step.isFinite = true → q.TopDecodes width → ∀ v, q.InRange width v →
      ∃ raw, q.encode v width = .ok raw ∧ (q.decode raw).isFinite = true ∧
        |(q.decode raw).value - v.value| * q.scale.value ≤ 1 + 1 / 2 ^ 18) ∧
    (q.SpacingApart →
      ((∀ v, q.InRange width v → q.ComesBack width v) ↔ q.TopDecodes width)) := by
  refine ⟨⟨?_, ?_⟩, ?_, ?_⟩
  · intro hall
    obtain ⟨raw, hraw, -⟩ := hall _ (q.inRange_top width)
    exact ⟨raw, hraw⟩
  · rintro ⟨top, htop⟩ v hv
    obtain ⟨raw, hraw, -⟩ := exists_encode_of_inRange htop hv
    exact ⟨raw, hraw, le_maxRaw_of_encode hraw⟩
  · intro hstep htop v hv
    obtain ⟨raw, hraw, hdecode⟩ := htop.exists_encode hv
    exact ⟨raw, hraw, hdecode hstep, abs_decode_sub_mul_scale_le hv.low hraw (hdecode hstep)⟩
  · intro hbias
    constructor
    · intro hall
      obtain ⟨raw, hraw, -, hback⟩ := hall _ (q.inRange_top width)
      exact ⟨raw, hraw, fun hstep => (hback hstep).1⟩
    · intro htop v hv
      obtain ⟨raw, hraw, hdecode⟩ := htop.exists_encode hv
      exact ⟨raw, hraw, le_maxRaw_of_encode hraw, fun hstep => ⟨hdecode hstep,
        abs_decode_sub_le_step hv.low hraw (hdecode hstep) hbias hstep⟩⟩

/-- Volts in hundredths from zero: the whole range comes back within one step. -/
theorem range_comesBack_voltage :
    let q : Quantizer := ⟨⟨0x4059000000000000⟩, ⟨0⟩, by decide +kernel⟩
    q.SpacingApart ∧ q.TopDecodes .w16 ∧ ∀ v, q.InRange .w16 v → q.ComesBack .w16 v := by
  intro q
  have hapart : q.SpacingApart := by
    left
    have hzero : q.bias.value = 0 := by
      rw [Binary64.value, show q.bias.toInt = 0 by decide +kernel, Int.cast_zero, zero_div]
    rw [hzero, abs_zero, zero_mul]
    norm_num
  have htop : q.TopDecodes .w16 := ⟨65535, by decide +kernel, fun _ => by decide +kernel⟩
  exact ⟨hapart, htop, ((range_comesBack_iff q .w16).2.2 hapart).mpr htop⟩

/-- A byte in steps of one from `2 ^ 53` upward, where numbers lie two apart: the range reaches to
`2 ^ 53 + 256`, which is one too many to be packed. -/
theorem not_comesBack_shifted :
    ¬ ∀ (q : Quantizer) (width : RawWidth) (v : Binary64), q.InRange width v →
      q.ComesBack width v := by
  intro hall
  let q : Quantizer := ⟨⟨0x3ff0000000000000⟩, ⟨0x4340000000000000⟩, by decide +kernel⟩
  have hrange : q.InRange .w8 ⟨0x4340000000000080⟩ :=
    ⟨by decide +kernel, ⟨by decide +kernel, by decide +kernel, by decide +kernel⟩,
      ⟨by decide +kernel, by decide +kernel, by decide +kernel⟩⟩
  obtain ⟨raw, hraw, -⟩ := hall q .w8 _ hrange
  have hrefused : (q.encode ⟨0x4340000000000080⟩ .w8).isOk = false := by decide +kernel
  rw [hraw] at hrefused
  cases hrefused

/-- The spacing matters: with steps that are just shorter than the distance of the numbers from
`2 ^ 52` upward the largest value comes back, and another one comes back more than one step away. -/
theorem not_comesBack_of_spacing :
    let q : Quantizer := ⟨⟨0x3ff0000000081029⟩, ⟨0x4330000000000000⟩, by decide +kernel⟩
    let v : Binary64 := ⟨0x43300000fdfee4b3⟩
    q.TopDecodes .w32 ∧ q.InRange .w32 v ∧ ¬ q.ComesBack .w32 v := by
  intro q v
  refine ⟨⟨4294967295, by decide +kernel, fun _ => by decide +kernel⟩,
    ⟨by decide +kernel, ⟨by decide +kernel, by decide +kernel, by decide +kernel⟩,
      ⟨by decide +kernel, by decide +kernel, by decide +kernel⟩⟩, ?_⟩
  rintro ⟨raw, hraw, -, hback⟩
  have hpacked : q.encode v .w32 = .ok 4261340340 := by decide +kernel
  obtain rfl : raw = 4261340340 := Except.ok.inj (hraw.symm.trans hpacked)
  obtain ⟨-, hnear⟩ := hback (by decide +kernel)
  have hfar : q.step.toInt < (q.decode 4261340340).toInt - v.toInt := by decide +kernel
  have hfar : (q.step.toInt : ℚ) < (q.decode 4261340340).toInt - v.toInt := by exact_mod_cast hfar
  have hsub := le_trans (le_abs_self _) hnear
  unfold Binary64.value at hsub
  rw [← sub_div, div_le_div_iff_of_pos_right Binary64.cast_one_pos] at hsub
  exact absurd hsub (not_le.mpr hfar)

end Quantizer

end Telemetry
