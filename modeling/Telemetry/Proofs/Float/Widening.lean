import Telemetry.Float.Binary32
import Telemetry.Proofs.Float.Order
/-!
# Telemetry.Proofs.Float.Widening

**A binary32 number comes back from binary64 as it was.** Every finite one is a number of the
wider grid as well, so widening does not round, and narrowing finds the number on its own grid
again. This holds of the infinities and of both zeros too; only a NaN may come back changed,
since widening makes it quiet.

The main statements are `narrow_widen` and `widen_spec`, the latter about the range check of
an encoder.
-/

namespace Telemetry.Binary32

/-! ### Fields of a number -/

/-- A number is its sign and its index. -/
theorem ofIndex_index (x : Binary32) : ofIndex x.negative x.index = x := by
  rw [ofIndex, index, negative, mod_add_weight x.bits.toNat_lt, UInt32.ofNat_toNat]

/-! ### The two grids -/

/-- The two units are a power of two apart. -/
theorem exists_step_eq : ∃ e, step = 2 ^ e := by
  unfold step
  generalize 925 = e
  exact ⟨e, rfl⟩

theorem step_pos : 0 < step := by
  obtain ⟨e, he⟩ := exists_step_eq
  rw [he]
  exact Nat.two_pow_pos e

/-- A number of this grid is one of the wider grid. -/
theorem exists_steps_eq_mul (i : Nat) :
    ∃ j, Grid.steps Binary64.precision j = Grid.steps precision i * step := by
  obtain ⟨e, he⟩ := exists_step_eq
  obtain ⟨m, k, hm, hsteps⟩ := Grid.exists_steps_form precision i
  have hwider : 2 * 2 ^ (precision - 1) ≤ 2 * 2 ^ (Binary64.precision - 1) := by decide
  obtain ⟨j, hj⟩ :=
    Grid.exists_steps_eq (p := Binary64.precision) (Nat.lt_of_lt_of_le hm hwider) (k + e)
  exact ⟨j, by rw [hj, hsteps, he, Nat.mul_assoc, Nat.pow_add]⟩

/-- The wider format reaches further. -/
theorem steps_mul_step_lt {i : Nat} (hi : i < infinityIndex) :
    Grid.steps precision i * step < Grid.steps Binary64.precision Binary64.infinityIndex := by
  have htop : Grid.steps precision infinityIndex * step <
      Grid.steps Binary64.precision Binary64.infinityIndex := by decide +kernel
  have hle := Grid.steps_mono precision (Nat.le_of_lt hi)
  exact Nat.lt_of_le_of_lt (Nat.mul_le_mul_right step hle) htop

/-! ### Widening -/

/-- **Widening a finite number is exact.** -/
theorem widen_of_lt {x : Binary32} (hx : x.index < infinityIndex) :
    x.widen.negative = x.negative ∧ x.widen.isFinite = true ∧
      x.widen.steps = Grid.steps precision x.index * step := by
  obtain ⟨j, hj⟩ := exists_steps_eq_mul x.index
  have hlt : j < Binary64.infinityIndex := by
    by_contra hge
    have hle := Grid.steps_mono Binary64.precision (Nat.not_lt.mp hge)
    have hfinite := steps_mul_step_lt hx
    rw [← hj] at hfinite
    exact Nat.not_lt.mpr hle hfinite
  have hindex : x.widen.index = j := by
    rw [widen, if_pos hx, Binary64.index_round, ← hj, Binary64.roundIndex, Grid.nearest_steps]
    exact Nat.min_eq_left (Nat.le_of_lt hlt)
  refine ⟨?_, ?_, ?_⟩
  · rw [widen, if_pos hx, Binary64.negative_round]
  · rw [Binary64.isFinite_iff, hindex]
    exact hlt
  · rw [Binary64.steps, hindex, hj]

theorem widen_of_eq {x : Binary32} (hx : x.index = infinityIndex) :
    x.widen.negative = x.negative ∧ x.widen.index = Binary64.infinityIndex := by
  have hwiden : x.widen = Binary64.infinity x.negative := by
    rw [widen, if_neg (by omega), if_pos hx]
  rw [hwiden]
  exact ⟨Binary64.negative_ofIndex _ Binary64.infinityIndex_lt,
    Binary64.index_ofIndex _ Binary64.infinityIndex_lt⟩

/-- The payload of a widened NaN fits, and the quiet bit keeps it from being an infinity. -/
theorem lt_index_widen {x : Binary32} (hx : infinityIndex < x.index) :
    Binary64.infinityIndex < x.widen.index := by
  have hpayload : quieted (x.index - infinityIndex) < 2 * quietBit := by
    have hlt : (x.index - infinityIndex) % quietBit < quietBit := Nat.mod_lt _ (by decide)
    unfold quieted
    omega
  have hquiet : 0 < quieted (x.index - infinityIndex) := Nat.lt_add_left _ (by decide)
  have hspace : Binary64.infinityIndex + 2 * quietBit * payloadWeight = Binary64.signWeight := by
    decide
  have hlt := Nat.mul_lt_mul_of_pos_right hpayload (show 0 < payloadWeight by decide)
  have hpos := Nat.mul_pos hquiet (show 0 < payloadWeight by decide)
  rw [widen, if_neg (by omega), if_neg (by omega), Binary64.index_ofIndex _ (by omega)]
  omega

/-- A number is NaN at both widths or at neither. -/
theorem isNaN_widen (x : Binary32) : x.widen.isNaN = decide (infinityIndex < x.index) := by
  rcases Nat.lt_trichotomy x.index infinityIndex with hx | hx | hx
  · rw [decide_eq_false (Nat.lt_asymm hx)]
    exact Binary64.isNaN_of_isFinite (widen_of_lt hx).2.1
  · rw [decide_eq_false (by omega), Binary64.isNaN_eq_false_iff, (widen_of_eq hx).2]
  · rw [decide_eq_true hx]
    exact decide_eq_true (lt_index_widen hx)

/-- Widening a number of binary32 never goes past the largest finite one, unless it is
infinite or NaN already. -/
theorem widen_spec (x : Binary32) :
    x.widen.isFinite = false ∨ x.widen.magnitudeLE largest.widen = true := by
  have hlargest : largest.index < infinityIndex := by decide
  have hindex : ∀ {y : Binary32}, y.index < infinityIndex →
      y.widen.index = Binary64.roundIndex (Grid.steps precision y.index * step) 1 := by
    intro y hy
    rw [widen, if_pos hy, Binary64.index_round]
  rcases Nat.lt_or_ge x.index infinityIndex with hx | hx
  · right
    have hle : x.index ≤ largest.index := Nat.le_of_lt_succ hx
    have hround : Binary64.roundIndex (Grid.steps precision x.index * step) 1 ≤
        Binary64.roundIndex (Grid.steps precision largest.index * step) 1 :=
      Binary64.roundIndex_mono 1 (Nat.mul_le_mul_right step (Grid.steps_mono precision hle))
    have hnan := isNaN_widen largest
    rw [decide_eq_false (Nat.lt_asymm hlargest)] at hnan
    rw [Binary64.magnitudeLE, hnan, Binary64.isNaN_of_isFinite (widen_of_lt hx).2.1, hindex hx,
      hindex hlargest]
    simpa using hround
  · left
    have hbig : Binary64.infinityIndex ≤ x.widen.index := by
      rcases Nat.lt_or_eq_of_le hx with hx | hx
      · exact Nat.le_of_lt (lt_index_widen hx)
      · exact Nat.le_of_eq (widen_of_eq hx.symm).2.symm
    exact decide_eq_false (Nat.not_lt.mpr hbig)

/-! ### Narrowing back -/

/-- **What was widened narrows to the same bits**, unless it is NaN. -/
theorem narrow_widen {x : Binary32} (hx : x.widen.isNaN = false) : narrow x.widen = x := by
  have hnan := hx
  rw [isNaN_widen, decide_eq_false_iff_not, Nat.not_lt] at hx
  unfold narrow
  rcases Nat.lt_or_eq_of_le hx with hx | hx
  · obtain ⟨hnegative, hfinite, hsteps⟩ := widen_of_lt hx
    have hnearest : Grid.nearest precision (Grid.steps precision x.index * step) step =
        x.index := by
      have hscaled := Grid.nearest_mul precision (Grid.steps precision x.index) 1 step_pos
      rw [Nat.one_mul, Grid.nearest_steps] at hscaled
      exact hscaled
    rw [if_pos hfinite, hnegative, hsteps, hnearest, Nat.min_eq_left (Nat.le_of_lt hx),
      ofIndex_index]
  · obtain ⟨hnegative, hindex⟩ := widen_of_eq hx
    have hinfinite : ¬ x.widen.isFinite = true := by
      rw [Binary64.isFinite_iff, hindex]
      exact Nat.lt_irrefl _
    rw [if_neg hinfinite, hnan, if_neg Bool.false_ne_true, hnegative, ← hx, ofIndex_index]

end Telemetry.Binary32
