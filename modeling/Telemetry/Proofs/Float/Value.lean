import Mathlib.Tactic.Linarith
import Mathlib.Tactic.Positivity
import Mathlib.Tactic.FieldSimp
import Telemetry.Proofs.Float.Widening
/-!
# Telemetry.Proofs.Float.Value

**The rational number that a finite number stands for.** Step counts keep arithmetic in the
integers; what is promised to a user of a format (a range, a rounding rule, a distance) is said of
the values (`Binary64.value`).

`Binary64.RoundsTo` is rounding to a whole number, a half away from zero, and `roundToInt?` does
just that (`roundToInt?_eq_some_iff`). The order of the magnitudes is that of the values, so that
`magnitudeLE` compares with a rational bound (`magnitudeLE_iff`).
-/

namespace Telemetry

namespace Binary64

/-- The value of a finite number. -/
def value (x : Binary64) : ℚ := x.toInt / one

theorem cast_one_pos : (0 : ℚ) < one := Nat.cast_pos.mpr Binary64.one_pos

theorem value_eq (x : Binary64) : x.value = (signed x.negative x.steps : ℤ) / one := rfl

/-- The sign of a number makes no difference to the magnitude of its value. -/
theorem abs_value (x : Binary64) : |x.value| = x.steps / one := by
  have habs : |((signed x.negative x.steps : ℤ) : ℚ)| = x.steps := by
    unfold signed
    split <;> simp
  rw [value_eq, abs_div, habs, abs_of_pos cast_one_pos]

theorem value_neg (x : Binary64) : x.neg.value = -x.value := by
  rw [value, toInt_neg, Int.cast_neg, neg_div]
  rfl

/-! ### Order -/

theorem Le.value_le {x y : Binary64} (h : x.Le y) : x.value ≤ y.value :=
  div_le_div_of_nonneg_right (Int.cast_le.mpr h.toInt_le) (le_of_lt cast_one_pos)

theorem strictMono_steps : StrictMono (Grid.steps precision) :=
  strictMono_nat_of_lt_succ (Grid.steps_lt_succ precision)

theorem steps_pos {x : Binary64} (h : x.index ≠ 0) : 0 < x.steps := by
  have hlt := strictMono_steps (Nat.pos_of_ne_zero h)
  rwa [Grid.steps_zero] at hlt

/-- Magnitudes are in the order of their step counts. -/
theorem index_le_iff {x y : Binary64} : x.index ≤ y.index ↔ |x.value| ≤ |y.value| := by
  rw [abs_value, abs_value, div_le_div_iff_of_pos_right cast_one_pos, Nat.cast_le]
  exact strictMono_steps.le_iff_le.symm

theorem magnitudeLE_iff {x y : Binary64} (hx : x.isFinite = true) (hy : y.isFinite = true) :
    x.magnitudeLE y = true ↔ |x.value| ≤ |y.value| := by
  rw [magnitudeLE, isNaN_of_isFinite hx, isNaN_of_isFinite hy, ← index_le_iff]
  simp

/-! ### Finite results -/

theorem isFinite_nan : nan.isFinite = false := by decide

theorem isFinite_infinity (b : Bool) : (infinity b).isFinite = false := by cases b <;> decide

/-- Only finite numbers have a finite sum. -/
theorem isFinite_of_add {x y : Binary64} (h : (x + y).isFinite = true) :
    x.isFinite = true ∧ y.isFinite = true := by
  change (add x y).isFinite = true at h
  unfold add at h
  split at h
  · simp [isFinite_nan] at h
  · by_cases hx : x.isFinite = true
    · by_cases hy : y.isFinite = true
      · exact ⟨hx, hy⟩
      · simp [hx, hy] at h
    · rw [Bool.not_eq_true] at hx
      simp only [hx, Bool.not_false, if_true] at h
      split at h
      · simp [isFinite_nan] at h
      · simp [hx] at h

theorem isFinite_of_sub {x y : Binary64} (h : (x - y).isFinite = true) : x.isFinite = true :=
  (isFinite_of_add (y := y.neg) h).1

theorem isFinite_of_mul {x y : Binary64} (h : (x * y).isFinite = true) : x.isFinite = true := by
  change (mul x y).isFinite = true at h
  by_contra hx
  rw [Bool.not_eq_true] at hx
  unfold mul at h
  simp only [hx, Bool.not_false, Bool.true_or, if_true] at h
  split at h
  · simp [isFinite_nan] at h
  · split at h
    · simp [isFinite_nan] at h
    · simp [isFinite_infinity] at h

/-! ### Rounding to whole numbers -/

/-- A finite number rounds to a whole number of its sign that is less than a half away from it, or
a half away on the far side from zero. -/
structure RoundsTo (x : Binary64) (n : Int) : Prop where
  finite : x.isFinite = true
  sign : 0 ≤ x.value * n
  low : |(n : ℚ)| - 1 / 2 ≤ |x.value|
  high : |x.value| < |(n : ℚ)| + 1 / 2

/-- No whole number is nearer. -/
theorem RoundsTo.abs_sub_le {x : Binary64} {n : Int} (h : x.RoundsTo n) :
    |x.value - n| ≤ 1 / 2 := by
  have hlow := h.low
  have hhigh := h.high
  rcases mul_nonneg_iff.mp h.sign with ⟨hx, hn⟩ | ⟨hx, hn⟩
  · rw [abs_of_nonneg hx, abs_of_nonneg hn] at hlow hhigh
    rw [abs_le]
    constructor <;> linarith
  · rw [abs_of_nonpos hx, abs_of_nonpos hn] at hlow hhigh
    rw [abs_le]
    constructor <;> linarith

/-- The quotient of a halved divisor is the nearest whole number, a half going up. -/
theorem half_up_eq_iff {n d k : Nat} (hd : 0 < d) :
    (2 * n + d) / (2 * d) = k ↔ (k : ℚ) - 1 / 2 ≤ n / d ∧ (n : ℚ) / d < k + 1 / 2 := by
  have hpos : (0 : ℚ) < d := Nat.cast_pos.mpr hd
  have hlow : (k : ℚ) - 1 / 2 ≤ n / d ↔ k * (2 * d) ≤ 2 * n + d := by
    rw [le_div_iff₀ hpos, ← Nat.cast_le (α := ℚ)]
    push_cast
    constructor <;> intro h <;> linarith
  have hhigh : (n : ℚ) / d < k + 1 / 2 ↔ 2 * n + d < (k + 1) * (2 * d) := by
    rw [div_lt_iff₀ hpos, ← Nat.cast_lt (α := ℚ)]
    push_cast
    constructor <;> intro h <;> linarith
  rw [hlow, hhigh, Nat.div_eq_iff (by omega), Nat.add_mul]
  omega

theorem wholeIndex_eq_iff {x : Binary64} {k : Nat} :
    wholeIndex x.steps = k ↔ (k : ℚ) - 1 / 2 ≤ |x.value| ∧ |x.value| < k + 1 / 2 := by
  rw [abs_value]
  exact half_up_eq_iff Binary64.one_pos

theorem abs_signed (b : Bool) (k : Nat) : |((signed b k : ℤ) : ℚ)| = k := by
  cases b <;> simp [signed]

/-- A number has the sign of the one that it is rounded from. -/
theorem signed_natAbs_eq {x : Binary64} {n : Int} (hsign : 0 ≤ x.value * n)
    (hzero : n ≠ 0 → 0 < |x.value|) : signed x.negative n.natAbs = n := by
  rcases eq_or_ne n 0 with rfl | hn
  · cases x.negative <;> rfl
  · have hvalue := abs_pos.mp (hzero hn)
    have hsame : 0 < x.value * n :=
      lt_of_le_of_ne hsign (mul_ne_zero hvalue (Int.cast_ne_zero.mpr hn)).symm
    rw [value_eq, div_mul_eq_mul_div, div_pos_iff_of_pos_right cast_one_pos] at hsame
    have hsame : 0 < signed x.negative x.steps * n := by exact_mod_cast hsame
    have hsigns := mul_pos_iff.mp hsame
    unfold signed at hsigns ⊢
    cases hx : x.negative with
    | false =>
      simp only [hx, if_neg Bool.false_ne_true] at hsigns ⊢
      omega
    | true =>
      simp only [hx, if_true] at hsigns ⊢
      omega

/-- **A finite number is rounded to the nearest whole one, a half away from zero**, and no other
number is rounded. -/
theorem roundToInt?_eq_some_iff {x : Binary64} {n : Int} :
    x.roundToInt? = some n ↔ x.RoundsTo n := by
  constructor
  · intro h
    have hfinite : x.isFinite = true := by
      by_contra hinfinite
      rw [roundToInt?, if_neg hinfinite] at h
      cases h
    rw [roundToInt?_eq hfinite] at h
    obtain rfl := Option.some.inj h
    obtain ⟨hlow, hhigh⟩ := wholeIndex_eq_iff.mp (Eq.refl (wholeIndex x.steps))
    rw [← abs_signed x.negative] at hlow hhigh
    refine ⟨hfinite, ?_, hlow, hhigh⟩
    rw [value_eq, div_mul_eq_mul_div]
    apply div_nonneg _ (le_of_lt cast_one_pos)
    cases x.negative <;> simp [signed, mul_nonneg]
  · rintro ⟨hfinite, hsign, hlow, hhigh⟩
    have hwhole : wholeIndex x.steps = n.natAbs := by
      rw [wholeIndex_eq_iff, Nat.cast_natAbs, Int.cast_abs]
      exact ⟨hlow, hhigh⟩
    have hzero : n ≠ 0 → 0 < |x.value| := by
      intro hn
      have hone : (1 : ℚ) ≤ |(n : ℚ)| := by exact_mod_cast Int.one_le_abs hn
      linarith
    rw [roundToInt?_eq hfinite, hwhole, signed_natAbs_eq hsign hzero]

end Binary64

/-! ### The largest binary32 number -/

namespace Binary32

theorem isFinite_widen_largest : largest.widen.isFinite = true :=
  (widen_of_lt (by decide)).2.1

/-- It has 24 bits, all set, and the largest exponent. -/
theorem value_widen_largest : largest.widen.value = (2 ^ 24 - 1) * 2 ^ 104 := by
  obtain ⟨hnegative, -, hsteps⟩ := widen_of_lt (x := largest) (by decide)
  have hcount : Grid.steps precision largest.index * step =
      (2 ^ 24 - 1) * 2 ^ 104 * Binary64.one := by
    decide +kernel
  have hsign : largest.negative = false := by decide
  rw [Binary64.value_eq, hnegative, hsign, hsteps, hcount, signed, if_neg Bool.false_ne_true]
  push_cast
  rw [mul_div_assoc, div_self (ne_of_gt Binary64.cast_one_pos), mul_one]
  norm_num

end Binary32

end Telemetry
