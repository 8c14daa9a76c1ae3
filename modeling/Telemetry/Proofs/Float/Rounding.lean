import Mathlib.Tactic.Ring
import Telemetry.Proofs.Float.Value
/-!
# Telemetry.Proofs.Float.Rounding

**How far the result of an operation is from the exact one.** Rounding to the grid moves a number
by at most half the spacing around it. In the blocks that drop bits this is a share of `2 ^ -p` of
the number; below them it is half a step. A sum of step counts is a whole number of steps, so it is
exact there.

The main statements are `abs_value_add_sub_le`, `abs_value_mul_sub_le` and `abs_value_div_sub_le`:
each says of an operation with a finite result that the result is near the exact value.
-/

namespace Telemetry

namespace Grid

/-! ### Rounding to the grid -/

theorem abs_roundQuotient_sub_le (num : Nat) {den : Nat} (hden : 0 < den) :
    |(roundQuotient num den : ℚ) - num / den| ≤ 1 / 2 := by
  have hpos : (0 : ℚ) < den := Nat.cast_pos.mpr hden
  have hrem : num % den < den := Nat.mod_lt num hden
  have hnum : (num : ℚ) = den * (num / den : ℕ) + (num % den : ℕ) := by
    exact_mod_cast (Nat.div_add_mod num den).symm
  have hquot : (num : ℚ) / den = (num / den : ℕ) + (num % den : ℕ) / den := by
    rw [div_eq_iff (ne_of_gt hpos), add_mul, div_mul_cancel₀ _ (ne_of_gt hpos), hnum]
    ring
  rw [hquot, abs_le]
  unfold roundQuotient
  dsimp only
  split
  · -- down: the remainder is at most a half
    have hhalf : ((num % den : ℕ) : ℚ) / den ≤ 1 / 2 := by
      have hle : 2 * (num % den) ≤ den := by omega
      rw [div_le_iff₀ hpos]
      have : (2 * (num % den : ℕ) : ℚ) ≤ den := by exact_mod_cast hle
      linarith
    have hnonneg : (0 : ℚ) ≤ (num % den : ℕ) / den := by positivity
    constructor <;> linarith
  · have hhalf : 1 / 2 ≤ ((num % den : ℕ) : ℚ) / den := by
      have hle : den ≤ 2 * (num % den) := by omega
      rw [le_div_iff₀ hpos]
      have : (den : ℚ) ≤ 2 * (num % den : ℕ) := by exact_mod_cast hle
      linarith
    have hone : ((num % den : ℕ) : ℚ) / den ≤ 1 := by
      rw [div_le_one hpos]
      exact_mod_cast Nat.le_of_lt hrem
    push_cast
    constructor <;> linarith

/-- The nearest number is the quotient rounded at the spacing of its block. -/
theorem exists_steps_nearest (p num : Nat) {den : Nat} (hden : 0 < den) :
    ∃ k, (k = 0 ∨ 2 ^ (p - 1) * 2 ^ k ≤ num / den) ∧
      steps p (nearest p num den) = roundQuotient num (den * 2 ^ k) * 2 ^ k := by
  refine ⟨droppedBits p (num / den), ?_, ?_⟩
  · rcases Nat.eq_zero_or_pos (droppedBits p (num / den)) with hzero | hpos
    · exact Or.inl hzero
    · exact Or.inr (two_pow_droppedBits_le hpos)
  · apply steps_significand (roundQuotient_le_two_pow p num hden)
    rcases Nat.eq_zero_or_pos (droppedBits p (num / den)) with hzero | hpos
    · exact Or.inl hzero
    · exact Or.inr (two_pow_le_roundQuotient hden hpos)

/-- At a spacing of `2 ^ k` a quotient moves by half of it at most. -/
theorem abs_mul_two_pow_sub_le (num : Nat) {den : Nat} (hden : 0 < den) (k : Nat) :
    |((roundQuotient num (den * 2 ^ k) * 2 ^ k : ℕ) : ℚ) - num / den| ≤ 2 ^ k / 2 := by
  have hpow : (0 : ℚ) < 2 ^ k := by positivity
  have hround := abs_roundQuotient_sub_le num (Nat.mul_pos hden (Nat.two_pow_pos k))
  have hscale : ((roundQuotient num (den * 2 ^ k) * 2 ^ k : ℕ) : ℚ) - num / den =
      (roundQuotient num (den * 2 ^ k) - num / (den * 2 ^ k : ℕ)) * 2 ^ k := by
    push_cast
    field_simp
  rw [hscale, abs_mul, abs_of_pos hpow]
  calc |(roundQuotient num (den * 2 ^ k) : ℚ) - num / (den * 2 ^ k : ℕ)| * 2 ^ k
      ≤ 1 / 2 * 2 ^ k := mul_le_mul_of_nonneg_right hround (le_of_lt hpow)
    _ = 2 ^ k / 2 := by ring

/-- Half of the spacing of a block is a share of the numbers in it. -/
theorem two_pow_div_two_le {p num den k : Nat} (hp : 0 < p) (hden : 0 < den)
    (h : 2 ^ (p - 1) * 2 ^ k ≤ num / den) : (2 : ℚ) ^ k / 2 ≤ num / den / 2 ^ p := by
  have hquot : ((2 ^ (p - 1) * 2 ^ k : ℕ) : ℚ) ≤ num / den := by
    rw [le_div_iff₀ (Nat.cast_pos.mpr hden)]
    exact_mod_cast (Nat.le_div_iff_mul_le hden).mp h
  have hdouble : (2 : ℚ) ^ p = 2 ^ (p - 1) * 2 := by
    rw [← pow_succ, Nat.sub_add_cancel hp]
  rw [le_div_iff₀ (by positivity), hdouble]
  push_cast at hquot
  linarith

/-- **Rounding to the grid** moves a quotient by a share of itself, or by half a step. -/
theorem abs_steps_nearest_sub_le {p : Nat} (hp : 0 < p) (num : Nat) {den : Nat} (hden : 0 < den) :
    |(steps p (nearest p num den) : ℚ) - num / den| ≤ num / den / 2 ^ p + 1 / 2 := by
  obtain ⟨k, hk, hsteps⟩ := exists_steps_nearest p num hden
  have herror := abs_mul_two_pow_sub_le num hden k
  rw [← hsteps] at herror
  rcases hk with rfl | hk
  · have hnonneg : (0 : ℚ) ≤ num / den / 2 ^ p := by positivity
    linarith
  · have hshare := two_pow_div_two_le hp hden hk
    linarith

/-- A whole number of steps is only moved by a share of itself. -/
theorem abs_steps_nearest_one_sub_le {p : Nat} (hp : 0 < p) (num : Nat) :
    |(steps p (nearest p num 1) : ℚ) - num| ≤ num / 2 ^ p := by
  obtain ⟨k, hk, hsteps⟩ := exists_steps_nearest p num Nat.one_pos
  have herror := abs_mul_two_pow_sub_le num Nat.one_pos k
  rw [← hsteps, Nat.cast_one, div_one] at herror
  rcases hk with rfl | hk
  · -- nothing is dropped, so nothing is moved
    have hself := roundQuotient_mul_self Nat.one_pos num
    rw [Nat.mul_one] at hself
    rw [hsteps, Nat.pow_zero, Nat.mul_one, Nat.mul_one, hself, sub_self, abs_zero]
    positivity
  · have hshare := two_pow_div_two_le hp Nat.one_pos hk
    rw [Nat.cast_one, div_one] at hshare
    linarith

/-- A quotient is not below the middle between two numbers up to the one it is rounded to. -/
theorem middle_le_of_lt_nearest {p : Nat} (hp : 2 ≤ p) (num : Nat) {den i : Nat}
    (hden : 0 < den) (h : i < nearest p num den) :
    (steps p i + steps p (i + 1) : ℚ) ≤ 2 * (num / den) := by
  have hmiddle : (steps p i + steps p (i + 1)) * den ≤ 2 * num := by
    by_contra hless
    have hle := nearest_le_of_middle hp hden (Or.inl (Nat.not_le.mp hless))
    exact absurd h (Nat.not_lt.mpr hle)
  rw [← mul_div_assoc, le_div_iff₀ (Nat.cast_pos.mpr hden)]
  exact_mod_cast hmiddle

/-- It is not past the middle from there to the next one. -/
theorem le_middle_of_nearest {p : Nat} (hp : 2 ≤ p) (num : Nat) {den : Nat} (hden : 0 < den) :
    2 * (num / den : ℚ) ≤ steps p (nearest p num den) + steps p (nearest p num den + 1) := by
  have hmiddle : 2 * num ≤
      (steps p (nearest p num den) + steps p (nearest p num den + 1)) * den := by
    by_contra hmore
    exact Nat.lt_irrefl _ (lt_nearest_of_middle hp hden (Or.inl (Nat.not_le.mp hmore)))
  rw [← mul_div_assoc, div_le_iff₀ (Nat.cast_pos.mpr hden)]
  exact_mod_cast hmiddle

theorem cast_steps_mono (p : Nat) {i j : Nat} (h : i ≤ j) : (steps p i : ℚ) ≤ steps p j :=
  Nat.cast_le.mpr (steps_mono p h)

/-- **No number of the grid is nearer** to a quotient than the one that it is rounded to. -/
theorem abs_steps_nearest_sub_le_abs {p : Nat} (hp : 2 ≤ p) (num : Nat) {den : Nat}
    (hden : 0 < den) (j : Nat) :
    |(steps p (nearest p num den) : ℚ) - num / den| ≤ |(steps p j : ℚ) - num / den| := by
  rcases Nat.lt_trichotomy j (nearest p num den) with hlt | rfl | hgt
  · obtain ⟨i, hi⟩ := Nat.exists_eq_add_of_lt hlt
    have hmiddle := middle_le_of_lt_nearest hp num hden (i := j + i) (by omega)
    have hj := cast_steps_mono p (Nat.le_add_right j i)
    have hnext := cast_steps_mono p (Nat.le_succ (j + i))
    rw [hi, abs_sub_comm (steps p j : ℚ), abs_of_nonneg (a := _ - (steps p j : ℚ)) (by linarith),
      abs_le]
    constructor <;> linarith
  · exact le_refl _
  · have hmiddle := le_middle_of_nearest hp num hden
    have hj := cast_steps_mono p (Nat.succ_le_of_lt hgt)
    have hnext := cast_steps_mono p (Nat.le_succ (nearest p num den))
    rw [abs_of_nonneg (a := (steps p j : ℚ) - _) (by linarith), abs_le]
    constructor <;> linarith

/-- Different numbers of the grid differ by a share of the larger one. -/
theorem steps_le_mul_sub (p : Nat) {i j : Nat} (h : i < j) :
    steps p j ≤ 2 * 2 ^ (p - 1) * (steps p j - steps p i) := by
  obtain ⟨l, rfl⟩ : ∃ l, j = l + 1 := ⟨j - 1, by omega⟩
  obtain ⟨m, k, hl, hm, hk⟩ := exists_significand p l
  have hthis := steps_significand (p := p) (Nat.le_of_lt hm) hk
  have hnext := steps_significand (p := p) (m := m + 1) hm (hk.imp_right Nat.le_succ_of_le)
  rw [← Nat.add_assoc, ← hl] at hnext
  rw [← hl] at hthis
  have hle : steps p i ≤ steps p l := steps_mono p (Nat.le_of_lt_succ h)
  have hspacing : 2 ^ k ≤ steps p (l + 1) - steps p i := by
    rw [hnext, Nat.succ_mul, ← hthis]
    omega
  calc steps p (l + 1) = (m + 1) * 2 ^ k := hnext
    _ ≤ 2 * 2 ^ (p - 1) * 2 ^ k := Nat.mul_le_mul_right _ hm
    _ ≤ 2 * 2 ^ (p - 1) * (steps p (l + 1) - steps p i) := Nat.mul_le_mul_left _ hspacing

end Grid

namespace Binary64

/-! ### Rounding a value -/

/-- The factor that a sign bit stands for. -/
def signOf (negative : Bool) : ℚ := if negative then -1 else 1

theorem abs_signOf (b : Bool) : |signOf b| = 1 := by cases b <;> simp [signOf]

theorem signOf_bne (a b : Bool) : signOf (a != b) = signOf a * signOf b := by
  cases a <;> cases b <;> simp [signOf]

theorem div_signOf (q : ℚ) (b : Bool) : q / signOf b = q * signOf b := by
  cases b <;> simp [signOf, div_neg]

theorem value_eq_signOf_mul (x : Binary64) : x.value = signOf x.negative * (x.steps / one) := by
  rw [value_eq, signed, signOf]
  split <;> push_cast <;> ring

theorem signOf_mul_natAbs (z : Int) : signOf (decide (z < 0)) * (z.natAbs : ℚ) = z := by
  unfold signOf
  rw [Nat.cast_natAbs, Int.cast_abs]
  rcases lt_or_ge z 0 with hz | hz
  · have hcast : (z : ℚ) < 0 := Int.cast_lt_zero.mpr hz
    rw [if_pos (decide_eq_true hz), abs_of_neg hcast]
    ring
  · have hcast : (0 : ℚ) ≤ z := Int.cast_nonneg hz
    rw [if_neg (by simpa using hz), abs_of_nonneg hcast, one_mul]

theorem value_round {b : Bool} {num den : Nat} (h : (round b num den).isFinite = true) :
    (round b num den).value =
      signOf b * (Grid.steps precision (Grid.nearest precision num den) / one) := by
  have hindex : (round b num den).index = Grid.nearest precision num den := by
    rw [isFinite_iff, index_round, roundIndex] at h
    rw [index_round, roundIndex]
    omega
  rw [value_eq_signOf_mul, negative_round, steps, hindex]

/-- What is near a number of steps is near its value. -/
theorem abs_signOf_mul_sub_le {b : Bool} {m n c e : ℚ} (hn : 0 ≤ n) (hc : 0 < c)
    (h : |m - n| ≤ n / 2 ^ precision + e) :
    |signOf b * (m / c) - signOf b * (n / c)| ≤
      |signOf b * (n / c)| / 2 ^ precision + e / c := by
  rw [← mul_sub, abs_mul, abs_mul, abs_signOf, one_mul, one_mul, ← sub_div, abs_div,
    abs_of_pos hc, abs_div, abs_of_nonneg hn, abs_of_pos hc, div_le_iff₀ hc, add_mul,
    div_mul_cancel₀ _ (ne_of_gt hc)]
  calc |m - n| ≤ n / 2 ^ precision + e := h
    _ = n / c / 2 ^ precision * c + e := by field_simp

/-- **A rounded quotient** is near the exact one. -/
theorem abs_value_round_sub_le {b : Bool} {num den : Nat} (hden : 0 < den)
    (h : (round b num den).isFinite = true) :
    |(round b num den).value - signOf b * (num / den / one)| ≤
      |signOf b * (num / den / one)| / 2 ^ precision + 1 / 2 / one := by
  rw [value_round h]
  apply abs_signOf_mul_sub_le (by positivity) cast_one_pos
  exact Grid.abs_steps_nearest_sub_le (by decide) num hden

/-! ### Operations -/

/-- A sum of step counts is a step count, and the sum is rounded to the grid. -/
theorem abs_value_add_sub_eq {x y : Binary64} (h : (x + y).isFinite = true) :
    ∃ num : Nat, |x.value + y.value| = num / one ∧
      |(x + y).value - (x.value + y.value)| =
        |(Grid.steps precision (Grid.nearest precision num 1) : ℚ) - num| / one := by
  obtain ⟨hx, hy⟩ := isFinite_of_add h
  have hsum : x.value + y.value =
      signOf (decide (x.toInt + y.toInt < 0)) * ((x.toInt + y.toInt).natAbs / one) := by
    rw [← mul_div_assoc, signOf_mul_natAbs, value, value, Int.cast_add, add_div]
  refine ⟨(x.toInt + y.toInt).natAbs, ?_, ?_⟩
  · rw [hsum, abs_mul, abs_signOf, one_mul, abs_div, abs_of_pos cast_one_pos, Nat.abs_cast]
  · change (add x y).isFinite = true at h
    change |(add x y).value - (x.value + y.value)| = _
    rw [hsum]
    unfold add at h ⊢
    simp only [isNaN_of_isFinite hx, isNaN_of_isFinite hy, hx, hy, Bool.or_self, Bool.not_true,
      if_neg Bool.false_ne_true] at h ⊢
    by_cases hzero : x.toInt + y.toInt = 0
    · -- an exact zero has the value zero, whatever its sign
      rw [if_pos hzero, hzero, value_eq_signOf_mul, steps, index_ofIndex _ (by decide),
        Int.natAbs_zero, Grid.nearest_zero, Grid.steps_zero]
      simp only [Nat.cast_zero, zero_div, mul_zero, sub_self, abs_zero]
    · rw [if_neg hzero] at h ⊢
      rw [value_round h, ← mul_sub, abs_mul, abs_signOf, one_mul, ← sub_div, abs_div,
        abs_of_pos cast_one_pos]

/-- **A sum** is near the exact one. -/
theorem abs_value_add_sub_le {x y : Binary64} (h : (x + y).isFinite = true) :
    |(x + y).value - (x.value + y.value)| ≤ |x.value + y.value| / 2 ^ precision := by
  obtain ⟨num, hsum, herror⟩ := abs_value_add_sub_eq h
  rw [hsum, herror, div_right_comm]
  exact div_le_div_of_nonneg_right (Grid.abs_steps_nearest_one_sub_le (by decide) num)
    (le_of_lt cast_one_pos)

/-- No number is nearer to the exact sum. -/
theorem abs_value_add_sub_le_abs {x y : Binary64} (h : (x + y).isFinite = true) (z : Binary64) :
    |(x + y).value - (x.value + y.value)| ≤ |z.value - (x.value + y.value)| := by
  obtain ⟨num, hsum, herror⟩ := abs_value_add_sub_eq h
  have hnearest := Grid.abs_steps_nearest_sub_le_abs (p := precision) (by decide) num
    Nat.one_pos z.index
  rw [Nat.cast_one, div_one] at hnearest
  -- the magnitudes are no further apart than the numbers
  calc |(x + y).value - (x.value + y.value)|
      ≤ |(z.steps : ℚ) - num| / one := by
        rw [herror]
        exact div_le_div_of_nonneg_right hnearest (le_of_lt cast_one_pos)
    _ = |(|z.value| - |x.value + y.value|)| := by
        rw [abs_value, hsum, ← sub_div, abs_div, abs_of_pos cast_one_pos]
    _ ≤ |z.value - (x.value + y.value)| := abs_abs_sub_abs_le _ _

/-- **A product** is near the exact one. -/
theorem abs_value_mul_sub_le {x y : Binary64} (hy : y.isFinite = true)
    (h : (x * y).isFinite = true) :
    |(x * y).value - x.value * y.value| ≤ |x.value * y.value| / 2 ^ precision + 1 / 2 / one := by
  have hx := isFinite_of_mul h
  have hprod : x.value * y.value =
      signOf (x.negative != y.negative) * ((x.steps * y.steps : ℕ) / one / one) := by
    rw [value_eq_signOf_mul, value_eq_signOf_mul y, signOf_bne]
    push_cast
    ring
  have hmul : x * y = round (x.negative != y.negative) (x.steps * y.steps) one := by
    change mul x y = _
    simp [mul, isNaN_of_isFinite hx, isNaN_of_isFinite hy, hx, hy]
  rw [hmul] at h ⊢
  rw [hprod]
  exact abs_value_round_sub_le Binary64.one_pos h

/-- **A quotient** is near the exact one. -/
theorem abs_value_div_sub_le {x y : Binary64} (hx : x.isFinite = true) (hy : y.isFinite = true)
    (hzero : y.index ≠ 0) (h : (x / y).isFinite = true) :
    |(x / y).value - x.value / y.value| ≤ |x.value / y.value| / 2 ^ precision + 1 / 2 / one := by
  have hsteps : 0 < y.steps := steps_pos hzero
  have hquot : x.value / y.value =
      signOf (x.negative != y.negative) * ((x.steps * one : ℕ) / y.steps / one) := by
    have hone := ne_of_gt cast_one_pos
    rw [value_eq_signOf_mul, value_eq_signOf_mul y, signOf_bne, mul_div_mul_comm, div_signOf,
      div_div_div_cancel_right₀ hone, Nat.cast_mul, mul_div_right_comm,
      mul_div_cancel_right₀ _ hone]
  have hdiv : x / y = round (x.negative != y.negative) (x.steps * one) y.steps := by
    change div x y = _
    simp [div, isNaN_of_isFinite hx, isNaN_of_isFinite hy, hx, hy, hzero]
  rw [hdiv] at h ⊢
  rw [hquot]
  exact abs_value_round_sub_le hsteps h

/-! ### Bounds -/

/-- Magnitudes differ by a share of the larger one. -/
theorem abs_value_le_mul_sub {x y : Binary64} (h : x.index < y.index) :
    |y.value| ≤ 2 ^ precision * (|y.value| - |x.value|) := by
  have hle := Grid.steps_le_mul_sub precision h
  have hcast : (y.steps : ℚ) ≤ 2 ^ precision * (y.steps - x.steps) := by
    unfold steps
    rw [← Nat.cast_sub (Grid.steps_mono precision (Nat.le_of_lt h))]
    exact_mod_cast hle
  rw [abs_value, abs_value, ← sub_div, ← mul_div_assoc]
  exact div_le_div_of_nonneg_right hcast (le_of_lt cast_one_pos)

/-- Two numbers differ by a share of either one. -/
theorem abs_value_le_mul_abs_sub {x y : Binary64} (h : x.value ≠ y.value) :
    |x.value| ≤ 2 ^ precision * |x.value - y.value| := by
  have hapart := abs_le.mp (abs_abs_sub_abs_le x.value y.value)
  have hpow : (0 : ℚ) < 2 ^ precision := by positivity
  rcases Nat.lt_trichotomy x.index y.index with hlt | heq | hgt
  · calc |x.value| ≤ |y.value| := index_le_iff.mp (Nat.le_of_lt hlt)
      _ ≤ 2 ^ precision * (|y.value| - |x.value|) := abs_value_le_mul_sub hlt
      _ ≤ 2 ^ precision * |x.value - y.value| :=
        mul_le_mul_of_nonneg_left (by linarith) (le_of_lt hpow)
  · -- equal magnitudes of different signs are twice as far apart
    have habs : |x.value| = |y.value| :=
      le_antisymm (index_le_iff.mp (Nat.le_of_eq heq)) (index_le_iff.mp (Nat.le_of_eq heq.symm))
    have hneg : y.value = -x.value := by
      rcases abs_eq_abs.mp habs with hsame | hneg
      · exact absurd hsame h
      · rw [hneg, neg_neg]
    have hone : (1 : ℚ) ≤ 2 ^ precision := one_le_pow₀ (by norm_num)
    rw [hneg, sub_neg_eq_add, ← two_mul, abs_mul, abs_two]
    nlinarith [abs_nonneg x.value]
  · calc |x.value| ≤ 2 ^ precision * (|x.value| - |y.value|) := abs_value_le_mul_sub hgt
      _ ≤ 2 ^ precision * |x.value - y.value| :=
        mul_le_mul_of_nonneg_left (by linarith) (le_of_lt hpow)

/-- A whole number that a significand holds is exact. -/
theorem value_ofNat {n : Nat} (h : n < 2 ^ precision) : (ofNat n).value = n := by
  obtain ⟨e, he⟩ := exists_one_eq
  obtain ⟨i, hi⟩ : ∃ i, Grid.steps precision i = n * one := by
    rw [he]
    exact Grid.exists_steps_eq h e
  have hlarge : 2 ^ precision * one ≤ Grid.steps precision (infinityIndex - 1) := by decide +kernel
  have hlt : i < infinityIndex := by
    have hsteps : Grid.steps precision i < Grid.steps precision infinityIndex := by
      calc Grid.steps precision i = n * one := hi
        _ ≤ 2 ^ precision * one := Nat.mul_le_mul_right one (Nat.le_of_lt h)
        _ ≤ Grid.steps precision (infinityIndex - 1) := hlarge
        _ < Grid.steps precision infinityIndex := strictMono_steps (by decide)
    exact strictMono_steps.lt_iff_lt.mp hsteps
  have hindex : (ofNat n).index = i := by
    rw [ofNat_eq, index_round, roundIndex, ← hi, Grid.nearest_steps]
    exact Nat.min_eq_left (Nat.le_of_lt hlt)
  have hsign : (ofNat n).negative = false := by rw [ofNat_eq, negative_round]
  rw [value_eq_signOf_mul, hsign, steps, hindex, hi, Nat.cast_mul,
    mul_div_cancel_right₀ _ (ne_of_gt cast_one_pos), signOf, if_neg Bool.false_ne_true, one_mul]

/-- Half a step is little, even when a number scales it. -/
theorem half_step_mul_le {x : Binary64} (hx : x.isFinite = true) :
    1 / 2 / one * |x.value| ≤ 1 / 2 ^ 51 := by
  have hone := cast_one_pos
  have hlarge : Grid.steps precision infinityIndex * 2 ^ 50 ≤ one * one := by decide +kernel
  have hsteps : x.steps * 2 ^ 50 ≤ one * one :=
    Nat.le_trans (Nat.mul_le_mul_right _ (strictMono_steps.monotone
      (Nat.le_of_lt (isFinite_iff.mp hx)))) hlarge
  have hsteps : (x.steps * 2 ^ 50 : ℚ) ≤ one * one := by exact_mod_cast hsteps
  have hscaled : (1 / 2 / one * (x.steps / one) : ℚ) = x.steps / 2 / (one * one) := by
    field_simp
  rw [abs_value, hscaled, div_le_iff₀ (mul_pos hone hone)]
  linarith

theorem half_step_le : (1 : ℚ) / 2 / one ≤ 1 / 2 ^ 51 := by
  have hle := half_step_mul_le (isFinite_ofInt (n := (1 : ℕ)) (by decide))
  have hvalue : (ofInt (1 : ℕ)).value = (1 : ℕ) := value_ofNat (by decide)
  rwa [hvalue, Nat.cast_one, abs_one, mul_one] at hle

end Binary64

end Telemetry
