import Mathlib.Algebra.GroupWithZero.Nat
import Mathlib.Data.Nat.Log
import Mathlib.Order.Monotone.Basic
import Telemetry.Float.Grid
/-!
# Telemetry.Proofs.Float.Grid

**Rounding to the grid keeps order and is exact on the grid.** `Grid.nearest` rounds at a
spacing that depends on the quotient. Quotients that are rounded at the same spacing keep
their order because `roundQuotient` does; others are kept apart by the ends of the blocks
that they lie in (`nearest_le`, `le_nearest`).

The main statements are `nearest_mono`, `nearest_steps`, and for the quotients between two
magnitudes `nearest_le_of_middle` and `lt_nearest_of_middle`. What a grid holds does not depend on
how wide its steps are: `exists_steps_eq` finds every short multiple of a power of two on it, and
`nearest_mul` takes a common factor out of a quotient.
-/

namespace Telemetry.Grid

/-! ### Quotients -/

theorem roundQuotient_mono {num num' den : Nat} (h : num ≤ num') :
    roundQuotient num den ≤ roundQuotient num' den := by
  have hdiv : num / den ≤ num' / den := Nat.div_le_div_right h
  rcases Nat.lt_or_eq_of_le hdiv with hlt | heq
  · rcases roundQuotient_eq_or num den with h1 | h1 <;>
      rcases roundQuotient_eq_or num' den with h2 | h2 <;> omega
  · -- with equal whole parts the remainders are in the order of the quotients
    have hrem : num % den ≤ num' % den := by
      have h1 := Nat.div_add_mod num den
      have h2 := Nat.div_add_mod num' den
      rw [heq] at h1
      omega
    unfold roundQuotient
    dsimp only
    rw [heq]
    by_cases hdown : 2 * (num' % den) < den ∨
        2 * (num' % den) = den ∧ num' / den % 2 = 0
    · -- what is below a number that goes down goes down too
      rw [if_pos hdown, if_pos (by omega)]
    · rw [if_neg hdown]
      split <;> omega

/-- Rounding does not go past a whole number. -/
theorem roundQuotient_le_of_le_mul {num den n : Nat} (h : num ≤ n * den) :
    roundQuotient num den ≤ n := by
  rcases Nat.eq_zero_or_pos den with rfl | hden
  · obtain rfl : num = 0 := by omega
    rw [roundQuotient_zero]
    exact Nat.zero_le n
  · rw [← roundQuotient_mul_self hden n]
    exact roundQuotient_mono h

theorem le_roundQuotient_of_mul_le {num den n : Nat} (hden : 0 < den) (h : n * den ≤ num) :
    n ≤ roundQuotient num den := by
  rw [← roundQuotient_mul_self hden n]
  exact roundQuotient_mono h

/-- Below the middle between two whole numbers a quotient goes to the lower one at most, and so
it does in the middle if that one is even. -/
theorem roundQuotient_le_of_half {num den n : Nat} (hden : 0 < den)
    (h : 2 * num < (2 * n + 1) * den ∨ n % 2 = 0 ∧ 2 * num = (2 * n + 1) * den) :
    roundQuotient num den ≤ n := by
  have hmiddle : (2 * n + 1) * den = 2 * (den * n) + den := by
    rw [Nat.succ_mul, Nat.mul_assoc, Nat.mul_comm n]
  have hquot : num / den ≤ n := by
    rw [← Nat.lt_succ_iff, Nat.div_lt_iff_lt_mul hden, Nat.succ_mul, Nat.mul_comm n]
    omega
  rcases Nat.lt_or_eq_of_le hquot with hlt | heq
  · rcases roundQuotient_eq_or num den with hround | hround <;> omega
  · have hsplit := Nat.div_add_mod num den
    rw [heq] at hsplit
    unfold roundQuotient
    dsimp only
    rw [heq, if_pos (by omega)]

/-- Above the middle a quotient goes past the lower number, and so it does in the middle if that
one is odd. -/
theorem lt_roundQuotient_of_half {num den n : Nat} (hden : 0 < den)
    (h : (2 * n + 1) * den < 2 * num ∨ n % 2 = 1 ∧ 2 * num = (2 * n + 1) * den) :
    n < roundQuotient num den := by
  have hmiddle : (2 * n + 1) * den = 2 * (den * n) + den := by
    rw [Nat.succ_mul, Nat.mul_assoc, Nat.mul_comm n]
  have hquot : n ≤ num / den := by
    rw [Nat.le_div_iff_mul_le hden, Nat.mul_comm]
    omega
  rcases Nat.lt_or_eq_of_le hquot with hlt | heq
  · rcases roundQuotient_eq_or num den with hround | hround <;> omega
  · have hsplit := Nat.div_add_mod num den
    rw [← heq] at hsplit
    unfold roundQuotient
    dsimp only
    rw [← heq, if_neg (by omega)]
    exact Nat.lt_succ_self n

/-! ### Blocks -/

/-- The whole part has at most one significand more than the dropped bits allow. -/
theorem lt_two_pow_droppedBits (p q : Nat) :
    q < 2 * 2 ^ (p - 1) * 2 ^ droppedBits p q := by
  have hle : q.log2 + 1 ≤ 1 + (p - 1) + droppedBits p q := by
    unfold droppedBits
    omega
  calc q < 2 ^ (q.log2 + 1) := Nat.lt_log2_self
    _ ≤ 2 ^ (1 + (p - 1) + droppedBits p q) := Nat.pow_le_pow_right Nat.zero_lt_two hle
    _ = 2 * 2 ^ (p - 1) * 2 ^ droppedBits p q := by rw [Nat.pow_add, Nat.pow_add, Nat.pow_one]

theorem two_pow_droppedBits_le {p q : Nat} (h : 0 < droppedBits p q) :
    2 ^ (p - 1) * 2 ^ droppedBits p q ≤ q := by
  have hq : q ≠ 0 := by
    rintro rfl
    simp [droppedBits] at h
  have hsum : p - 1 + droppedBits p q = q.log2 := by
    unfold droppedBits at h ⊢
    omega
  rw [← Nat.pow_add, hsum]
  exact Nat.log2_self_le hq

theorem droppedBits_mono {p q q' : Nat} (h : q ≤ q') : droppedBits p q ≤ droppedBits p q' := by
  unfold droppedBits
  have hlog : q.log2 ≤ q'.log2 := by
    rw [Nat.log2_eq_log_two, Nat.log2_eq_log_two]
    exact Nat.log_mono_right h
  omega

/-- A quotient is rounded to at most one significand more than fits. -/
theorem roundQuotient_le_two_pow (p num : Nat) {den : Nat} (hden : 0 < den) :
    roundQuotient num (den * 2 ^ droppedBits p (num / den)) ≤ 2 * 2 ^ (p - 1) := by
  apply roundQuotient_le_of_le_mul
  calc num ≤ den * (num / den + 1) := Nat.le_of_lt (Nat.lt_mul_div_succ num hden)
    _ ≤ den * (2 * 2 ^ (p - 1) * 2 ^ droppedBits p (num / den)) :=
      Nat.mul_le_mul_left den (lt_two_pow_droppedBits p (num / den))
    _ = 2 * 2 ^ (p - 1) * (den * 2 ^ droppedBits p (num / den)) := by ac_rfl

/-- And to a full significand, if bits are dropped. -/
theorem two_pow_le_roundQuotient {p num den : Nat} (hden : 0 < den)
    (h : 0 < droppedBits p (num / den)) :
    2 ^ (p - 1) ≤ roundQuotient num (den * 2 ^ droppedBits p (num / den)) := by
  apply le_roundQuotient_of_mul_le (Nat.mul_pos hden (Nat.two_pow_pos _))
  calc 2 ^ (p - 1) * (den * 2 ^ droppedBits p (num / den))
      = den * (2 ^ (p - 1) * 2 ^ droppedBits p (num / den)) := by ac_rfl
    _ ≤ den * (num / den) := Nat.mul_le_mul_left den (two_pow_droppedBits_le h)
    _ ≤ num := Nat.mul_div_le num den

/-- The nearest number does not lie past the end of the block of the quotient. -/
theorem nearest_le (p num : Nat) {den : Nat} (hden : 0 < den) :
    nearest p num den ≤ (droppedBits p (num / den) + 2) * 2 ^ (p - 1) := by
  unfold nearest
  dsimp only [Nat.pow_eq]
  rw [Nat.add_mul]
  exact Nat.add_le_add_left (roundQuotient_le_two_pow p num hden) _

/-- Nor before its beginning, if the block is not the first one. -/
theorem le_nearest {p num den : Nat} (hden : 0 < den) (h : 0 < droppedBits p (num / den)) :
    (droppedBits p (num / den) + 1) * 2 ^ (p - 1) ≤ nearest p num den := by
  unfold nearest
  dsimp only [Nat.pow_eq]
  rw [Nat.succ_mul]
  exact Nat.add_le_add_left (two_pow_le_roundQuotient hden h) _

/-- **Rounding to the grid is monotone**, also when the larger number is rounded at a
wider spacing. -/
theorem nearest_mono (p den : Nat) : Monotone fun num => nearest p num den := by
  intro num num' h
  have hk : droppedBits p (num / den) ≤ droppedBits p (num' / den) :=
    droppedBits_mono (Nat.div_le_div_right h)
  rcases Nat.lt_or_eq_of_le hk with hlt | heq
  · -- different spacings: the blocks of the two quotients do not overlap
    have hden : 0 < den := by
      rcases Nat.eq_zero_or_pos den with rfl | hden
      · simp at hlt
      · exact hden
    calc nearest p num den
        ≤ (droppedBits p (num / den) + 2) * 2 ^ (p - 1) := nearest_le p num hden
      _ ≤ (droppedBits p (num' / den) + 1) * 2 ^ (p - 1) := Nat.mul_le_mul_right _ (by omega)
      _ ≤ nearest p num' den := le_nearest hden (by omega)
  · unfold nearest
    dsimp only
    rw [heq]
    exact Nat.add_le_add_left (roundQuotient_mono h) _

/-! ### The numbers of the grid -/

/-- Past the subnormal indices the grid is a significand at the spacing of its block. -/
theorem steps_of_le {p i : Nat} (h : 2 ^ (p - 1) ≤ i) :
    steps p i = (2 ^ (p - 1) + i % 2 ^ (p - 1)) * 2 ^ (i / 2 ^ (p - 1) - 1) :=
  if_neg (Nat.not_lt.mpr h)

/-- The significands from half of the range up have a block for each power of two. -/
theorem steps_block {p m : Nat} (hlow : 2 ^ (p - 1) ≤ m) (hhigh : m < 2 * 2 ^ (p - 1)) (k : Nat) :
    steps p (k * 2 ^ (p - 1) + m) = m * 2 ^ k := by
  have hhalf : 0 < 2 ^ (p - 1) := Nat.two_pow_pos _
  have hone : m / 2 ^ (p - 1) = 1 := by
    rw [Nat.div_eq_iff hhalf]
    omega
  have hdiv : (k * 2 ^ (p - 1) + m) / 2 ^ (p - 1) = k + 1 := by
    rw [Nat.mul_comm, Nat.mul_add_div hhalf, hone]
  have hmod : (k * 2 ^ (p - 1) + m) % 2 ^ (p - 1) = m - 2 ^ (p - 1) := by
    rw [Nat.mul_comm, Nat.mul_add_mod, Nat.mod_eq_sub_mod hlow, Nat.mod_eq_of_lt (by omega)]
  rw [steps_of_le (Nat.le_trans hlow (Nat.le_add_left _ _)), hdiv, hmod, Nat.add_sub_cancel,
    Nat.add_sub_cancel' hlow]

/-- A significand of at most `p` bits, or the first one with more, at the spacing of its
block. -/
theorem steps_significand {p m k : Nat} (hm : m ≤ 2 * 2 ^ (p - 1))
    (hk : k = 0 ∨ 2 ^ (p - 1) ≤ m) : steps p (k * 2 ^ (p - 1) + m) = m * 2 ^ k := by
  have hhalf : 0 < 2 ^ (p - 1) := Nat.two_pow_pos _
  rcases Nat.lt_or_ge m (2 ^ (p - 1)) with hlow | hlow
  · obtain rfl : k = 0 := by omega
    rw [Nat.zero_mul, Nat.zero_add, steps_of_lt hlow, Nat.pow_zero, Nat.mul_one]
  rcases Nat.lt_or_eq_of_le hm with hlt | rfl
  · exact steps_block hlow hlt k
  · -- a block ends where the next one begins
    have hnext := steps_block (p := p) (Nat.le_refl _) (by omega) (k + 1)
    rw [Nat.two_mul, ← Nat.add_assoc, ← Nat.succ_mul, hnext, ← Nat.two_mul, Nat.pow_succ',
      Nat.mul_left_comm, Nat.mul_assoc]

/-- Every index is a significand in a block. -/
theorem exists_significand (p i : Nat) :
    ∃ m k, i = k * 2 ^ (p - 1) + m ∧ m < 2 * 2 ^ (p - 1) ∧ (k = 0 ∨ 2 ^ (p - 1) ≤ m) := by
  have hhalf : 0 < 2 ^ (p - 1) := Nat.two_pow_pos _
  rcases Nat.lt_or_ge i (2 ^ (p - 1)) with hi | hi
  · exact ⟨i, 0, by omega, by omega, Or.inl rfl⟩
  · have hmod := Nat.mod_lt i hhalf
    have hone : 1 ≤ i / 2 ^ (p - 1) := (Nat.one_le_div_iff hhalf).mpr hi
    refine ⟨2 ^ (p - 1) + i % 2 ^ (p - 1), i / 2 ^ (p - 1) - 1, ?_, by omega,
      Or.inr (Nat.le_add_right _ _)⟩
    rw [← Nat.add_assoc, ← Nat.succ_mul, Nat.succ_eq_add_one, Nat.sub_add_cancel hone,
      Nat.div_add_mod']

theorem steps_lt_succ (p i : Nat) : steps p i < steps p (i + 1) := by
  obtain ⟨m, k, rfl, hm, hk⟩ := exists_significand p i
  rw [Nat.add_assoc, steps_significand (Nat.le_of_lt hm) hk,
    steps_significand hm (hk.imp_right Nat.le_succ_of_le)]
  exact Nat.mul_lt_mul_of_pos_right (Nat.lt_succ_self m) (Nat.two_pow_pos k)

theorem steps_mono (p : Nat) : Monotone (steps p) :=
  monotone_nat_of_le_succ fun i => Nat.le_of_lt (steps_lt_succ p i)

/-! ### Between neighbours -/

/-- A quotient is rounded at the spacing of the block that it lies in. -/
theorem droppedBits_eq {p m k q : Nat} (hm : m < 2 * 2 ^ (p - 1))
    (hk : k = 0 ∨ 2 ^ (p - 1) ≤ m) (hlow : m * 2 ^ k ≤ q) (hhigh : q < (m + 1) * 2 ^ k) :
    droppedBits p q = k := by
  have hle : droppedBits p q ≤ k := by
    rcases Nat.eq_zero_or_pos q with rfl | hq
    · simp [droppedBits]
    · have hlt : q < 2 ^ (p - 1 + 1 + k) := by
        calc q < (m + 1) * 2 ^ k := hhigh
          _ ≤ 2 * 2 ^ (p - 1) * 2 ^ k := Nat.mul_le_mul_right _ hm
          _ = 2 ^ (p - 1 + 1 + k) := by rw [Nat.pow_add, Nat.pow_succ']
      have hlog := (Nat.log2_lt (Nat.ne_of_gt hq)).mpr hlt
      unfold droppedBits
      omega
  rcases hk with rfl | hk
  · exact Nat.le_zero.mp hle
  · refine Nat.le_antisymm hle ?_
    have hge : 2 ^ (p - 1 + k) ≤ q := by
      rw [Nat.pow_add]
      exact Nat.le_trans (Nat.mul_le_mul_right _ hk) hlow
    have hq : q ≠ 0 := Nat.ne_of_gt (Nat.lt_of_lt_of_le (Nat.two_pow_pos _) hge)
    have hlog := (Nat.le_log2 hq).mpr hge
    unfold droppedBits
    omega

/-- Between two neighbours only the significand is rounded, and their middle is that between two
whole significands. -/
theorem nearest_between {p num den i : Nat} (hden : 0 < den) (hlow : steps p i * den ≤ num)
    (hhigh : num < steps p (i + 1) * den) :
    ∃ m k, i = k * 2 ^ (p - 1) + m ∧
      nearest p num den = k * 2 ^ (p - 1) + roundQuotient num (den * 2 ^ k) ∧
      steps p i * den = m * (den * 2 ^ k) ∧
      (steps p i + steps p (i + 1)) * den = (2 * m + 1) * (den * 2 ^ k) := by
  obtain ⟨m, k, rfl, hm, hk⟩ := exists_significand p i
  have hthis := steps_significand (p := p) (Nat.le_of_lt hm) hk
  have hnext := steps_significand (p := p) (m := m + 1) (k := k) hm
    (hk.imp_right Nat.le_succ_of_le)
  rw [← Nat.add_assoc] at hnext
  rw [hthis] at hlow
  rw [hnext] at hhigh
  have hdropped : droppedBits p (num / den) = k :=
    droppedBits_eq hm hk ((Nat.le_div_iff_mul_le hden).mpr hlow)
      ((Nat.div_lt_iff_lt_mul hden).mpr hhigh)
  refine ⟨m, k, rfl, ?_, ?_, ?_⟩
  · unfold nearest
    dsimp only [Nat.pow_eq]
    rw [hdropped]
  · rw [hthis]
    ac_rfl
  · rw [hthis, hnext, ← Nat.add_mul, ← Nat.add_assoc, ← Nat.two_mul]
    ac_rfl

/-- **A number of the grid is its own nearest one**, in whatever unit it is counted. -/
theorem nearest_steps_mul (p i : Nat) {den : Nat} (hden : 0 < den) :
    nearest p (steps p i * den) den = i := by
  obtain ⟨m, k, hi, hnearest, hsteps, -⟩ := nearest_between hden (Nat.le_refl _)
    (Nat.mul_lt_mul_of_pos_right (steps_lt_succ p i) hden)
  rw [hnearest, hsteps, roundQuotient_mul_self (Nat.mul_pos hden (Nat.two_pow_pos k)), hi]

theorem nearest_steps (p i : Nat) : nearest p (steps p i) 1 = i := by
  have hself := nearest_steps_mul p i Nat.one_pos
  rwa [Nat.mul_one] at hself

/-- An index and the significand in its block are both even or both odd. -/
theorem mod_two_significand {p : Nat} (hp : 2 ≤ p) (m k : Nat) :
    (k * 2 ^ (p - 1) + m) % 2 = m % 2 := by
  obtain ⟨e, he⟩ : ∃ e, p - 1 = e + 1 := ⟨p - 2, by omega⟩
  rw [he, Nat.pow_succ, ← Nat.mul_assoc, Nat.mul_add_mod_self_right]

/-- **Below the middle between a magnitude and the next one a quotient is not rounded past it**;
in the middle it is not if the index is even. -/
theorem nearest_le_of_middle {p num den i : Nat} (hp : 2 ≤ p) (hden : 0 < den)
    (h : 2 * num < (steps p i + steps p (i + 1)) * den ∨
      i % 2 = 0 ∧ 2 * num = (steps p i + steps p (i + 1)) * den) :
    nearest p num den ≤ i := by
  rcases Nat.le_total num (steps p i * den) with hle | hge
  · calc nearest p num den ≤ nearest p (steps p i * den) den := nearest_mono p den hle
      _ = i := nearest_steps_mul p i hden
  · have hstep := Nat.mul_lt_mul_of_pos_right (steps_lt_succ p i) hden
    have hnum : num < steps p (i + 1) * den := by
      rw [Nat.add_mul] at h
      omega
    obtain ⟨m, k, rfl, hnearest, -, hmiddle⟩ := nearest_between hden hge hnum
    rw [hmiddle, mod_two_significand hp] at h
    rw [hnearest]
    exact Nat.add_le_add_left
      (roundQuotient_le_of_half (Nat.mul_pos hden (Nat.two_pow_pos k)) h) _

/-- **Above the middle a quotient is rounded past the lower magnitude**; in the middle it is if
the index is odd. -/
theorem lt_nearest_of_middle {p num den i : Nat} (hp : 2 ≤ p) (hden : 0 < den)
    (h : (steps p i + steps p (i + 1)) * den < 2 * num ∨
      i % 2 = 1 ∧ 2 * num = (steps p i + steps p (i + 1)) * den) :
    i < nearest p num den := by
  rcases Nat.lt_or_ge num (steps p (i + 1) * den) with hlt | hge
  · have hstep := Nat.mul_lt_mul_of_pos_right (steps_lt_succ p i) hden
    have hnum : steps p i * den ≤ num := by
      rw [Nat.add_mul] at h
      omega
    obtain ⟨m, k, rfl, hnearest, -, hmiddle⟩ := nearest_between hden hnum hlt
    rw [hmiddle, mod_two_significand hp] at h
    rw [hnearest]
    exact Nat.add_lt_add_left
      (lt_roundQuotient_of_half (Nat.mul_pos hden (Nat.two_pow_pos k)) h) _
  · calc i < i + 1 := Nat.lt_succ_self i
      _ = nearest p (steps p (i + 1) * den) den := (nearest_steps_mul p (i + 1) hden).symm
      _ ≤ nearest p num den := nearest_mono p den hge

/-! ### Other units -/

/-- A significand of at most `p` bits times a power of two is a number of the grid. -/
theorem exists_steps_eq {p m : Nat} (h : m < 2 * 2 ^ (p - 1)) (k : Nat) :
    ∃ i, steps p i = m * 2 ^ k := by
  induction k generalizing m with
  | zero =>
    rcases Nat.lt_or_ge m (2 ^ (p - 1)) with hm | hm
    · exact ⟨m, by rw [steps_of_lt hm, Nat.pow_zero, Nat.mul_one]⟩
    · exact ⟨_, steps_block hm h 0⟩
  | succ k ih =>
    rcases Nat.lt_or_ge m (2 ^ (p - 1)) with hm | hm
    · -- a short significand is doubled, which leaves one power of two less
      obtain ⟨i, hi⟩ := ih (m := 2 * m) (by omega)
      exact ⟨i, by rw [hi, Nat.pow_succ', Nat.mul_left_comm, Nat.mul_assoc]⟩
    · exact ⟨_, steps_block hm h (k + 1)⟩

/-- And every number of the grid has this form. -/
theorem exists_steps_form (p i : Nat) :
    ∃ m k, m < 2 * 2 ^ (p - 1) ∧ steps p i = m * 2 ^ k := by
  obtain ⟨m, k, rfl, hm, hk⟩ := exists_significand p i
  exact ⟨m, k, hm, steps_significand (Nat.le_of_lt hm) hk⟩

theorem roundQuotient_mul (num den : Nat) {c : Nat} (hc : 0 < c) :
    roundQuotient (num * c) (den * c) = roundQuotient num den := by
  have hlt : 2 * (num % den * c) < den * c ↔ 2 * (num % den) < den := by
    rw [← Nat.mul_assoc]
    exact Nat.mul_lt_mul_right hc
  have heq : 2 * (num % den * c) = den * c ↔ 2 * (num % den) = den := by
    rw [← Nat.mul_assoc]
    exact Nat.mul_left_inj (Nat.ne_of_gt hc)
  unfold roundQuotient
  simp only [Nat.mul_div_mul_right _ _ hc, Nat.mul_mod_mul_right, hlt, heq]

/-- A common factor of both counts makes no difference. -/
theorem nearest_mul (p num den : Nat) {c : Nat} (hc : 0 < c) :
    nearest p (num * c) (den * c) = nearest p num den := by
  unfold nearest
  dsimp only
  rw [Nat.mul_div_mul_right _ _ hc, Nat.mul_right_comm, roundQuotient_mul _ _ hc]

/-- Equal quotients have the same nearest number. -/
theorem nearest_congr (p : Nat) {num den num' den' : Nat} (hden : 0 < den) (hden' : 0 < den')
    (h : num * den' = num' * den) : nearest p num den = nearest p num' den' := by
  rw [← nearest_mul p num den hden', ← nearest_mul p num' den' hden, h, Nat.mul_comm den]

end Telemetry.Grid
