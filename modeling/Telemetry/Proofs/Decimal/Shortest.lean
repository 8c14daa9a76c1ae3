import Telemetry.Decimal.Shortest
import Telemetry.Proofs.Float.Order
/-!
# Telemetry.Proofs.Decimal.Shortest

**The shortest decimal of a number reads back as this number.** A decimal counts
`stepsNum / stepsDen` steps, and reading it rounds this quotient: what the reader settles by
the exponent alone comes out the same (`toBinary64_eq`). So what a decimal reads back as depends
on its value only, and `shortest` may look for digits by comparing with the middles to both
neighbours.

That it finds some is a matter of spacing: the neighbours of a binary64 number are further apart
than two points of the grid of seventeen digits.

The main statement is `toBinary64_shortest`.
-/

namespace Telemetry.Decimal

open Binary64 (precision one infinityIndex)

/-! ### Widths and units -/

theorem width_pos (n : Nat) : 0 < width n := Nat.length_toDigits_pos

theorem lt_pow_width (n : Nat) : n < 10 ^ width n :=
  (Nat.length_toDigits_le_iff (by decide) (width_pos n)).mp (Nat.le_refl _)

theorem pow_width_le {n : Nat} (hn : n ≠ 0) : 10 ^ (width n - 1) ≤ n := by
  rcases Nat.eq_or_lt_of_le (width_pos n) with hone | hmore
  · rw [← hone]
    exact Nat.pos_of_ne_zero hn
  · by_contra hlt
    have hshort : width n ≤ width n - 1 :=
      (Nat.length_toDigits_le_iff (by decide) (by omega)).mpr (Nat.not_le.mp hlt)
    omega

/-- Half a step is more than `10 ^ -331`. -/
theorem two_mul_one_lt {k : Nat} (hk : 331 ≤ k) : 2 * one < 10 ^ k := by
  calc 2 * one < 10 ^ 331 := by decide +kernel
    _ ≤ 10 ^ k := Nat.pow_le_pow_right (by decide) hk

theorem one_le : one ≤ Nat.pow 10 400 := by decide +kernel

/-- No finite number reaches `10 ^ 310`. -/
theorem steps_infinityIndex_le {k : Nat} (hk : 310 ≤ k) :
    Grid.steps precision infinityIndex ≤ 10 ^ k * one := by
  calc Grid.steps precision infinityIndex ≤ 10 ^ 310 * one := by decide +kernel
    _ ≤ 10 ^ k * one := Nat.mul_le_mul_right _ (Nat.pow_le_pow_right (by decide) hk)

/-! ### The value of a decimal -/

/-- The steps that a decimal counts, times `stepsDen`. -/
def stepsNum (d : Decimal) : Nat := d.digits * (10 ^ d.exponent.toNat * one)

def stepsDen (d : Decimal) : Nat := 10 ^ (-d.exponent).toNat

/-- The index of the magnitude nearest to a decimal. -/
def nearestIndex (d : Decimal) : Nat := Grid.nearest precision d.stepsNum d.stepsDen

theorem stepsDen_pos (d : Decimal) : 0 < d.stepsDen := Nat.pow_pos (by decide)

theorem nearestIndex_of_digits_eq_zero {d : Decimal} (h : d.digits = 0) : d.nearestIndex = 0 := by
  rw [nearestIndex, stepsNum, h, Nat.zero_mul, Grid.nearest_zero]

theorem nearestIndex_of_lt {d : Decimal} (h : d.exponent + width d.digits < underflowExponent) :
    d.nearestIndex = 0 := by
  have hwidth := width_pos d.digits
  unfold underflowExponent at h
  -- less than half a step is left
  have hhalf : 2 * d.stepsNum < 1 * d.stepsDen := by
    have hexp : d.exponent.toNat = 0 := by omega
    obtain ⟨k, hk, hsum⟩ : ∃ k, 331 ≤ k ∧ width d.digits + k = (-d.exponent).toNat :=
      ⟨(-d.exponent).toNat - width d.digits, by omega, by omega⟩
    calc 2 * d.stepsNum = d.digits * (2 * one) := by
          rw [stepsNum, hexp, Nat.pow_zero, Nat.one_mul, Nat.mul_left_comm]
      _ < 10 ^ width d.digits * 10 ^ k :=
          Nat.mul_lt_mul_of_lt_of_lt (lt_pow_width d.digits) (two_mul_one_lt hk)
      _ = 1 * d.stepsDen := by rw [← Nat.pow_add, hsum, Nat.one_mul, stepsDen]
  have hsum : Grid.steps precision 0 + Grid.steps precision 1 = 1 := by decide +kernel
  apply Nat.le_zero.mp
  apply Grid.nearest_le_of_middle (by decide) d.stepsDen_pos
  rw [hsum]
  exact Or.inl hhalf

theorem infinityIndex_le_nearestIndex {d : Decimal} (hd : d.digits ≠ 0)
    (h : overflowExponent < d.exponent + width d.digits) : infinityIndex ≤ d.nearestIndex := by
  have hwidth := width_pos d.digits
  unfold overflowExponent at h
  have hlarge : Grid.steps precision infinityIndex * d.stepsDen ≤ d.stepsNum := by
    obtain ⟨k, hk, hsum⟩ : ∃ k, 310 ≤ k ∧
        k + (-d.exponent).toNat = width d.digits - 1 + d.exponent.toNat :=
      ⟨width d.digits - 1 + d.exponent.toNat - (-d.exponent).toNat, by omega, by omega⟩
    calc Grid.steps precision infinityIndex * d.stepsDen
        ≤ 10 ^ k * one * 10 ^ (-d.exponent).toNat :=
          Nat.mul_le_mul_right _ (steps_infinityIndex_le hk)
      _ = 10 ^ (width d.digits - 1) * (10 ^ d.exponent.toNat * one) := by
          rw [Nat.mul_right_comm, ← Nat.pow_add, hsum, Nat.pow_add, Nat.mul_assoc]
      _ ≤ d.stepsNum := Nat.mul_le_mul_right _ (pow_width_le hd)
  calc infinityIndex
      = Grid.nearest precision (Grid.steps precision infinityIndex * d.stepsDen) d.stepsDen :=
        (Grid.nearest_steps_mul precision infinityIndex d.stepsDen_pos).symm
    _ ≤ d.nearestIndex := Grid.nearest_mono precision d.stepsDen hlarge

/-- **Reading a decimal rounds its value**: a decimal that is settled by its exponent alone is
rounded to the same number. -/
theorem toBinary64_eq (negative : Bool) (d : Decimal) :
    d.toBinary64 negative = Binary64.ofIndex negative (min d.nearestIndex infinityIndex) := by
  unfold toBinary64
  dsimp only
  split
  · rename_i hlow
    have hzero : d.nearestIndex = 0 :=
      hlow.elim nearestIndex_of_digits_eq_zero nearestIndex_of_lt
    rw [hzero, Nat.zero_min]
  rename_i hlow
  split
  · rename_i hhigh
    have hd : d.digits ≠ 0 := fun hzero => hlow (Or.inl hzero)
    rw [Nat.min_eq_right (infinityIndex_le_nearestIndex hd hhigh)]
    rfl
  unfold Binary64.round nearestIndex stepsNum stepsDen
  dsimp only [Nat.pow_eq]
  split
  · rename_i hexp
    have hneg : (-d.exponent).toNat = 0 := by omega
    rw [hneg, Nat.pow_zero, Nat.mul_assoc]
  · rename_i hexp
    have hpos : d.exponent.toNat = 0 := by omega
    rw [hpos, Nat.pow_zero, Nat.one_mul]

/-- Zeros at the end of the digits and the exponent make up for one another. -/
theorem nearestIndex_mul_pow (n j : Nat) (e : Int) :
    nearestIndex ⟨n * 10 ^ j, e⟩ = nearestIndex ⟨n, e + j⟩ := by
  refine Grid.nearest_congr precision (stepsDen_pos _) (stepsDen_pos _) ?_
  have hpow : (10 : Nat) ^ j * 10 ^ e.toNat * 10 ^ (-(e + j)).toNat =
      10 ^ (e + j).toNat * 10 ^ (-e).toNat := by
    rw [← Nat.pow_add, ← Nat.pow_add, ← Nat.pow_add]
    exact congrArg (10 ^ ·) (by omega)
  unfold stepsNum stepsDen
  dsimp only
  generalize one = unit
  calc n * 10 ^ j * (10 ^ e.toNat * unit) * 10 ^ (-(e + j)).toNat
      = n * (10 ^ j * 10 ^ e.toNat * 10 ^ (-(e + j)).toNat) * unit := by ac_rfl
    _ = n * (10 ^ (e + j).toNat * 10 ^ (-e).toNat) * unit := by rw [hpow]
    _ = n * (10 ^ (e + j).toNat * unit) * 10 ^ (-e).toNat := by ac_rfl

theorem nearestIndex_dropZeros (fuel : Nat) (d : Decimal) :
    (dropZeros fuel d).nearestIndex = d.nearestIndex := by
  induction fuel generalizing d with
  | zero => rfl
  | succ fuel ih =>
    unfold dropZeros
    split
    · rename_i h
      have hdigits : d.digits / 10 * 10 ^ 1 = d.digits := by omega
      have hshift := nearestIndex_mul_pow (d.digits / 10) 1 d.exponent
      rw [hdigits] at hshift
      rw [ih]
      exact hshift.symm
    · rfl

/-! ### Points of a decimal grid -/

/-- Whether the point `d` of the grid lies between the middles to both neighbours. -/
def readsBack (index : Nat) (exponent : Int) (d : Nat) : Bool :=
  let steps := Grid.steps precision
  let up := Nat.pow 10 (-exponent).toNat
  let low := (steps (index - 1) + steps index) * up
  let high := (steps index + steps (index + 1)) * up
  let twice := 2 * (d * (Nat.pow 10 exponent.toNat * one))
  if index % 2 = 0 then low ≤ twice && twice ≤ high else low < twice && twice < high

/-- The last point of the grid that is not above the number. -/
def pointBelow (index : Nat) (exponent : Int) : Nat :=
  Grid.steps precision index * Nat.pow 10 (-exponent).toNat / (Nat.pow 10 exponent.toNat * one)

theorem readsBack_of_onGrid? {tie : Tie} {index : Nat} {exponent : Int} {d : Nat}
    (h : onGrid? tie index exponent = some d) : readsBack index exponent d = true := by
  unfold onGrid? at h
  dsimp only at h
  split at h
  · rename_i hbelow habove
    split at h <;> cases h
    · exact habove
    · exact hbelow
  · rename_i hbelow _
    cases h
    exact hbelow
  · rename_i _ habove
    cases h
    exact habove
  · cases h

/-- The points on both sides of the number are tried. -/
theorem exists_onGrid?_eq_some {index : Nat} {exponent : Int} (tie : Tie)
    (h : readsBack index exponent (pointBelow index exponent) = true ∨
      readsBack index exponent (pointBelow index exponent + 1) = true) :
    ∃ d, onGrid? tie index exponent = some d := by
  unfold readsBack pointBelow at h
  unfold onGrid?
  dsimp only at h ⊢
  split
  · exact ⟨_, rfl⟩
  · exact ⟨_, rfl⟩
  · exact ⟨_, rfl⟩
  · rename_i hbelow habove
    rw [hbelow, habove] at h
    simp at h

/-- Such a point lies between the middles, and on one of them only if the index is even. -/
theorem middles_of_readsBack {index : Nat} {exponent : Int} {d : Nat}
    (h : readsBack index exponent d = true) :
    let low := (Grid.steps precision (index - 1) + Grid.steps precision index) *
      stepsDen ⟨d, exponent⟩
    let high := (Grid.steps precision index + Grid.steps precision (index + 1)) *
      stepsDen ⟨d, exponent⟩
    let twice := 2 * stepsNum ⟨d, exponent⟩
    (low < twice ∨ index % 2 = 0 ∧ twice = low) ∧ (twice < high ∨ index % 2 = 0 ∧ twice = high) := by
  intro low high twice
  have hbounds : index % 2 = 0 ∧ low ≤ twice ∧ twice ≤ high ∨ low < twice ∧ twice < high := by
    unfold readsBack at h
    dsimp only [Nat.pow_eq] at h
    split at h
    · rename_i heven
      simp only [Bool.and_eq_true, decide_eq_true_eq] at h
      exact Or.inl ⟨heven, h⟩
    · simp only [Bool.and_eq_true, decide_eq_true_eq] at h
      exact Or.inr h
  omega

/-- A point between the middles is rounded to the number. -/
theorem nearestIndex_of_readsBack {index : Nat} {exponent : Int} {d : Nat}
    (h : readsBack index exponent d = true) : nearestIndex ⟨d, exponent⟩ = index := by
  have hden := stepsDen_pos ⟨d, exponent⟩
  obtain ⟨hlow, hhigh⟩ := middles_of_readsBack h
  have hle : nearestIndex ⟨d, exponent⟩ ≤ index :=
    Grid.nearest_le_of_middle (by decide) hden hhigh
  cases index with
  | zero => exact Nat.le_zero.mp hle
  | succ i =>
    refine Nat.le_antisymm hle (Grid.lt_nearest_of_middle (by decide) hden ?_)
    rw [Nat.add_sub_cancel] at hlow
    exact hlow.imp_right fun ⟨heven, htie⟩ => ⟨by omega, htie⟩

/-! ### Enough digits -/

/-- The neighbours of a magnitude are far apart: their distance is more than one part in
`5 * 10 ^ 15` of it. -/
theorem steps_gap {i : Nat} (hi : 0 < i) :
    2 * Grid.steps precision i + 10 ^ 16 * Grid.steps precision (i - 1) <
      10 ^ 16 * Grid.steps precision (i + 1) := by
  obtain ⟨j, rfl⟩ : ∃ j, i = j + 1 := ⟨i - 1, by omega⟩
  obtain ⟨m, k, rfl, hm, hk⟩ := Grid.exists_significand precision j
  have hhalf : 2 ^ (precision - 1) = 4503599627370496 := by decide
  have hpow : 0 < 2 ^ k := Nat.two_pow_pos k
  have hbelow := Grid.steps_significand (Nat.le_of_lt hm) hk
  have hthis := Grid.steps_significand (p := precision) (m := m + 1) (k := k) hm
    (hk.imp_right Nat.le_succ_of_le)
  rw [Nat.add_sub_cancel, Nat.add_assoc, hthis, hbelow]
  rcases Nat.lt_or_ge (m + 1) (2 * 2 ^ (precision - 1)) with hlt | hge
  · have habove := Grid.steps_significand (p := precision) (m := m + 2) (k := k) hlt
      (hk.imp_right fun h => Nat.le_trans h (Nat.le_add_right m 2))
    rw [Nat.add_assoc, habove, Nat.add_mul, Nat.add_mul]
    have hprod : m * 2 ^ k ≤ 2 * 2 ^ (precision - 1) * 2 ^ k :=
      Nat.mul_le_mul_right _ (Nat.le_of_lt hm)
    rw [hhalf] at hprod
    omega
  · -- at a power of two the spacing above is twice the one below
    have hend : m + 1 = 2 * 2 ^ (precision - 1) := Nat.le_antisymm hm hge
    have habove := Grid.steps_significand (p := precision) (m := 2 ^ (precision - 1) + 1)
      (k := k + 1) (by rw [hhalf]; decide) (Or.inr (Nat.le_add_right _ _))
    have hindex : k * 2 ^ (precision - 1) + (m + 1) + 1 =
        (k + 1) * 2 ^ (precision - 1) + (2 ^ (precision - 1) + 1) := by
      rw [hend, Nat.succ_mul k, Nat.two_mul]
      ac_rfl
    rw [hindex, habove, hend, Nat.pow_succ]
    rw [hhalf] at hend ⊢
    obtain rfl : m = 9007199254740991 := by omega
    omega

/-- On a grid this fine one of the two points next to the number reads back. -/
theorem readsBack_of_fine {index : Nat} {exponent : Int} (hi : 0 < index)
    (hfine : 10 ^ 16 * (10 ^ exponent.toNat * one) ≤
      Grid.steps precision index * 10 ^ (-exponent).toNat) :
    readsBack index exponent (pointBelow index exponent) = true ∨
      readsBack index exponent (pointBelow index exponent + 1) = true := by
  have hspacing : 0 < 10 ^ exponent.toNat * one :=
    Nat.mul_pos (Nat.pow_pos (by decide)) Binary64.one_pos
  have hup : 0 < 10 ^ (-exponent).toNat := Nat.pow_pos (by decide)
  have hprevious := Grid.steps_lt_succ precision (index - 1)
  rw [Nat.sub_add_cancel hi] at hprevious
  have hgap := Nat.mul_lt_mul_of_pos_right (steps_gap hi) hup
  have hlow := Nat.mul_lt_mul_of_pos_right hprevious hup
  have hhigh := Nat.mul_lt_mul_of_pos_right (Grid.steps_lt_succ precision index) hup
  have hle := Nat.div_mul_le_self (Grid.steps precision index * 10 ^ (-exponent).toNat)
    (10 ^ exponent.toNat * one)
  have hlt := Nat.lt_div_mul_add hspacing
    (a := Grid.steps precision index * 10 ^ (-exponent).toNat)
  unfold readsBack pointBelow
  dsimp only [Nat.pow_eq]
  simp only [Nat.add_mul, Nat.one_mul, Nat.mul_assoc] at hgap ⊢
  generalize Grid.steps precision index * 10 ^ (-exponent).toNat = value at *
  generalize Grid.steps precision (index - 1) * 10 ^ (-exponent).toNat = before at *
  generalize Grid.steps precision (index + 1) * 10 ^ (-exponent).toNat = after at *
  generalize 10 ^ exponent.toNat * one = spacing at *
  generalize value / spacing * spacing = below at *
  -- both points miss only if they are further apart than the middles
  split <;> simp only [Bool.and_eq_true, decide_eq_true_eq] <;> omega

/-- The number, four hundred places to the left, has a leading digit. -/
theorem exists_leadingExponent_eq {index : Nat} (hi : 0 < index) :
    ∃ w : Nat, 0 < w ∧ leadingExponent index = w - 401 ∧
      10 ^ (w - 1) * one ≤ Grid.steps precision index * Nat.pow 10 400 := by
  have hsteps : 0 < Grid.steps precision index := by
    have hlt := Grid.steps_lt_succ precision (index - 1)
    rw [Nat.sub_add_cancel hi] at hlt
    exact Nat.lt_of_le_of_lt (Nat.zero_le _) hlt
  have hshifted : Grid.steps precision index * Nat.pow 10 400 / one ≠ 0 := by
    apply Nat.ne_of_gt
    apply Nat.div_pos _ Binary64.one_pos
    exact Nat.le_trans one_le (Nat.le_mul_of_pos_left _ hsteps)
  refine ⟨width (Grid.steps precision index * Nat.pow 10 400 / one), width_pos _, ?_, ?_⟩
  · rw [leadingExponent]
  · exact Nat.le_trans (Nat.mul_le_mul_right one (pow_width_le hshifted))
      (Nat.div_mul_le_self _ _)

/-- The grid that starts `n` places below the leading digit has at least `10 ^ n` points up to the
number. -/
theorem pow_mul_spacing_le {index : Nat} (hi : 0 < index) (n : Nat) :
    10 ^ n * (10 ^ (leadingExponent index - n).toNat * one) ≤
      Grid.steps precision index * 10 ^ (-(leadingExponent index - n)).toNat := by
  obtain ⟨w, hw, hlead, hle⟩ := exists_leadingExponent_eq hi
  rw [hlead]
  dsimp only [Nat.pow_eq] at hle
  have hexp : n + ((w : Int) - 401 - n).toNat + 400 = w - 1 + (-((w : Int) - 401 - n)).toNat := by
    omega
  generalize ((w : Int) - 401 - n).toNat = up at *
  generalize (-((w : Int) - 401 - n)).toNat = down at *
  generalize 400 = shift at *
  generalize Grid.steps precision index = value at *
  generalize one = unit at *
  refine Nat.le_of_mul_le_mul_right (c := 10 ^ shift) ?_ (Nat.pow_pos (by decide))
  calc 10 ^ n * (10 ^ up * unit) * 10 ^ shift
      = 10 ^ (n + up + shift) * unit := by
        rw [Nat.pow_add, Nat.pow_add]
        ac_rfl
    _ = 10 ^ (w - 1) * unit * 10 ^ down := by rw [hexp, Nat.pow_add, Nat.mul_right_comm]
    _ ≤ value * 10 ^ shift * 10 ^ down := Nat.mul_le_mul_right _ hle
    _ = value * 10 ^ down * 10 ^ shift := Nat.mul_right_comm ..

/-- The last grid that is tried has a point that reads back. -/
theorem exists_onGrid? (tie : Tie) {index : Nat} (hi : 0 < index) :
    ∃ n < enoughDigits, ∃ d, onGrid? tie index (leadingExponent index - n) = some d :=
  ⟨16, by decide,
    exists_onGrid?_eq_some tie (readsBack_of_fine hi (pow_mul_spacing_le hi 16))⟩

/-! ### Reading back -/

theorem nearestIndex_shortest (tie : Tie) (index : Nat) :
    (shortest tie index).nearestIndex = index := by
  unfold shortest
  dsimp only
  rw [nearestIndex_dropZeros]
  cases hfound : (List.range enoughDigits).findSome? fun (n : Nat) =>
    (onGrid? tie index (leadingExponent index - n)).map fun d =>
      (⟨d, leadingExponent index - n⟩ : Decimal) with
  | some d =>
    obtain ⟨n, -, hn⟩ := List.exists_of_findSome?_eq_some hfound
    obtain ⟨digits, hdigits, rfl⟩ := Option.map_eq_some_iff.mp hn
    exact nearestIndex_of_readsBack (readsBack_of_onGrid? hdigits)
  | none =>
    rw [List.findSome?_eq_none_iff] at hfound
    rcases Nat.eq_zero_or_pos index with rfl | hi
    · exact nearestIndex_of_digits_eq_zero rfl
    · obtain ⟨n, hn, d, hd⟩ := exists_onGrid? tie hi
      have hnone := hfound n (List.mem_range.mpr hn)
      rw [hd] at hnone
      cases hnone

/-- **The shortest decimal reads back**, whichever way ties between digits go. -/
theorem toBinary64_shortest (tie : Tie) {x : Binary64} (hx : x.isFinite = true) :
    (shortest tie x.index).toBinary64 x.negative = x := by
  have hle : x.index ≤ infinityIndex := Nat.le_of_lt (Binary64.isFinite_iff.mp hx)
  rw [toBinary64_eq, nearestIndex_shortest, Nat.min_eq_left hle, Binary64.ofIndex_index]

end Telemetry.Decimal
