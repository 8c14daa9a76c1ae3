import Mathlib.Order.MinMax
import Telemetry.Float.Binary64
import Telemetry.Proofs.Float.Grid
/-!
# Telemetry.Proofs.Float.Order

**Rounded arithmetic keeps the order of its operands.** Each operation rounds once, and
rounding to the grid is monotone, so adding a finite number and multiplying or dividing by a
scale are monotone as well, up to infinity and down to its negative.

`Binary64.Le` is the order of the numbers that are not NaN, in which the two zeros are
equal. Ranks, step counts and whole parts are all a magnitude with the sign of the number
(`signed`), which is why one lemma, `signed_mono`, serves them all.
-/

namespace Telemetry

/-! ### Signs -/

/-- A magnitude with a sign. -/
def signed (negative : Bool) (n : Nat) : Int := if negative then -(n : Int) else n

theorem signed_natAbs (z : Int) : signed (decide (z < 0)) z.natAbs = z := by
  unfold signed
  by_cases hz : z < 0
  · rw [if_pos (decide_eq_true hz)]
    omega
  · rw [if_neg (by simpa using hz)]
    omega

/-- A monotone function of the magnitude that keeps zero is monotone in the signed number. -/
theorem signed_mono {g : Nat → Nat} (hg : Monotone g) (hzero : g 0 = 0) {b c : Bool} {m n : Nat}
    (h : signed b m ≤ signed c n) : signed b (g m) ≤ signed c (g n) := by
  cases b <;> cases c <;> simp only [signed, if_true, if_neg Bool.false_ne_true] at h ⊢
  · exact Int.ofNat_le.mpr (hg (Int.ofNat_le.mp h))
  · -- a number that is not negative is at most one that is not positive
    obtain ⟨rfl, rfl⟩ : m = 0 ∧ n = 0 := by omega
    simp [hzero]
  · omega
  · exact Int.neg_le_neg (Int.ofNat_le.mpr (hg (Int.ofNat_le.mp (Int.neg_le_neg_iff.mp h))))

theorem zero_le_signed {g : Nat → Nat} (hg : Monotone g) (hzero : g 0 = 0) {b : Bool} {n : Nat}
    (h : 0 ≤ signed b n) : 0 ≤ signed b (g n) := by
  have hle := signed_mono hg hzero (b := false) (m := 0) h
  rw [hzero] at hle
  exact hle

/-- A bit pattern is the bits below the sign and the sign bit. -/
theorem mod_add_weight {n weight : Nat} (h : n < 2 * weight) :
    (n % weight + if decide (weight ≤ n) then weight else 0) = n := by
  by_cases hneg : weight ≤ n
  · rw [if_pos (decide_eq_true hneg), Nat.mod_eq_sub_mod hneg, Nat.mod_eq_of_lt (by omega),
      Nat.sub_add_cancel hneg]
  · rw [if_neg (by simpa using hneg), Nat.mod_eq_of_lt (by omega), Nat.add_zero]

namespace Binary64

/-! ### Units -/

/-- The number one is a power of two in steps. -/
theorem exists_one_eq : ∃ e, one = 2 ^ e := by
  unfold one
  generalize 1074 = e
  exact ⟨e, rfl⟩

protected theorem one_pos : 0 < one := by
  obtain ⟨e, he⟩ := exists_one_eq
  rw [he]
  exact Nat.two_pow_pos e

/-! ### Fields of a number -/

theorem toNat_bits_ofIndex (b : Bool) {i : Nat} (h : i < signWeight) :
    (ofIndex b i).bits.toNat = i + if b then signWeight else 0 := by
  unfold ofIndex
  dsimp only
  apply UInt64.toNat_ofNat_of_lt'
  have hsize : UInt64.size = 2 * signWeight := rfl
  rw [hsize]
  split <;> omega

theorem index_ofIndex (b : Bool) {i : Nat} (h : i < signWeight) : (ofIndex b i).index = i := by
  rw [index, toNat_bits_ofIndex b h]
  cases b
  · exact Nat.mod_eq_of_lt h
  · rw [if_pos rfl, Nat.add_mod_right, Nat.mod_eq_of_lt h]

theorem negative_ofIndex (b : Bool) {i : Nat} (h : i < signWeight) :
    (ofIndex b i).negative = b := by
  rw [negative, toNat_bits_ofIndex b h]
  cases b
  · exact decide_eq_false (Nat.not_le.mpr h)
  · exact decide_eq_true (Nat.le_add_left _ _)

theorem index_lt (x : Binary64) : x.index < signWeight := Nat.mod_lt _ (by decide)

/-- A number is its sign and its index. -/
theorem ofIndex_index (x : Binary64) : ofIndex x.negative x.index = x := by
  rw [ofIndex, index, negative, mod_add_weight x.bits.toNat_lt, UInt64.ofNat_toNat]

theorem isFinite_iff {x : Binary64} : x.isFinite = true ↔ x.index < infinityIndex :=
  decide_eq_true_iff

theorem isNaN_eq_false_iff {x : Binary64} : x.isNaN = false ↔ x.index ≤ infinityIndex := by
  rw [isNaN, decide_eq_false_iff_not, Nat.not_lt]

theorem isNaN_of_isFinite {x : Binary64} (h : x.isFinite = true) : x.isNaN = false :=
  isNaN_eq_false_iff.mpr (Nat.le_of_lt (isFinite_iff.mp h))

/-- What is neither finite nor NaN is infinite. -/
theorem index_eq_infinityIndex {x : Binary64} (hx : x.isNaN = false)
    (hfinite : ¬ x.isFinite = true) : x.index = infinityIndex :=
  Nat.le_antisymm (isNaN_eq_false_iff.mp hx)
    (Nat.not_lt.mp fun hlt => hfinite (isFinite_iff.mpr hlt))

theorem infinityIndex_lt : infinityIndex < signWeight := by decide

@[simp]
theorem index_neg (x : Binary64) : x.neg.index = x.index := index_ofIndex _ x.index_lt

@[simp]
theorem negative_neg (x : Binary64) : x.neg.negative = !x.negative :=
  negative_ofIndex _ x.index_lt

@[simp]
theorem isFinite_neg (x : Binary64) : x.neg.isFinite = x.isFinite := by
  rw [isFinite, index_neg, isFinite]

theorem toInt_neg (x : Binary64) : x.neg.toInt = -x.toInt := by
  unfold toInt steps
  rw [index_neg, negative_neg]
  cases x.negative <;> simp

/-! ### Order -/

/-- The position of a number that is not NaN among all of them. Both zeros are at zero. -/
def rank (x : Binary64) : Int := signed x.negative x.index

theorem rank_bounds {x : Binary64} (hx : x.isNaN = false) :
    -(infinityIndex : Int) ≤ x.rank ∧ x.rank ≤ infinityIndex := by
  have hle := isNaN_eq_false_iff.mp hx
  unfold rank signed
  split <;> omega

/-- The finite numbers lie between the infinities. -/
theorem isFinite_iff_rank {x : Binary64} :
    x.isFinite = true ↔ -(infinityIndex : Int) < x.rank ∧ x.rank < infinityIndex := by
  rw [isFinite_iff]
  unfold rank signed
  split <;> omega

/-- The order of the numbers that are not NaN. -/
structure Le (x y : Binary64) : Prop where
  left : x.isNaN = false
  right : y.isNaN = false
  rank_le : x.rank ≤ y.rank

theorem Le.trans {x y z : Binary64} (hxy : x.Le y) (hyz : y.Le z) : x.Le z :=
  ⟨hxy.left, hyz.right, Int.le_trans hxy.rank_le hyz.rank_le⟩

theorem le_refl {x : Binary64} (hx : x.isNaN = false) : x.Le x := ⟨hx, hx, Int.le_refl _⟩

theorem zero_le_iff {x : Binary64} : zero.Le x ↔ x.isNaN = false ∧ 0 ≤ x.rank := by
  have hrank : zero.rank = 0 := by decide
  constructor
  · intro h
    exact ⟨h.right, by rw [← hrank]; exact h.rank_le⟩
  · rintro ⟨hx, hle⟩
    exact ⟨by decide, hx, by rw [hrank]; exact hle⟩

/-- What lies between two finite numbers is finite. -/
theorem Le.isFinite_of_ge {x y z : Binary64} (hyz : y.Le z) (hxy : x.Le y)
    (hx : x.isFinite = true) (hz : z.isFinite = true) : y.isFinite = true := by
  rw [isFinite_iff_rank] at hx hz ⊢
  have hlow := hxy.rank_le
  have hhigh := hyz.rank_le
  omega

/-- The largest finite number. -/
def largest : Binary64 := ofIndex false (infinityIndex - 1)

theorem rank_largest : largest.rank = infinityIndex - 1 := by decide

theorem le_largest {x : Binary64} (hx : x.isFinite = true) : x.Le largest := by
  have hrank := rank_largest
  have hlt := (isFinite_iff_rank.mp hx).2
  exact ⟨isNaN_of_isFinite hx, by decide, by omega⟩

/-- Numbers are in the order of their ranks, so their step counts are as well. -/
theorem Le.toInt_le {x y : Binary64} (h : x.Le y) : x.toInt ≤ y.toInt :=
  signed_mono (Grid.steps_mono precision) (Grid.steps_zero precision) h.rank_le

/-! ### Rounding -/

/-- The index that `num / den` steps round to, at most that of infinity. -/
def roundIndex (num den : Nat) : Nat := min (Grid.nearest precision num den) infinityIndex

theorem roundIndex_le (num den : Nat) : roundIndex num den ≤ infinityIndex := Nat.min_le_right _ _

theorem roundIndex_mono (den : Nat) : Monotone fun num => roundIndex num den :=
  fun _ _ h => min_le_min (Grid.nearest_mono precision den h) (Nat.le_refl _)

theorem roundIndex_zero (den : Nat) : roundIndex 0 den = 0 := by
  rw [roundIndex, Grid.nearest_zero, Nat.zero_min]

theorem roundIndex_steps {x : Binary64} (hx : x.isNaN = false) :
    roundIndex x.steps 1 = x.index := by
  rw [roundIndex, steps, Grid.nearest_steps]
  exact Nat.min_eq_left (isNaN_eq_false_iff.mp hx)

theorem index_round (b : Bool) (num den : Nat) : (round b num den).index = roundIndex num den :=
  index_ofIndex b (Nat.lt_of_le_of_lt (roundIndex_le num den) infinityIndex_lt)

theorem negative_round (b : Bool) (num den : Nat) : (round b num den).negative = b :=
  negative_ofIndex b (Nat.lt_of_le_of_lt (roundIndex_le num den) infinityIndex_lt)

theorem isNaN_round (b : Bool) (num den : Nat) : (round b num den).isNaN = false := by
  rw [isNaN_eq_false_iff, index_round]
  exact roundIndex_le num den

theorem rank_round (b : Bool) (num den : Nat) :
    (round b num den).rank = signed b (roundIndex num den) := by
  rw [rank, negative_round, index_round]

theorem isNaN_and_rank_infinity (b : Bool) :
    (infinity b).isNaN = false ∧ (infinity b).rank = signed b infinityIndex := by
  unfold infinity
  rw [isNaN_eq_false_iff, rank, index_ofIndex b infinityIndex_lt,
    negative_ofIndex b infinityIndex_lt]
  exact ⟨Nat.le_refl _, rfl⟩

/-- The rank of the number nearest to a whole number of steps. -/
def roundRank (z : Int) : Int := signed (decide (z < 0)) (roundIndex z.natAbs 1)

theorem roundRank_mono {y z : Int} (h : y ≤ z) : roundRank y ≤ roundRank z := by
  apply signed_mono (roundIndex_mono 1) (roundIndex_zero 1)
  rw [signed_natAbs, signed_natAbs]
  exact h

/-- A number is the nearest one to its own value. -/
theorem roundRank_toInt {x : Binary64} (hx : x.isNaN = false) : roundRank x.toInt = x.rank := by
  have hsame : signed (decide (x.toInt < 0)) x.toInt.natAbs = signed x.negative x.steps :=
    signed_natAbs x.toInt
  rw [rank, ← roundIndex_steps hx, roundRank]
  exact le_antisymm
    (signed_mono (roundIndex_mono 1) (roundIndex_zero 1) (Int.le_of_eq hsame))
    (signed_mono (roundIndex_mono 1) (roundIndex_zero 1) (Int.le_of_eq hsame.symm))

theorem roundRank_le (z : Int) :
    -(infinityIndex : Int) ≤ roundRank z ∧ roundRank z ≤ infinityIndex := by
  have hle := roundIndex_le z.natAbs 1
  unfold roundRank signed
  split <;> omega

/-! ### Scaling -/

/-- A scale: finite and above zero. -/
structure IsScale (x : Binary64) : Prop where
  finite : x.isFinite = true
  positive : x.isPositive = true

theorem IsScale.negative_eq {x : Binary64} (h : x.IsScale) : x.negative = false := by
  have hpos := h.positive
  simp only [isPositive, Bool.and_eq_true, Bool.not_eq_true'] at hpos
  exact hpos.1.1

theorem IsScale.index_ne_zero {x : Binary64} (h : x.IsScale) : x.index ≠ 0 := by
  have hpos := h.positive
  simp only [isPositive, Bool.and_eq_true, decide_eq_true_eq] at hpos
  exact hpos.2

/-- What an operation with a scale does to an index: it rounds a multiple of the step count,
and keeps infinity. -/
def scaleIndex (num den i : Nat) : Nat :=
  if i < infinityIndex then roundIndex (Grid.steps precision i * num) den else infinityIndex

theorem scaleIndex_mono (num den : Nat) : Monotone (scaleIndex num den) := by
  intro i j hij
  unfold scaleIndex
  by_cases hj : j < infinityIndex
  · rw [if_pos hj, if_pos (Nat.lt_of_le_of_lt hij hj)]
    exact roundIndex_mono den (Nat.mul_le_mul_right num (Grid.steps_mono precision hij))
  · rw [if_neg hj]
    split
    · exact roundIndex_le _ _
    · exact Nat.le_refl _

theorem scaleIndex_zero (num den : Nat) : scaleIndex num den 0 = 0 := by
  rw [scaleIndex, if_pos (by decide), Grid.steps_zero, Nat.zero_mul, roundIndex_zero]

theorem mul_scale {x y : Binary64} (hx : x.isNaN = false) (hy : y.IsScale) :
    (x * y).isNaN = false ∧
      (x * y).rank = signed x.negative (scaleIndex y.steps one x.index) := by
  show (mul x y).isNaN = false ∧ (mul x y).rank = _
  unfold mul scaleIndex
  rw [hx, isNaN_of_isFinite hy.finite, hy.negative_eq, hy.finite, Bool.bne_false]
  by_cases hfinite : x.isFinite = true
  · simp only [hfinite, isFinite_iff.mp hfinite, Bool.or_self, Bool.not_true,
      if_neg Bool.false_ne_true, if_true]
    exact ⟨isNaN_round _ _ _, rank_round _ _ _⟩
  · -- an infinity stays what it is, since a scale is not zero
    have hindex := index_eq_infinityIndex hx hfinite
    have hnonzero : (x.index = 0 || y.index = 0) = false := by
      simp [hindex, hy.index_ne_zero, infinityIndex]
    simp only [hfinite, hnonzero, Bool.or_self, Bool.not_false, Bool.true_or, Bool.not_true,
      if_neg Bool.false_ne_true, if_true]
    rw [if_neg (by rw [hindex]; exact Nat.lt_irrefl _)]
    exact isNaN_and_rank_infinity _

theorem div_scale {x y : Binary64} (hx : x.isNaN = false) (hy : y.IsScale) :
    (x / y).isNaN = false ∧
      (x / y).rank = signed x.negative (scaleIndex one y.steps x.index) := by
  show (div x y).isNaN = false ∧ (div x y).rank = _
  unfold div scaleIndex
  rw [hx, isNaN_of_isFinite hy.finite, hy.negative_eq, hy.finite, Bool.bne_false]
  by_cases hfinite : x.isFinite = true
  · simp only [hfinite, isFinite_iff.mp hfinite, hy.index_ne_zero, Bool.or_self, Bool.not_true,
      if_neg Bool.false_ne_true, if_true, if_false]
    exact ⟨isNaN_round _ _ _, rank_round _ _ _⟩
  · have hindex := index_eq_infinityIndex hx hfinite
    simp only [hfinite, Bool.or_self, Bool.not_false, if_neg Bool.false_ne_true, if_true]
    rw [if_neg (by rw [hindex]; exact Nat.lt_irrefl _)]
    exact isNaN_and_rank_infinity _

theorem Le.mul_scale {x y s : Binary64} (h : x.Le y) (hs : s.IsScale) : (x * s).Le (y * s) := by
  obtain ⟨hx, hrankx⟩ := Binary64.mul_scale h.left hs
  obtain ⟨hy, hranky⟩ := Binary64.mul_scale h.right hs
  refine ⟨hx, hy, ?_⟩
  rw [hrankx, hranky]
  exact signed_mono (scaleIndex_mono _ _) (scaleIndex_zero _ _) h.rank_le

theorem Le.div_scale {x y s : Binary64} (h : x.Le y) (hs : s.IsScale) : (x / s).Le (y / s) := by
  obtain ⟨hx, hrankx⟩ := Binary64.div_scale h.left hs
  obtain ⟨hy, hranky⟩ := Binary64.div_scale h.right hs
  refine ⟨hx, hy, ?_⟩
  rw [hrankx, hranky]
  exact signed_mono (scaleIndex_mono _ _) (scaleIndex_zero _ _) h.rank_le

theorem Le.zero_le_mul_scale {x s : Binary64} (h : zero.Le x) (hs : s.IsScale) :
    zero.Le (x * s) := by
  obtain ⟨hx, hrank⟩ := Binary64.mul_scale h.right hs
  rw [zero_le_iff, hrank]
  exact ⟨hx, zero_le_signed (scaleIndex_mono _ _) (scaleIndex_zero _ _) (zero_le_iff.mp h).2⟩

theorem zero_mul_scale_le {s : Binary64} (hs : s.IsScale) : (zero * s).Le zero := by
  have hzero : zero.index = 0 := by decide
  obtain ⟨hx, hrank⟩ := Binary64.mul_scale (x := zero) (by decide) hs
  rw [hzero, scaleIndex_zero] at hrank
  exact ⟨hx, by decide, Int.le_of_eq hrank⟩

theorem Le.zero_le_div_scale {x s : Binary64} (h : zero.Le x) (hs : s.IsScale) :
    zero.Le (x / s) := by
  obtain ⟨hx, hrank⟩ := Binary64.div_scale h.right hs
  rw [zero_le_iff, hrank]
  exact ⟨hx, zero_le_signed (scaleIndex_mono _ _) (scaleIndex_zero _ _) (zero_le_iff.mp h).2⟩

/-! ### Shifting -/

theorem add_shift {x b : Binary64} (hx : x.isNaN = false) (hb : b.isFinite = true) :
    (x + b).isNaN = false ∧
      (x + b).rank = if x.isFinite then roundRank (x.toInt + b.toInt) else x.rank := by
  show (add x b).isNaN = false ∧ (add x b).rank = _
  unfold add
  rw [hx, isNaN_of_isFinite hb, hb]
  by_cases hfinite : x.isFinite = true
  · simp only [hfinite, Bool.or_self, Bool.not_true, if_neg Bool.false_ne_true, if_true]
    by_cases hsum : x.toInt + b.toInt = 0
    · -- an exact zero may have either sign, which the rank does not see
      rw [if_pos hsum, hsum]
      have hzero : (0 : Nat) < signWeight := by decide
      rw [isNaN_eq_false_iff, rank, index_ofIndex _ hzero, negative_ofIndex _ hzero]
      refine ⟨Nat.zero_le _, ?_⟩
      simp [roundRank, roundIndex_zero, signed]
    · rw [if_neg hsum]
      exact ⟨isNaN_round _ _ _, rank_round _ _ _⟩
  · simp [hfinite, hx]

theorem Le.add_shift {x y b : Binary64} (h : x.Le y) (hb : b.isFinite = true) :
    (x + b).Le (y + b) := by
  obtain ⟨hx, hrankx⟩ := Binary64.add_shift h.left hb
  obtain ⟨hy, hranky⟩ := Binary64.add_shift h.right hb
  refine ⟨hx, hy, ?_⟩
  have hlow := rank_bounds h.left
  have hhigh := rank_bounds h.right
  have hle := h.rank_le
  rw [hrankx, hranky]
  by_cases hfx : x.isFinite = true
  · have hx := isFinite_iff_rank.mp hfx
    rw [if_pos hfx]
    by_cases hfy : y.isFinite = true
    · rw [if_pos hfy]
      exact roundRank_mono (Int.add_le_add_right h.toInt_le _)
    · -- what is above a finite number is finite or the positive infinity
      have hy := isFinite_iff_rank.not.mp hfy
      have hround := roundRank_le (x.toInt + b.toInt)
      rw [if_neg hfy]
      omega
  · have hx := isFinite_iff_rank.not.mp hfx
    rw [if_neg hfx]
    split
    · rename_i hfy
      have hy := isFinite_iff_rank.mp hfy
      have hround := roundRank_le (y.toInt + b.toInt)
      omega
    · exact hle

/-- What is not below zero is not below a number that it is added to. -/
theorem Le.le_add {x b : Binary64} (h : zero.Le x) (hb : b.isFinite = true) : b.Le (x + b) := by
  have hsum := h.add_shift hb
  obtain ⟨hnan, hrank⟩ := Binary64.add_shift h.left hb
  have hzero : zero.toInt = 0 := by decide
  rw [if_pos (by decide), hzero, Int.zero_add, roundRank_toInt (isNaN_of_isFinite hb)] at hrank
  exact ⟨isNaN_of_isFinite hb, hsum.right, by rw [← hrank]; exact hsum.rank_le⟩

theorem Le.sub_shift {x y b : Binary64} (h : x.Le y) (hb : b.isFinite = true) :
    (x - b).Le (y - b) :=
  h.add_shift (b := b.neg) (by rw [isFinite_neg, hb])

theorem rank_sub_self {b : Binary64} (hb : b.isFinite = true) : (b - b).rank = 0 := by
  have hsub := (Binary64.add_shift (isNaN_of_isFinite hb)
    (b := b.neg) (by rw [isFinite_neg, hb])).2
  rw [if_pos hb, toInt_neg, Int.add_right_neg] at hsub
  exact hsub

/-- What is not below a number has a difference from it that is not below zero. -/
theorem Le.zero_le_sub {x b : Binary64} (h : b.Le x) (hb : b.isFinite = true) :
    zero.Le (x - b) := by
  have hsub := h.sub_shift hb
  rw [zero_le_iff, ← rank_sub_self hb]
  exact ⟨hsub.right, hsub.rank_le⟩

theorem sub_self_le {b : Binary64} (hb : b.isFinite = true) : (b - b).Le zero := by
  have hsub := (Binary64.add_shift (isNaN_of_isFinite hb)
    (b := b.neg) (by rw [isFinite_neg, hb])).1
  exact ⟨hsub, by decide, Int.le_of_eq (rank_sub_self hb)⟩

/-! ### Whole numbers -/

/-- The magnitude of a finite number rounded to a whole one. -/
def wholeIndex (steps : Nat) : Nat := (2 * steps + one) / (2 * one)

theorem wholeIndex_mono : Monotone wholeIndex :=
  fun _ _ h => Nat.div_le_div_right (Nat.add_le_add_right (Nat.mul_le_mul_left 2 h) one)

theorem wholeIndex_zero : wholeIndex 0 = 0 := by
  have hhalf : ∀ n, 0 < n → (2 * 0 + n) / (2 * n) = 0 := fun n hn => Nat.div_eq_of_lt (by omega)
  exact hhalf one (by decide +kernel)

theorem roundToInt?_zero : zero.roundToInt? = some 0 := by
  have hsteps : zero.steps = 0 := Grid.steps_zero precision
  have hwhole : (2 * zero.steps + one) / (2 * one) = 0 := by
    rw [hsteps]
    exact wholeIndex_zero
  rw [roundToInt?, if_pos (by decide), hwhole]
  rfl

theorem roundToInt?_eq {x : Binary64} (hx : x.isFinite = true) :
    x.roundToInt? = some (signed x.negative (wholeIndex x.steps)) := by
  rw [roundToInt?, if_pos hx]
  rfl

/-- A number between zero and one that rounds to a whole number rounds to one itself,
which is not past that of the other. -/
theorem Le.roundToInt? {x y : Binary64} {n : Int} (h : x.Le y) (hx : zero.Le x)
    (hy : y.roundToInt? = some n) : ∃ m, x.roundToInt? = some m ∧ 0 ≤ m ∧ m ≤ n := by
  have hfy : y.isFinite = true := by
    by_contra hinfinite
    rw [Binary64.roundToInt?, if_neg hinfinite] at hy
    exact absurd hy (by simp)
  have hfx : x.isFinite = true := h.isFinite_of_ge hx (by decide) hfy
  rw [roundToInt?_eq hfy] at hy
  obtain rfl := Option.some.inj hy
  refine ⟨_, roundToInt?_eq hfx, ?_, ?_⟩
  · have hnonneg : 0 ≤ signed x.negative x.steps :=
      zero_le_signed (Grid.steps_mono _) (Grid.steps_zero _) (zero_le_iff.mp hx).2
    exact zero_le_signed wholeIndex_mono wholeIndex_zero hnonneg
  · exact signed_mono wholeIndex_mono wholeIndex_zero h.toInt_le

theorem ofNat_eq (n : Nat) : ofNat n = round false (n * one) 1 := by
  unfold ofNat ofInt
  rw [decide_eq_false (Int.not_lt.mpr (Int.natCast_nonneg n)), Int.natAbs_natCast]

theorem ofNat_le {m n : Nat} (h : m ≤ n) : (ofNat m).Le (ofNat n) := by
  rw [ofNat_eq, ofNat_eq]
  refine ⟨isNaN_round _ _ _, isNaN_round _ _ _, ?_⟩
  rw [rank_round, rank_round]
  exact Int.ofNat_le.mpr (roundIndex_mono 1 (Nat.mul_le_mul_right one h))

theorem zero_le_ofNat (n : Nat) : zero.Le (ofNat n) := by
  rw [zero_le_iff, ofNat_eq, rank_round]
  exact ⟨isNaN_round _ _ _, Int.natCast_nonneg _⟩

/-- A whole number of 64 bits is far below the largest finite number. -/
theorem isFinite_ofInt {n : Int} (h : n.natAbs ≤ 2 ^ 64) : (ofInt n).isFinite = true := by
  have hlarge : roundIndex (2 ^ 64 * one) 1 < infinityIndex := by decide +kernel
  rw [isFinite_iff, ofInt, index_round]
  exact Nat.lt_of_le_of_lt (roundIndex_mono 1 (Nat.mul_le_mul_right one h)) hlarge

/-- A whole number that is not zero does not round to zero. -/
theorem isPositive_ofNat {n : Nat} (h : 0 < n) : (ofNat n).isPositive = true := by
  have hone : 0 < roundIndex (1 * one) 1 := by decide +kernel
  have hindex : 0 < roundIndex (n * one) 1 :=
    Nat.lt_of_lt_of_le hone (roundIndex_mono 1 (Nat.mul_le_mul_right one h))
  rw [ofNat_eq, isPositive, negative_round, isNaN_round, index_round]
  simp [Nat.ne_of_gt hindex]

end Binary64

end Telemetry
