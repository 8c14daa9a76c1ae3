/-!
# Telemetry.Float.Grid

The **grid of binary floating-point magnitudes**, for any precision.

Design points:

* A magnitude is named by its **index**: its position among the non-negative
  numbers of the format, counted upward from zero. In an interchange format the
  bits below the sign *are* this index, so order on magnitudes is order on `Nat`.
* Values are counted in **steps**, the smallest positive magnitude. Every finite
  number is a whole number of steps (`steps`), so sums and comparisons are exact
  on `Nat` and nothing is rounded before `nearest`.
* `nearest` places a quotient of step counts on the grid: to the nearest
  magnitude, a tie going to the even index. The exponent range has no upper end
  here; a format cuts it off at the index of its infinity.
-/

namespace Telemetry.Grid

/-- The value of index `i` in steps, with `p` bits of significand. Below `2 ^ (p - 1)`
indices are subnormal and count steps one by one; each later block of `2 ^ (p - 1)`
indices is spaced twice as wide as the one before. -/
def steps (p i : Nat) : Nat :=
  let half := Nat.pow 2 (p - 1)
  if i < half then i else (half + i % half) * Nat.pow 2 (i / half - 1)

/-- `num / den` rounded to a whole number, a half going to the even neighbour. -/
def roundQuotient (num den : Nat) : Nat :=
  let q := num / den
  let r := num % den
  if 2 * r < den ∨ (2 * r = den ∧ q % 2 = 0) then q else q + 1

/-- How many low binary digits of the whole part `q` do not fit in `p` bits. -/
def droppedBits (p q : Nat) : Nat := q.log2 - (p - 1)

/-- The index nearest to `num / den` steps, ties to the even index.

The significand rounded at the spacing `2 ^ k` lies in `2 ^ (p - 1) ..= 2 ^ p`
when `k` is positive. Adding it to `k * 2 ^ (p - 1)` gives the index also when
rounding carried into the next block. -/
def nearest (p num den : Nat) : Nat :=
  let k := droppedBits p (num / den)
  k * Nat.pow 2 (p - 1) + roundQuotient num (den * Nat.pow 2 k)

theorem steps_zero (p : Nat) : steps p 0 = 0 := if_pos (Nat.two_pow_pos _)

/-- Subnormal indices and the first normal block count single steps. -/
theorem steps_of_lt {p i : Nat} (h : i < Nat.pow 2 (p - 1)) : steps p i = i := if_pos h

theorem roundQuotient_zero (den : Nat) : roundQuotient 0 den = 0 := by
  cases den <;> simp [roundQuotient]

/-- A quotient that leaves no remainder is not moved by rounding. -/
theorem roundQuotient_mul_self {den : Nat} (h : 0 < den) (q : Nat) :
    roundQuotient (q * den) den = q := by
  simp [roundQuotient, Nat.mul_div_cancel _ h, h]

/-- Rounding moves a quotient by less than one. -/
theorem roundQuotient_eq_or (num den : Nat) :
    roundQuotient num den = num / den ∨ roundQuotient num den = num / den + 1 := by
  unfold roundQuotient
  dsimp only
  split <;> simp

theorem nearest_zero (p den : Nat) : nearest p 0 den = 0 := by
  simp [nearest, droppedBits, roundQuotient_zero]

end Telemetry.Grid
