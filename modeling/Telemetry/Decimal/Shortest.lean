import Telemetry.Decimal.Basic
/-!
# Telemetry.Decimal.Shortest

The **shortest decimal that reads back** as a given binary64 number, and of those
the one nearest to it.

For one digit, two digits and so on, the number is laid on the decimal grid of that
many digits. If any point of a grid lies among the reals that round to the number,
so does one of the two grid points next to it, so only those two are tried. The
first grid with a hit gives the digits. The ends of the interval count exactly when
the number's index is even, because a tie is rounded to the even index.
-/

namespace Telemetry

/-- Which of two equally near neighbours is taken. -/
inductive Tie
  | even
  | upper
  deriving DecidableEq

namespace Decimal

/-- Seventeen significant digits tell all binary64 numbers apart. -/
def enoughDigits : Nat := 17

/-- The exponent of the leading decimal digit of the finite magnitude with this
index. Shifting by four hundred places makes every positive magnitude a whole
number of at least one digit. -/
def leadingExponent (index : Nat) : Int :=
  width (Grid.steps Binary64.precision index * Nat.pow 10 400 / Binary64.one) - 401

/-- The point of the decimal grid `10 ^ exponent` that reads back as the magnitude
with this index, if one does: of two, the nearer. -/
def onGrid? (tie : Tie) (index : Nat) (exponent : Int) : Option Nat :=
  let steps := Grid.steps Binary64.precision
  let up := Nat.pow 10 (-exponent).toNat
  let spacing := Nat.pow 10 exponent.toNat * Binary64.one
  let value := steps index * up
  -- the ends of the interval are midpoints, so they and the candidate are compared doubled
  let low := (steps (index - 1) + steps index) * up
  let high := (steps index + steps (index + 1)) * up
  let readsBack (d : Nat) : Bool :=
    let twice := 2 * (d * spacing)
    if index % 2 = 0 then low ≤ twice && twice ≤ high else low < twice && twice < high
  let below := value / spacing
  let rest := 2 * (value % spacing)
  let upperIsNearer : Bool :=
    rest > spacing || (rest == spacing && (tie == .upper || below % 2 == 1))
  match readsBack below, readsBack (below + 1) with
  | true, true => some (if upperIsNearer then below + 1 else below)
  | true, false => some below
  | false, true => some (below + 1)
  | false, false => none

/-- Drops the zeros at the end of the digits; `fuel` bounds how many. -/
def dropZeros : Nat → Decimal → Decimal
  | 0, d => d
  | fuel + 1, d =>
    if d.digits ≠ 0 ∧ d.digits % 10 = 0 then
      dropZeros fuel ⟨d.digits / 10, d.exponent + 1⟩
    else d

/-- The shortest decimal that reads back as the finite magnitude with this index. -/
def shortest (tie : Tie) (index : Nat) : Decimal :=
  let lead := leadingExponent index
  let found := (List.range enoughDigits).findSome? fun (n : Nat) =>
    (onGrid? tie index (lead - n)).map fun d => (⟨d, lead - n⟩ : Decimal)
  dropZeros enoughDigits (found.getD ⟨0, 0⟩)

end Decimal

end Telemetry
