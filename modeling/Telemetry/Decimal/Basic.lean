import Telemetry.Float.Binary64
/-!
# Telemetry.Decimal.Basic

**Decimal numbers** `digits * 10 ^ exponent`, and the binary64 number nearest to
one. The quotient that is rounded is exact, so a decimal of any length is read
correctly.

This is an idealisation of what a fast reader does with a number that has a fraction
or an exponent: it rounds the digits to a binary64 number, rounds again when it scales
that one by a power of ten, and may end a step away from the nearest number, as it
does for `3e50`.
-/

namespace Telemetry

/-- The non-negative decimal number `digits * 10 ^ exponent`. -/
structure Decimal where
  digits : Nat
  exponent : Int
  deriving DecidableEq

namespace Decimal

/-- How many digits `n` has when written out; one for zero. -/
def width (n : Nat) : Nat := (Nat.toDigits 10 n).length

/-- Decimal exponents from here on are past every finite number. -/
def overflowExponent : Int := 310

/-- Below this decimal exponent every number is nearest to zero. -/
def underflowExponent : Int := -330

/-- The binary64 number nearest to the decimal, with the given sign: the exact value is
rounded, and rounded once. Decimals far
outside the range are settled by their exponent alone, so that no power of ten is
formed for them. -/
def toBinary64 (negative : Bool) (d : Decimal) : Binary64 :=
  let top := d.exponent + width d.digits
  if d.digits = 0 ∨ top < underflowExponent then Binary64.ofIndex negative 0
  else if overflowExponent < top then Binary64.infinity negative
  else if 0 ≤ d.exponent then
    Binary64.round negative (d.digits * Nat.pow 10 d.exponent.toNat * Binary64.one) 1
  else
    Binary64.round negative (d.digits * Binary64.one) (Nat.pow 10 (-d.exponent).toNat)

/-- The digits of a decimal string, read from the left onto `start`. -/
def readDigits (start : Nat) (text : List Char) : Nat :=
  text.foldl (fun n c => 10 * n + (c.toNat - '0'.toNat)) start

end Decimal

end Telemetry
