import Telemetry.Decimal.Shortest
/-!
# Telemetry.Decimal.Layout

**How the digits of a number are set out**: positional or with an exponent, with or
without a fraction on whole numbers. A `Layout` collects these decisions; each kind
of output names the one it uses.
-/

namespace Telemetry

/-- The decisions of a number format. -/
structure Layout where
  /-- Which digits an exact tie between two shortest decimals gets. -/
  tie : Tie
  /-- The lowest exponent of the leading digit that is written positionally; every
  lower one is when there is none. -/
  positionalFrom : Option Int
  /-- The highest exponent of the leading digit that is written positionally. -/
  positionalTo : Option Int
  /-- Whether a whole number written positionally gets the fraction `.0`. -/
  wholeFraction : Bool
  /-- Whether a non-negative exponent is written with a plus sign. -/
  exponentPlus : Bool

namespace Layout

def zeros (n : Nat) : List Char := List.replicate n '0'

/-- The digits `ds`, the last of weight `10 ^ exponent`, without an exponent part. -/
def positional (l : Layout) (ds : List Char) (exponent : Int) : List Char :=
  if 0 ≤ exponent then
    ds ++ zeros exponent.toNat ++ if l.wholeFraction then ['.', '0'] else []
  else
    let places := (-exponent).toNat
    let padded := zeros (places + 1 - ds.length) ++ ds
    padded.take (padded.length - places) ++ '.' :: padded.drop (padded.length - places)

/-- The digits `ds` with one digit before the point and the exponent of the leading
digit after them. -/
def scientific (l : Layout) (ds : List Char) (lead : Int) : List Char :=
  let fraction := if ds.length ≤ 1 then [] else '.' :: ds.drop 1
  let sign := if lead < 0 then ['-'] else if l.exponentPlus then ['+'] else []
  ds.take 1 ++ fraction ++ 'e' :: sign ++ Nat.toDigits 10 lead.natAbs

/-- The text of a non-negative decimal. -/
def decimal (l : Layout) (d : Decimal) : List Char :=
  let ds := Nat.toDigits 10 d.digits
  let lead := d.exponent + ds.length - 1
  if d.digits = 0 then l.positional ['0'] 0
  else if l.positionalFrom.all (· ≤ lead) && l.positionalTo.all (lead ≤ ·) then
    l.positional ds d.exponent
  else l.scientific ds lead

/-- The text of a number. -/
def text (l : Layout) (x : Binary64) : String :=
  if x.isNaN then "NaN"
  else
    let sign := if x.negative then ['-'] else []
    let magnitude :=
      if x.isFinite then l.decimal (Decimal.shortest l.tie x.index) else ['i', 'n', 'f']
    String.ofList (sign ++ magnitude)

end Layout

end Telemetry
