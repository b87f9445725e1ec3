import AnchoredSet.Number.Double

/-!
The shortest decimal that reads back as a double. Among the decimals of the fewest digits that lie
between the halves of the gaps to the neighbouring doubles, the nearest is taken.
-/

namespace AnchoredSet.Shortest

/-- A positive value with the ends of the reals that round to it, as numerators over one
denominator. The ends belong to the range when `closed`. -/
structure Range where
  low : Nat
  value : Nat
  high : Nat
  den : Nat
  closed : Bool
  deriving Repr

/-- Below a power of two the gap is half as wide as above, unless it is the smallest. -/
def Range.ofDouble (x : Double) : Range :=
  let m := x.mantissa
  let narrow := x.fraction = 0 && x.exponentField > 1
  let up (n : Nat) : Nat := if x.scale < 2 then n else n <<< (x.scale - 2).natAbs
  let den := if x.scale < 2 then 1 <<< (2 - x.scale).natAbs else 1
  ⟨up (4 * m - if narrow then 1 else 2), up (4 * m), up (4 * m + 2), den, m % 2 = 0⟩

def Range.contains (r : Range) (n : Nat) : Bool :=
  if r.closed then decide (r.low ≤ n) && decide (n ≤ r.high)
  else decide (r.low < n) && decide (n < r.high)

def Range.decimalExponent (r : Range) : Int :=
  if r.den ≤ r.value then (toString (r.value / r.den)).length
  else 1 - ((toString ((r.den - 1) / r.value)).length : Int)

/-- The multiple of `10 ^ (exponent - digits)` that lies in the range and is nearest to the value;
of two equally near the even one. -/
def Range.onGrid (r : Range) (exponent : Int) (digits : Nat) : Option Nat :=
  let gap := exponent - digits
  let times := Nat.pow 10 (-gap).toNat
  let unit := r.den * Nat.pow 10 gap.toNat
  let r : Range := ⟨r.low * times, r.value * times, r.high * times, unit, r.closed⟩
  let below := r.value / unit
  let above := below + 1
  let lack := r.value - below * unit
  let excess := above * unit - r.value
  match r.contains (below * unit), r.contains (above * unit) with
  | true, true =>
    if lack < excess || (lack = excess && below % 2 = 0) then some below else some above
  | true, false => some below
  | false, true => some above
  | false, false => none

def withoutZeros : Nat → Nat → Int → Nat × Int
  | 0, n, e => (n, e)
  | fuel + 1, n, e => if n ≠ 0 && n % 10 = 0 then withoutZeros fuel (n / 10) (e + 1) else (n, e)

def Range.shortest (r : Range) : Nat × Int :=
  let exponent := r.decimalExponent
  let found := (List.range 17).findSome? fun k =>
    (r.onGrid exponent (k + 1)).map fun n => (n, exponent - (k + 1))
  let (n, e) := found.getD (0, 0)
  withoutZeros 17 n e

end AnchoredSet.Shortest

namespace AnchoredSet.Double

def pointed (whole decimals : List Char) : String :=
  String.ofList whole ++ "." ++ String.ofList (if decimals.isEmpty then ['0'] else decimals)

/-- A decimal point from `10 ^ -4` up to `10 ^ 16`, an exponent of at least two digits outside. -/
def renderDecimal (n : Nat) (e : Int) : String :=
  let digits := (toString n).toList
  let point := digits.length + e
  if -4 < point ∧ point ≤ 16 then
    if point ≤ 0 then
      pointed ['0'] (List.replicate point.natAbs '0' ++ digits)
    else
      let padded := digits ++ List.replicate (point.toNat - digits.length) '0'
      pointed (padded.take point.toNat) (padded.drop point.toNat)
  else
    let exponent := point - 1
    let size := toString exponent.natAbs
    String.ofList (digits.take 1)
      ++ (if digits.length ≤ 1 then "" else "." ++ String.ofList (digits.drop 1))
      ++ (if exponent < 0 then "e-" else "e+")
      ++ (if size.length < 2 then "0" ++ size else size)

def render (x : Double) : String :=
  let size :=
    if x.isZero then "0.0"
    else if x.isInfinite then "inf"
    else
      let (n, e) := (Shortest.Range.ofDouble x).shortest
      renderDecimal n e
  if x.isNaN then "nan" else if x.negative then "-" ++ size else size

end AnchoredSet.Double
