import TestCluster.Number.Binary64
import TestCluster.Text.Numeral

/-!
# Shortest decimals — the fewest digits that read back as a double

    The decimals that round to a double fill an interval around it. For one digit, two
    digits and so on, the two decimals next to the double on that grid are tried; the first
    grid with one of them inside the interval gives the digits, the nearer one if both are.
-/

namespace TestCluster.Binary64

/-- Decimal digits, as a natural number, times a power of ten. -/
structure Decimal where
  digits : Nat
  exponent : Int
  deriving DecidableEq, Repr

/-- The interval of values that round to a double, in quarters of `2 ^ q`: from `4 * m`
    down by one or two quarters and up by two, the ends included when `m` is even. -/
structure Interval where
  low : Nat
  middle : Nat
  high : Nat
  closed : Bool
  deriving Repr

/-- The interval of values that round to `m * 2 ^ q`. -/
def intervalOf (m : Nat) (q : Int) : Interval where
  low := if m = twoTo 52 ∧ q ≠ -1074 then 4 * m - 1 else 4 * m - 2
  middle := 4 * m
  high := 4 * m + 2
  closed := m % 2 == 0

/-- Whether `a / b` lies in the interval, whose unit is `unitNum / unitDen`. -/
def Interval.holds (i : Interval) (unitNum unitDen a b : Nat) : Bool :=
  let low := i.low * unitNum * b
  let high := i.high * unitNum * b
  let x := a * unitDen
  if i.closed then decide (low ≤ x ∧ x ≤ high) else decide (low < x ∧ x < high)

/-- The digits before which the value `num / den` has `count` digits left of the point:
    the exponent of its grid of `count` digits. `num / den` lies in
    `[10 ^ (e - 1), 10 ^ e)` for the `e` given. -/
def gridExponent (e : Int) (count : Nat) : Int := e - count

/-- The least `e` of `from`, `from + 1`, … with `num / den < 10 ^ e`. -/
def magnitudeFrom (num den : Nat) : Nat → Int → Int
  | 0, e => e
  | fuel + 1, e =>
    if num * tenTo (-e).toNat < den * tenTo e.toNat then e else magnitudeFrom num den fuel (e + 1)

/-- Tries the grids of `count`, `count + 1`, … digits. -/
def shortestFrom (i : Interval) (unitNum unitDen : Nat) (e : Int) : Nat → Nat → Option Decimal
  | 0, _ => none
  | fuel + 1, count =>
    let k := gridExponent e count
    let up := tenTo k.toNat
    let down := tenTo (-k).toNat
    -- the value is `middle * unitNum / unitDen`; a grid point `d` is `d * up / down`
    let num := i.middle * unitNum * down
    let den := unitDen * up
    let below := num / den
    let above := below + 1
    let inBelow := i.holds unitNum unitDen (below * up) down
    let inAbove := i.holds unitNum unitDen (above * up) down
    let r := num % den
    if inBelow && inAbove then
      some ⟨if 2 * r < den ∨ (2 * r = den ∧ below % 2 = 0) then below else above, k⟩
    else if inBelow then some ⟨below, k⟩
    else if inAbove then some ⟨above, k⟩
    else shortestFrom i unitNum unitDen e fuel (count + 1)

/-- The decimal without zeros at the end of its digits. -/
def Decimal.strip : Nat → Decimal → Decimal
  | 0, d => d
  | fuel + 1, d =>
    if d.digits ≠ 0 ∧ d.digits % 10 = 0 then Decimal.strip fuel ⟨d.digits / 10, d.exponent + 1⟩
    else d

/-- The shortest decimal that rounds to a finite double, sign left out. -/
def shortest (x : Binary64) : Decimal :=
  let (m, q) := x.parts
  if m = 0 then ⟨0, 0⟩
  else
    let unitNum := twoTo (q - 2).toNat
    let unitDen := twoTo (2 - q).toNat
    let i := intervalOf m q
    let num := i.middle * unitNum
    -- a start below the magnitude of the value; a handful of steps lead up to it
    let start : Int := ((num.log2 : Int) - unitDen.log2) * 30103 / 100000 - 1
    let e := magnitudeFrom num unitDen 8 start
    ((shortestFrom i unitNum unitDen e 17 1).getD ⟨0, 0⟩).strip 20

/-- A finite double as a number in a document: positional from `0.00001` up to sixteen digits
    left of the point, always with a point there, and with an exponent elsewhere. -/
def documentChars (x : Binary64) : List Char :=
  let d := x.shortest
  let ds := Text.decimalChars d.digits
  let length := ds.length
  let k := d.exponent
  let kk : Int := length + k
  let body : List Char :=
    if d.digits = 0 then ['0', '.', '0']
    else if 0 ≤ k ∧ kk ≤ 16 then ds ++ List.replicate k.toNat '0' ++ ['.', '0']
    else if 0 < kk ∧ kk ≤ 16 then ds.take kk.toNat ++ '.' :: ds.drop kk.toNat
    else if -5 < kk ∧ kk ≤ 0 then '0' :: '.' :: (List.replicate (-kk).toNat '0' ++ ds)
    else
      let mantissa := match ds with
        | [] => []
        | [d] => [d]
        | d :: rest => d :: '.' :: rest
      let e := kk - 1
      mantissa ++ 'e' :: ((if e < 0 then ['-'] else []) ++ Text.decimalChars e.natAbs)
  if x.isNegative then '-' :: body else body

end TestCluster.Binary64
