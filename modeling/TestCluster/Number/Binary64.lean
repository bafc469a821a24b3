import TestCluster.Number.Power

/-!
# Doubles — binary floating-point numbers as exact arithmetic

    A double is its 64 bits. A finite one is a whole significand times a power of two, so
    every operation here computes an exact ratio of naturals and rounds it once: to the
    nearest double, and of two equally near ones to the one whose significand is even.
-/

namespace TestCluster

/-- A binary floating-point number of 64 bits. -/
structure Binary64 where
  bits : UInt64
  deriving DecidableEq, Repr

namespace Binary64

/-- The bits of the double without its sign. -/
def magnitude (x : Binary64) : Nat := x.bits.toNat % twoTo 63

/-- Whether the sign bit is set. -/
def isNegative (x : Binary64) : Bool := decide (twoTo 63 ≤ x.bits.toNat)

/-- The magnitude bits of infinity; larger ones are not a number. -/
def infinityBits : Nat := 0x7FF * twoTo 52

/-- Whether the double is a number and not infinite. -/
def isFinite (x : Binary64) : Bool := decide (x.magnitude < infinityBits)

/-- The double with the given magnitude bits. -/
def ofMagnitude (negative : Bool) (magnitude : Nat) : Binary64 :=
  ⟨UInt64.ofNat ((if negative then twoTo 63 else 0) + magnitude)⟩

/-- Zero, with either sign. -/
def zero (negative : Bool) : Binary64 := ofMagnitude negative 0

/-- Infinity, with either sign. -/
def infinity (negative : Bool) : Binary64 := ofMagnitude negative infinityBits

/-- A value that is not a number. -/
def notANumber : Binary64 := ⟨0x7FF8000000000000⟩

/-- The significand `m` and exponent `q` of a finite double `m * 2 ^ q`. -/
def parts (x : Binary64) : Nat × Int :=
  let exponent : Nat := x.magnitude / twoTo 52
  let fraction := x.magnitude % twoTo 52
  if exponent = 0 then (fraction, -1074) else (twoTo 52 + fraction, (exponent : Int) - 1075)

/-- The quotient rounded to the nearest natural, a tie to the even one. -/
def divNearest (num den : Nat) : Nat :=
  let q := num / den
  let r := num % den
  if 2 * r > den ∨ (2 * r = den ∧ q % 2 = 1) then q + 1 else q

/-- The unit of the double nearest to `num / den`, as an exponent of two: the significand
    then has 53 bits, or fewer at the least exponent. -/
def unitExponent (num den : Nat) : Int :=
  let guess : Int := (num.log2 : Int) - den.log2 - 52
  -- the guess is right or one too large
  let small := num * twoTo (-guess).toNat < twoTo 52 * (den * twoTo guess.toNat)
  max (if small then guess - 1 else guess) (-1074)

/-- The double nearest to `num / den`. A value beyond the largest double is infinity. -/
def ofRatio (negative : Bool) (num den : Nat) : Binary64 :=
  if num = 0 ∨ den = 0 then zero negative
  else
    let e := unitExponent num den
    let significand := divNearest (num * twoTo (-e).toNat) (den * twoTo e.toNat)
    -- a significand of 54 bits carries into the exponent by itself
    ofMagnitude negative (min infinityBits ((e + 1074).toNat * twoTo 52 + significand))

/-- The double nearest to `digits * 10 ^ exponent`, where `digits` has `length` digits. The
    bounds keep the powers small; beyond them the value is infinite or zero. -/
def ofDecimal (negative : Bool) (digits length : Nat) (exponent : Int) : Binary64 :=
  if digits = 0 then zero negative
  else if 400 < exponent + length then infinity negative
  else if exponent + length < -400 then zero negative
  else ofRatio negative (digits * tenTo exponent.toNat) (tenTo (-exponent).toNat)

/-- The double nearest to a natural number. -/
def ofNat (n : Nat) : Binary64 := ofRatio false n 1

/-- The double nearest to ten to a power. -/
def powerOfTen (n : Nat) : Binary64 := ofNat (tenTo n)

/-- The product of two finite doubles that are not negative, rounded. -/
def mul (x y : Binary64) : Binary64 :=
  let (m, p) := x.parts
  let (n, q) := y.parts
  ofRatio false (m * n * twoTo (p + q).toNat) (twoTo (-(p + q)).toNat)

/-- The quotient of two finite doubles that are not negative, rounded. -/
def div (x y : Binary64) : Binary64 :=
  let (m, p) := x.parts
  let (n, q) := y.parts
  ofRatio false (m * twoTo (p - q).toNat) (n * twoTo (q - p).toNat)

/-- The double with its sign turned. -/
def neg (x : Binary64) : Binary64 := ofMagnitude (!x.isNegative) x.magnitude

/-- The double with the given sign and this one's magnitude. -/
def withSign (negative : Bool) (x : Binary64) : Binary64 := ofMagnitude negative x.magnitude

end Binary64

end TestCluster
