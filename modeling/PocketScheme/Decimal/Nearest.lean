/-!
From a decimal to the nearest double.

A positive rational is scaled by a power of two until its whole part has 53 bits, as long as the
exponent does not fall below that of the least double, and rounded there with ties to even. The
arithmetic is exact throughout.

* `roundDiv`: a quotient of naturals rounded to the nearest natural;
* `nearestBits`: the bits of the double nearest to a rational;
* `decimalBits`: the bits of the double nearest to `mantissa · 10 ^ exponent`.
-/

namespace PocketScheme.Decimal

/-- `num / den` rounded to the nearest natural, ties to the even neighbour. -/
def roundDiv (num den : Nat) : Nat :=
  let q := num / den
  let r := num % den
  if den < 2 * r || (2 * r == den && q % 2 == 1) then q + 1 else q

/-- Numerator and denominator of `num / (den · base ^ e)`. -/
def scale (base num den : Nat) (e : Int) : Nat × Nat :=
  if 0 ≤ e then (num, den * Nat.pow base e.toNat) else (num * Nat.pow base (-e).toNat, den)

/-- The exponent of the last bit of the least double. -/
def leastExponent : Int := -1074

/-- The exponent of the last bit of a double close to `num / den`: the one at which the whole part
has 53 bits, or the least exponent there is. -/
def lastBitExponent (num den : Nat) : Int :=
  let e : Int := num.log2 - den.log2 - 52
  let (n, d) := scale 2 num den e
  max leastExponent (if n / d < Nat.pow 2 52 then e - 1 else e)

/-- The bits of positive infinity. -/
def infinityBits : Nat := 0x7ff * Nat.pow 2 52

/-- The bits of the double nearest to the rational `num / den`, ties to even; too large a rational
gives positive infinity. -/
def nearestBits (num den : Nat) : Nat :=
  if num == 0 then 0
  else
    let e := lastBitExponent num den
    let (n, d) := scale 2 num den e
    min infinityBits ((e - leastExponent).toNat * Nat.pow 2 52 + roundDiv n d)

/-- The number of decimal digits of a natural. -/
def digitCount (n : Nat) : Nat :=
  (Nat.toDigits 10 n).length

/-- The bits of the double nearest to `mantissa · 10 ^ exponent`. A magnitude of more than 400
digits before the point is infinite and one that starts more than 400 places after it is zero, so
the power of ten stays small. -/
def decimalBits (mantissa : Nat) (exponent : Int) : Nat :=
  if mantissa == 0 then 0
  else
    let size : Int := digitCount mantissa + exponent
    if 400 < size then infinityBits
    else if size < -400 then 0
    else
      let (n, d) := scale 10 mantissa 1 (-exponent)
      nearestBits n d

/-- A double with the given magnitude bits and sign. -/
def signedDouble (negative : Bool) (bits : Nat) : Float :=
  Float.ofBits (UInt64.ofNat (if negative then Nat.pow 2 63 + bits else bits))

end PocketScheme.Decimal
