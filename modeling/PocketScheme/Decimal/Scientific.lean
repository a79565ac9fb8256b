import PocketScheme.Decimal.Nearest

/-!
From a finite double to a fixed number of decimal digits.

* `significand`: a finite magnitude as a natural times a power of two;
* `decimalExponent`: the exponent of the leading decimal digit of a rational;
* `Scientific`: leading digits and exponent of a magnitude, rounded with ties to even.
-/

namespace PocketScheme.Decimal

/-- The magnitude bits of a finite double as `(m, e)` with the value `m · 2 ^ e`. -/
def significand (bits : Nat) : Nat × Int :=
  let e : Nat := bits / Nat.pow 2 52
  let m : Nat := bits % Nat.pow 2 52
  if e == 0 then (m, leastExponent)
  else (m + Nat.pow 2 52, leastExponent + ((e : Nat) - 1 : Int))

/-- The exponent `x` with `10 ^ x ≤ num / den < 10 ^ (x + 1)`: an estimate from the binary
lengths is at most one off. -/
def decimalExponent (num den : Nat) : Int :=
  let guess : Int := ((num.log2 : Int) - den.log2) * 30103 / 100000
  let below (x : Int) : Bool :=
    let (n, d) := scale 10 num den x
    decide (n < d)
  if below guess then guess - 1 else if below (guess + 1) then guess else guess + 1

/-- The leading digits of a magnitude as one natural, and the exponent of the first of them. -/
structure Scientific where
  digits : Nat
  exponent : Int

/-- The first `count + 1` digits of the magnitude `num / den`, rounded with ties to even; a
rounding that carries into a further digit raises the exponent instead. -/
def Scientific.ofRatio (count num den : Nat) : Scientific :=
  if num == 0 then ⟨0, 0⟩
  else
    let x := decimalExponent num den
    let (n, d) := scale 10 num den (x - count)
    let digits := roundDiv n d
    if digits == Nat.pow 10 (count + 1) then ⟨Nat.pow 10 count, x + 1⟩ else ⟨digits, x⟩

/-- The first `count + 1` digits of a finite double given by its magnitude bits. -/
def Scientific.ofBits (count bits : Nat) : Scientific :=
  let (m, e) := significand bits
  let (n, d) := scale 2 m 1 (-e)
  Scientific.ofRatio count n d

end PocketScheme.Decimal
