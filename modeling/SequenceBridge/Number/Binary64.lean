/-! # Binary floating point
A number that is no whole number of moderate size is held as a mantissa times a power of two, the
mantissa less than 2^53 and the exponent between -1074 and 971. Here these numbers are exact pairs;
each operation is exact arithmetic followed by one rounding to the nearest pair, a tie going to the
even mantissa.

* **`Binary64`** — a magnitude: mantissa and exponent of two.
* **`Binary64.ofRatio?`** — the nearest magnitude to a quotient; none above the largest.
* **`Binary64.mul?`**, **`Binary64.div?`** — product and quotient, rounded.
-/

namespace SequenceBridge

/-- A **magnitude** `mantissa * 2 ^ exponent`. -/
structure Binary64 where
  mantissa : Nat
  exponent : Int
  deriving DecidableEq, Repr

namespace Binary64

/-- Zero. -/
def zero : Binary64 := ⟨0, 0⟩

/-- Whether a magnitude is zero. -/
def isZero (b : Binary64) : Bool := b.mantissa = 0

/-- The numerator of a magnitude as a quotient of natural numbers. -/
def numerator (b : Binary64) : Nat := b.mantissa * Nat.pow 2 b.exponent.toNat

/-- The denominator of a magnitude as a quotient of natural numbers. -/
def denominator (b : Binary64) : Nat := Nat.pow 2 (-b.exponent).toNat

/-- The quotient of two natural numbers rounded to the nearest whole number, a tie to the even
one. -/
def nearestQuotient (num den : Nat) : Nat :=
  let q := num / den
  let r := num % den
  if 2 * r < den ∨ (2 * r = den ∧ q % 2 = 0) then q else q + 1

/-- The quotient of two natural numbers in units of `2 ^ exponent`, as a quotient again. -/
def inUnits (num den : Nat) (exponent : Int) : Nat × Nat :=
  (num * Nat.pow 2 (-exponent).toNat, den * Nat.pow 2 exponent.toNat)

/-- The exponent at which a quotient has a mantissa of 53 bits, or the least exponent if that is
greater. The difference of the two lengths is off by at most one, which the first test mends. -/
def exponentOf (num den : Nat) : Int :=
  let guess : Int := (num.log2 : Int) - (den.log2 : Int) - 53
  let scaled := inUnits num den guess
  let fitting := if scaled.1 / scaled.2 < Nat.pow 2 53 then guess else guess + 1
  max fitting (-1074)

/-- The **nearest magnitude** to a quotient of natural numbers; none when it is above the largest. -/
def ofRatio? (num den : Nat) : Option Binary64 :=
  if num = 0 then
    some zero
  else
    let exponent := exponentOf num den
    let scaled := inUnits num den exponent
    let mantissa := nearestQuotient scaled.1 scaled.2
    -- rounding up may fill one more bit
    let rounded : Binary64 :=
      if mantissa = Nat.pow 2 53 then ⟨Nat.pow 2 52, exponent + 1⟩ else ⟨mantissa, exponent⟩
    if rounded.exponent ≤ 971 then some rounded else none

/-- The nearest magnitude to a natural number. -/
def ofNat? (n : Nat) : Option Binary64 := ofRatio? n 1

/-- The **product** of two magnitudes. -/
def mul? (a b : Binary64) : Option Binary64 :=
  ofRatio? (a.numerator * b.numerator) (a.denominator * b.denominator)

/-- The **quotient** of two magnitudes. -/
def div? (a b : Binary64) : Option Binary64 :=
  ofRatio? (a.numerator * b.denominator) (a.denominator * b.numerator)

end Binary64

end SequenceBridge
