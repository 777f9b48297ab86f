import SequenceBridge.Number.Binary64
import SequenceBridge.Text.Decimal

/-! # The shortest decimal text of a floating-point number
A magnitude is written with the fewest decimal digits that still lie nearer to it than to any other
magnitude; of several such texts the nearest is taken.

* **`Binary64.Decimal`** — significant digits with the power of ten of the first of them.
* **`Binary64.shortest`** — the shortest decimal of a magnitude.
* **`Binary64.text`** — the text of a magnitude, positional from `10 ^ -5` up to below `10 ^ 16`.
-/

namespace SequenceBridge

namespace Binary64

/-- A **decimal number**: its significant digits, and the power of ten that the first one counts. -/
structure Decimal where
  digits : Nat
  exponent : Int
  deriving DecidableEq, Repr

/-- The bounds within which a decimal is nearer to a magnitude than to its neighbours, together with
the magnitude, in quarters of its last binary place. The neighbour below a power of two is closer. -/
def bounds (b : Binary64) : Nat × Nat :=
  let isLeast : Bool := b.mantissa = Nat.pow 2 52 ∧ -1074 < b.exponent
  (if isLeast then 4 * b.mantissa - 1 else 4 * b.mantissa - 2, 4 * b.mantissa + 2)

/-- The power of ten of the first digit of a quotient, which is the greatest power not above it. The
number of digits of its whole part tells it, or that of its inverse. -/
def leadingPower (num den : Nat) : Int :=
  let above := (decimal (num / den)).length
  if num / den = 0 then
    let zeros := (decimal (den / num)).length
    if den ≤ num * Nat.pow 10 (zeros - 1) then -((zeros : Int) - 1) else -(zeros : Int)
  else
    (above : Int) - 1

/-- A magnitude on the grid of `10 ^ place`: how often the step goes into it, as a quotient. -/
def onGrid (num den : Nat) (place : Int) : Nat × Nat :=
  (num * Nat.pow 10 (-place).toNat, den * Nat.pow 10 place.toNat)

/-- The decimal with a given number of digits that identifies a magnitude, if there is one: the
nearer of its two neighbours on the grid, provided that it lies within the bounds. -/
def withDigits? (b : Binary64) (count : Nat) : Option Decimal :=
  let lead := leadingPower b.numerator b.denominator
  let place := lead + 1 - (count : Int)
  let scaled := onGrid b.numerator b.denominator place
  let below := scaled.1 / scaled.2
  let quarters : Nat → Nat := fun d => 4 * b.mantissa * d * scaled.2
  let low := b.bounds.1 * scaled.1
  let high := b.bounds.2 * scaled.1
  -- a bound is rounded to the magnitude itself when the mantissa is even
  let isInside : Nat → Bool := fun d =>
    if b.mantissa % 2 = 0 then low ≤ quarters d && quarters d ≤ high
    else low < quarters d && quarters d < high
  let nearer := if 2 * (scaled.1 % scaled.2) < scaled.2 then below
    else if 2 * (scaled.1 % scaled.2) = scaled.2 ∧ below % 2 = 0 then below
    else below + 1
  let farther := if nearer = below then below + 1 else below
  -- the upper neighbour may be the next power of ten
  let decimalOf : Nat → Decimal := fun d =>
    if d = Nat.pow 10 count then ⟨1, lead + 1⟩ else ⟨d, lead⟩
  if isInside nearer then some (decimalOf nearer)
  else if isInside farther then some (decimalOf farther)
  else none

/-- The **shortest decimal** that identifies a magnitude. Seventeen digits always do. -/
def shortest (b : Binary64) : Decimal :=
  ((List.range 17).findSome? fun count => b.withDigits? (count + 1)).getD ⟨0, 0⟩

/-- Digits behind one another, as a positional number with a point, or with a power of ten. -/
def Decimal.text (d : Decimal) : Text :=
  let digits := decimal d.digits
  if -5 ≤ d.exponent ∧ d.exponent ≤ 15 then
    if 0 ≤ d.exponent then
      let whole := d.exponent.toNat + 1
      let fraction := digits.drop whole
      digits.take whole ++ List.replicate (whole - digits.length) '0' ++
        '.' :: (if fraction.isEmpty then ['0'] else fraction)
    else
      '0' :: '.' :: List.replicate ((-d.exponent).toNat - 1) '0' ++ digits
  else
    let fraction := digits.drop 1
    digits.take 1 ++ (if fraction.isEmpty then [] else '.' :: fraction) ++
      'e' :: (if 0 ≤ d.exponent then '+' else '-') :: decimal d.exponent.natAbs

/-- The **text** of a magnitude. -/
def text (b : Binary64) : Text := if b.isZero then ['0', '.', '0'] else b.shortest.text

end Binary64

end SequenceBridge
