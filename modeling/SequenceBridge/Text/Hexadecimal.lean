import SequenceBridge.Text.Basic

/-! # Numbers in other bases
Digits up to fifteen, the letters `a` to `f` in either case, make up numbers in any base up to
sixteen.

* **`digitIn?`** — the value of a digit in a base.
* **`Text.valueIn?`** — the number that digits stand for in a base.
* **`hexadecimal`** — the hexadecimal digits of a number.
-/

namespace SequenceBridge

/-- The value of a hexadecimal digit of either case. -/
def hexDigit? (c : Char) : Option Nat :=
  if c.isDigit then some (c.toNat - '0'.toNat)
  else if 'a' ≤ c ∧ c ≤ 'f' then some (c.toNat - 'a'.toNat + 10)
  else if 'A' ≤ c ∧ c ≤ 'F' then some (c.toNat - 'A'.toNat + 10)
  else none

/-- The **value of a digit** in a base, none when the base has no such digit. -/
def digitIn? (base : Nat) (c : Char) : Option Nat :=
  (hexDigit? c).bind fun v => if v < base then some v else none

namespace Text

/-- The number that digits stand for behind a number read before them. -/
def valueFrom? (base : Nat) : Nat → Text → Option Nat
  | n, [] => some n
  | n, c :: t => (digitIn? base c).bind fun v => valueFrom? base (n * base + v) t

/-- The **number** that digits stand for in a base; none when there is no digit, or another
character. -/
def valueIn? (base : Nat) (t : Text) : Option Nat :=
  if t.isEmpty then none else valueFrom? base 0 t

end Text

/-- The **hexadecimal digits** of a number, in lower case. -/
def hexadecimal (n : Nat) : Text := Nat.toDigits 16 n

end SequenceBridge
