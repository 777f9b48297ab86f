import SequenceBridge.Number.Shortest

/-! # Numerals in JSON
A numeral keeps its digits as they stand. Whole numbers of at most 64 bits have an exact value; every
other numeral is a floating-point number.

* **`Numeral`** — sign, digits before and after the point, and power of ten.
* **`Numeral.take?`** — the numeral at the start of a text.
* **`Number`** — what a numeral is worth; **`Numeral.value?`** finds it.
-/

namespace SequenceBridge

/-- A **numeral**. Without a point the fraction is empty. -/
structure Numeral where
  isNegative : Bool
  whole : Text
  fraction : Text
  exponent : Option Int
  deriving DecidableEq, Repr

/-- The **value of a numeral**: a natural number, the negative of one, or a floating-point number. -/
inductive Number
  | natural (n : Nat)
  | negative (n : Nat)
  | real (isNegative : Bool) (magnitude : Binary64)
  deriving DecidableEq, Repr

/-- The text of a number in a message. -/
def Number.text : Number → Text
  | .natural n => decimal n
  | .negative n => '-' :: decimal n
  | .real isNegative magnitude => (if isNegative then ['-'] else []) ++ magnitude.text

namespace Numeral

/-- At least one digit at the start of a text, with what follows the digits. -/
def takeDigits? (t : Text) : Option (Text × Text) :=
  if (t.takeWhile Char.isDigit).isEmpty then none
  else some (t.takeWhile Char.isDigit, t.dropWhile Char.isDigit)

/-- The digits before the point. A zero in front of other digits is refused. -/
def takeWhole? (t : Text) : Option (Text × Text) :=
  (takeDigits? t).bind fun found =>
    if found.1.head? = some '0' ∧ found.1.length ≠ 1 then none else some found

/-- The digits after a point, if there is a point. -/
def takeFraction? : Text → Option (Text × Text)
  | '.' :: t => takeDigits? t
  | t => some ([], t)

/-- The digits of a power of ten, with a sign or without. -/
def takeSigned? : Text → Option (Int × Text)
  | '+' :: t => (takeDigits? t).map fun found => ((Nat.ofDigitChars 10 found.1 0 : Int), found.2)
  | '-' :: t => (takeDigits? t).map fun found => (-(Nat.ofDigitChars 10 found.1 0 : Int), found.2)
  | t => (takeDigits? t).map fun found => ((Nat.ofDigitChars 10 found.1 0 : Int), found.2)

/-- A power of ten behind a letter `e`, if there is one. -/
def takeExponent? : Text → Option (Option Int × Text)
  | 'e' :: t => (takeSigned? t).map fun found => (some found.1, found.2)
  | 'E' :: t => (takeSigned? t).map fun found => (some found.1, found.2)
  | t => some (none, t)

/-- A numeral behind its sign. -/
def takeUnsigned? (isNegative : Bool) (t : Text) : Option (Numeral × Text) :=
  (takeWhole? t).bind fun whole =>
    (takeFraction? whole.2).bind fun fraction =>
      (takeExponent? fraction.2).map fun exponent =>
        (⟨isNegative, whole.1, fraction.1, exponent.1⟩, exponent.2)

/-- The **numeral at the start** of a text, with what follows it. -/
def take? : Text → Option (Numeral × Text)
  | '-' :: t => takeUnsigned? true t
  | t => takeUnsigned? false t

/-! ## What a reading leaves over -/

theorem takeDigits?_length {t : Text} {found : Text × Text} (h : takeDigits? t = some found) :
    found.2.length < t.length := by
  unfold takeDigits? at h
  split at h
  · cases h
  · rename_i hne
    cases h
    have := congrArg List.length (List.takeWhile_append_dropWhile (p := Char.isDigit) (l := t))
    simp only [List.length_append] at this
    have hpos : 0 < (t.takeWhile Char.isDigit).length := by
      cases hd : t.takeWhile Char.isDigit with
      | nil => simp [hd] at hne
      | cons => simp
    simp only
    omega

theorem takeWhole?_length {t : Text} {found : Text × Text} (h : takeWhole? t = some found) :
    found.2.length < t.length := by
  obtain ⟨digits, hd, h⟩ := Option.bind_eq_some_iff.1 h
  split at h
  · cases h
  · cases h; exact takeDigits?_length hd

theorem takeFraction?_length {t : Text} {found : Text × Text} (h : takeFraction? t = some found) :
    found.2.length ≤ t.length := by
  unfold takeFraction? at h
  split at h
  · have := takeDigits?_length h
    simp only [List.length_cons]
    omega
  · cases h; simp

theorem takeSigned?_length {t : Text} {found : Int × Text} (h : takeSigned? t = some found) :
    found.2.length ≤ t.length := by
  unfold takeSigned? at h
  split at h <;> obtain ⟨digits, hd, rfl⟩ := Option.map_eq_some_iff.1 h <;>
    have := takeDigits?_length hd <;> simp only [List.length_cons] <;> omega

theorem takeExponent?_length {t : Text} {found : Option Int × Text}
    (h : takeExponent? t = some found) : found.2.length ≤ t.length := by
  unfold takeExponent? at h
  split at h
  · obtain ⟨signed, hs, rfl⟩ := Option.map_eq_some_iff.1 h
    have := takeSigned?_length hs
    simp only [List.length_cons]
    omega
  · obtain ⟨signed, hs, rfl⟩ := Option.map_eq_some_iff.1 h
    have := takeSigned?_length hs
    simp only [List.length_cons]
    omega
  · cases h; simp

theorem takeUnsigned?_length {b : Bool} {t : Text} {found : Numeral × Text}
    (h : takeUnsigned? b t = some found) : found.2.length < t.length := by
  obtain ⟨whole, hw, h⟩ := Option.bind_eq_some_iff.1 h
  obtain ⟨fraction, hf, h⟩ := Option.bind_eq_some_iff.1 h
  obtain ⟨exponent, he, rfl⟩ := Option.map_eq_some_iff.1 h
  have h1 := takeWhole?_length hw
  have h2 := takeFraction?_length hf
  have h3 := takeExponent?_length he
  simp only
  omega

/-- A numeral takes at least one character. -/
theorem take?_length {t : Text} {found : Numeral × Text} (h : take? t = some found) :
    found.2.length < t.length := by
  unfold take? at h
  split at h
  · have := takeUnsigned?_length h
    simp only [List.length_cons]
    omega
  · exact takeUnsigned?_length h

/-! ## The value of a numeral -/

/-- Digits taken into a number as long as it stays below `2 ^ 64`, and how many digits are left from
the first that does not fit. -/
def absorb : Nat → Text → Nat × Nat
  | n, [] => (n, 0)
  | n, c :: t =>
    let next := n * 10 + (c.toNat - '0'.toNat)
    if next < UInt64.size then absorb next t else (n, t.length + 1)

/-- A magnitude over a power of ten. The power is divided out in steps of at most 308, each rounded,
so that every step is a magnitude itself. -/
def overPower (b : Binary64) (power : Nat) : Option Binary64 :=
  if b.isZero then
    some b
  else if power ≤ 308 then
    (Binary64.ofNat? (Nat.pow 10 power)).bind b.div?
  else
    ((Binary64.ofNat? (Nat.pow 10 308)).bind b.div?).bind fun smaller =>
      overPower smaller (power - 308)
termination_by power

/-- A magnitude times a power of ten; none when it is too large. -/
def timesPower (b : Binary64) (power : Nat) : Option Binary64 :=
  if b.isZero then some b
  else if power ≤ 308 then (Binary64.ofNat? (Nat.pow 10 power)).bind b.mul?
  else none

/-- The magnitude of a numeral as a floating-point number: its leading digits, as many as a word
holds, scaled by the power of ten that is left. Digits of the fraction that a word does not hold do
not count. -/
def magnitude? (n : Numeral) : Option Binary64 :=
  let whole := absorb 0 n.whole
  let all := absorb whole.1 n.fraction
  let power : Int :=
    (whole.2 : Int) - ((n.fraction.length - all.2 : Nat) : Int) + n.exponent.getD 0
  (Binary64.ofNat? all.1).bind fun leading =>
    if 0 ≤ power then timesPower leading power.toNat else overPower leading (-power).toNat

/-- The **value of a numeral**; none when it is out of the range of floating-point numbers. A negative
zero is a floating-point number. -/
def value? (n : Numeral) : Option Number :=
  let whole := Nat.ofDigitChars 10 n.whole 0
  let isWhole : Bool := n.fraction.isEmpty && n.exponent.isNone
  if isWhole && !n.isNegative && decide (whole < UInt64.size) then
    some (.natural whole)
  else if isWhole && n.isNegative && decide (0 < whole ∧ whole ≤ Nat.pow 2 63) then
    some (.negative whole)
  else
    n.magnitude?.map (.real n.isNegative)

end Numeral

end SequenceBridge
