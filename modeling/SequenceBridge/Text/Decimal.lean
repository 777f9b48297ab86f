import SequenceBridge.Text.Basic

/-! # Decimal digits and decimal numbers
A decimal digit is a character of the Unicode category `Nd`; each script with digits has ten of them
in a row. Numbers are read from ASCII digits only, and written with them.

* **`digitValue?`** — the value of a decimal digit of any script.
* **`Text.natValue?`** — the number that a text of ASCII digits stands for.
* **`decimal`** — the decimal text of a number, without leading zeros.
* **`padded`** — the decimal text of a number, zeros in front up to a least width.
-/

namespace SequenceBridge

/-- The zeros of the category `Nd`. The nine code points after each are its digits one to nine. -/
def digitZeros : List Nat :=
  [0x0030, 0x0660, 0x06F0, 0x07C0, 0x0966, 0x09E6, 0x0A66, 0x0AE6, 0x0B66, 0x0BE6, 0x0C66, 0x0CE6,
   0x0D66, 0x0DE6, 0x0E50, 0x0ED0, 0x0F20, 0x1040, 0x1090, 0x17E0, 0x1810, 0x1946, 0x19D0, 0x1A80,
   0x1A90, 0x1B50, 0x1BB0, 0x1C40, 0x1C50, 0xA620, 0xA8D0, 0xA900, 0xA9D0, 0xA9F0, 0xAA50, 0xABF0,
   0xFF10, 0x104A0, 0x10D30, 0x10D40, 0x11066, 0x110F0, 0x11136, 0x111D0, 0x112F0, 0x11450,
   0x114D0, 0x11650, 0x116C0, 0x116D0, 0x116DA, 0x11730, 0x118E0, 0x11950, 0x11BF0, 0x11C50,
   0x11D50, 0x11DA0, 0x11F50, 0x16130, 0x16A60, 0x16AC0, 0x16B50, 0x16D70, 0x1CCF0, 0x1D7CE,
   0x1D7D8, 0x1D7E2, 0x1D7EC, 0x1D7F6, 0x1E140, 0x1E2F0, 0x1E4F0, 0x1E5F1, 0x1E950, 0x1FBF0]

/-- The **value of a decimal digit** of any script; none for a character that is no digit. -/
def digitValue? (c : Char) : Option Nat :=
  (digitZeros.find? fun least => least ≤ c.toNat && c.toNat < least + 10).map (c.toNat - ·)

/-- Whether a character is a decimal digit of some script. -/
def isDecimalDigit (c : Char) : Bool := (digitValue? c).isSome

/-- A digit's value is less than ten. -/
theorem digitValue?_lt {c : Char} {v : Nat} (h : digitValue? c = some v) : v < 10 := by
  obtain ⟨least, hz, rfl⟩ := Option.map_eq_some_iff.1 h
  have := List.find?_some hz
  simp at this
  omega

namespace Text

/-- The number that a text of ASCII digits stands for; none when some character is no ASCII digit.
The empty text stands for zero. -/
def natValue? (t : Text) : Option Nat :=
  if t.all Char.isDigit then some (Nat.ofDigitChars 10 t 0) else none

@[simp] theorem natValue?_nil : natValue? [] = some 0 := rfl

end Text

/-- The **decimal text** of a number. -/
def decimal (n : Nat) : Text := Nat.toDigits 10 n

/-- The decimal text of a number with zeros in front, up to a least width. -/
def padded (width n : Nat) : Text :=
  List.replicate (width - (decimal n).length) '0' ++ decimal n

/-- Reading a decimal text back gives its number. -/
@[simp] theorem natValue?_decimal (n : Nat) : (decimal n).natValue? = some n := by
  have h : (decimal n).all Char.isDigit = true := by
    simp only [List.all_eq_true, decimal]
    exact fun c hc => Nat.isDigit_of_mem_toDigits (by decide) (by decide) hc
  rw [Text.natValue?, if_pos h, decimal, Nat.ofDigitChars_toDigits (by decide) (by decide)]

end SequenceBridge
