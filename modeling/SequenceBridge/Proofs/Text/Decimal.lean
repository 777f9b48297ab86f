import Mathlib.Algebra.Ring.Nat
import Mathlib.Data.List.Basic
import SequenceBridge.Text.Decimal

/-! # Digits and their numbers
The number of a text of digits is bounded by the length of the text, and a padded number is written in
as many digits as its width when it is small enough.

* **`isDecimalDigit_of_isDigit`** — an ASCII digit is a decimal digit.
* **`Text.natValue?_lt`** — a text of `k` digits stands for a number below `10 ^ k`.
* **`exists_decimal_eq_cons`**, **`eq_zero_of_head?_decimal`** — the first digit of a written number,
  which is a zero for zero only.
* **`natValue?_padded`**, **`length_padded`** — a padded number is read back, and fills its width.
-/

namespace SequenceBridge

/-- The code points of the ASCII digits. -/
theorem toNat_of_isDigit {c : Char} (h : c.isDigit = true) : 48 ≤ c.toNat ∧ c.toNat ≤ 57 :=
  Char.isDigit_iff_toNat.1 h

/-- An ASCII digit is a **decimal digit**. -/
theorem isDecimalDigit_of_isDigit {c : Char} (h : c.isDigit = true) : isDecimalDigit c = true := by
  have hc := toNat_of_isDigit h
  have hzero : 0x0030 ∈ digitZeros := by decide
  rw [isDecimalDigit, digitValue?, Option.isSome_map, List.find?_isSome]
  refine ⟨0x0030, hzero, ?_⟩
  rw [Bool.and_eq_true, decide_eq_true_eq, decide_eq_true_eq]
  omega

/-! ## Numbers of digits -/

namespace Text

/-- A digit in front of digits counts as many powers of ten as there are digits behind it. -/
theorem ofDigitChars_lt {t : Text} (h : t.all Char.isDigit = true) :
    Nat.ofDigitChars 10 t 0 < 10 ^ t.length := by
  induction t with
  | nil => rw [Nat.ofDigitChars_nil]; exact Nat.one_pos
  | cons c t ih =>
      rw [List.all_cons, Bool.and_eq_true] at h
      have hc := toNat_of_isDigit h.1
      have hzero : '0'.toNat = 48 := rfl
      have hdigit : c.toNat - '0'.toNat ≤ 9 := by omega
      -- the first digit counts the powers that the digits behind it cannot reach
      have htail := ih h.2
      rw [Nat.ofDigitChars_cons, Nat.ofDigitChars_eq_ofDigitChars_zero, List.length_cons,
        Nat.mul_zero, Nat.zero_add]
      calc 10 ^ t.length * (c.toNat - '0'.toNat) + Nat.ofDigitChars 10 t 0
          < 10 ^ t.length * (c.toNat - '0'.toNat) + 10 ^ t.length := Nat.add_lt_add_left htail _
        _ ≤ 10 ^ t.length * 9 + 10 ^ t.length :=
          Nat.add_le_add_right (Nat.mul_le_mul_left _ hdigit) _
        _ = 10 ^ (t.length + 1) := by rw [Nat.pow_succ]; omega

/-- A text of `k` digits **stands for a number below** `10 ^ k`. -/
theorem natValue?_lt {t : Text} {n : Nat} (h : t.natValue? = some n) : n < 10 ^ t.length := by
  rw [natValue?] at h
  split at h
  · rename_i hdigits
    cases h
    exact ofDigitChars_lt hdigits
  · cases h

/-- The **first digits** of a number are what is left when it is divided by the place of the last of
them. -/
theorem ofDigitChars_take {digits : Text} (h : digits.all Char.isDigit = true) (k : Nat) :
    Nat.ofDigitChars 10 (digits.take k) 0 =
      Nat.ofDigitChars 10 digits 0 / 10 ^ (digits.length - k) := by
  have hbehind : (digits.drop k).all Char.isDigit = true := by
    rw [List.all_eq_true] at h ⊢
    intro c hc
    exact h c (List.mem_of_mem_drop hc)
  have hlt := ofDigitChars_lt hbehind
  rw [List.length_drop] at hlt
  have hsplit : Nat.ofDigitChars 10 digits 0 =
      10 ^ (digits.length - k) * Nat.ofDigitChars 10 (digits.take k) 0 +
        Nat.ofDigitChars 10 (digits.drop k) 0 := by
    rw [← List.length_drop, ← Nat.ofDigitChars_eq_ofDigitChars_zero, ← Nat.ofDigitChars_append,
      List.take_append_drop]
  rw [hsplit, Nat.mul_add_div (Nat.pow_pos (by decide)), Nat.div_eq_of_lt hlt, Nat.add_zero]

end Text

/-! ## Written numbers -/

/-- Decimal texts consist of digits. -/
theorem isDigit_of_mem_decimal {n : Nat} {c : Char} (h : c ∈ decimal n) : c.isDigit = true :=
  Nat.isDigit_of_mem_toDigits (by decide) (by decide) h

/-- Decimal texts have a digit. -/
theorem decimal_ne_nil (n : Nat) : decimal n ≠ [] := Nat.toDigits_ne_nil

/-- A decimal text has a first digit. -/
theorem exists_decimal_eq_cons (n : Nat) : ∃ c t, decimal n = c :: t ∧ c.isDigit = true := by
  obtain ⟨c, t, h⟩ := List.exists_cons_of_ne_nil (decimal_ne_nil n)
  exact ⟨c, t, h, isDigit_of_mem_decimal (h ▸ List.mem_cons_self)⟩

/-- Only zero is written **with a zero in front**. -/
theorem eq_zero_of_head?_decimal {n : Nat} (h : (decimal n).head? = some '0') : n = 0 := by
  induction n using Nat.strongRecOn with
  | ind n ih =>
      rw [decimal, Nat.toDigits_eq_if (by decide)] at h
      split at h
      · rename_i hlt
        have hdigit : ∀ d < 10, Nat.digitChar d = '0' → d = 0 := by decide
        exact hdigit n hlt (Option.some.inj h)
      · -- the first digit is that of a tenth, which is not zero
        rename_i hge
        rw [List.head?_append_of_ne_nil _ Nat.toDigits_ne_nil] at h
        have htenth := ih (n / 10) (by omega) h
        omega

/-! ## Padded numbers -/

/-- A padded number consists of ASCII digits. -/
theorem all_isDigit_padded (width n : Nat) : (padded width n).all Char.isDigit = true := by
  rw [padded, List.all_append, Bool.and_eq_true]
  constructor
  · rw [List.all_eq_true]
    intro c hc
    rw [List.eq_of_mem_replicate hc]
    rfl
  · rw [List.all_eq_true]
    exact fun c hc => isDigit_of_mem_decimal hc

/-- A padded number consists of decimal digits. -/
theorem all_isDecimalDigit_padded (width n : Nat) :
    (padded width n).all isDecimalDigit = true := by
  rw [List.all_eq_true]
  exact fun c hc =>
    isDecimalDigit_of_isDigit (List.all_eq_true.1 (all_isDigit_padded width n) c hc)

/-- **Reading a padded number back** gives the number. -/
theorem natValue?_padded (width n : Nat) : (padded width n).natValue? = some n := by
  rw [Text.natValue?, if_pos (all_isDigit_padded width n), padded, Nat.ofDigitChars_append,
    Nat.ofDigitChars_replicate_zero, Nat.mul_zero, decimal, Nat.ofDigitChars_ten_toDigits]

/-- A padded number **fills its width** when it is small enough. -/
theorem length_padded {width n : Nat} (hwidth : 0 < width) (h : n < 10 ^ width) :
    (padded width n).length = width := by
  have hle : (decimal n).length ≤ width := (Nat.length_toDigits_le_iff (by decide) hwidth).2 h
  rw [padded, List.length_append, List.length_replicate]
  omega

/-- A padded number that is **no longer than its width** is small enough for it. -/
theorem lt_of_length_padded_le {width n : Nat} (hwidth : 0 < width)
    (h : (padded width n).length ≤ width) : n < 10 ^ width := by
  rw [padded, List.length_append] at h
  exact (Nat.length_toDigits_le_iff (by decide) hwidth).1 (show (decimal n).length ≤ width by omega)

end SequenceBridge
