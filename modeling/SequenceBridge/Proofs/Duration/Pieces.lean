import Mathlib.Data.List.Basic
import SequenceBridge.Proofs.Duration.Reading

/-! # The pieces of a written duration
A duration is written as a sign, days, a clock and a fraction, each of its numbers padded to the digits
that a form has for it. A sign is taken off in front of what follows it, a padded number is read back
whatever its length, and a fraction is read back as long as it has no more than three digits.

* **`Duration.writing`** — the pieces; **`Duration.text_eq`** — the written form, piece by piece.
* **`Duration.padded_two`**, **`Duration.padded_three`** — numbers that fit their digits.
* **`Duration.splitSign_signText`**, **`Duration.fraction?_fractionText`** — what stands at the ends.
* **`Duration.wordValue?_padded`**, **`Duration.fractionMilliseconds_fractionText`** — numbers read back.
-/

namespace SequenceBridge

namespace Duration

/-! ## The pieces of a written form -/

/-- The milliseconds of a duration with the point in front, or nothing when there are none. -/
def fractionText (d : Duration) : Text :=
  if d.milliseconds = 0 then [] else '.' :: padded 3 d.milliseconds.toNat

/-- The pieces that a duration is **written in**. -/
def writing (d : Duration) : Writing where
  isNegative := d.isNegative
  days := d.components.days
  hours := d.components.hours
  minutes := d.components.minutes
  seconds := d.components.seconds
  total := []
  fraction := d.fractionText.tail

/-- A padded number is not empty. -/
theorem padded_ne_nil (width n : Nat) : padded width n ≠ [] :=
  List.append_ne_nil_of_right_ne_nil _ Nat.toDigits_ne_nil

/-- The **written form**, piece by piece. -/
theorem text_eq (d : Duration) :
    d.text = d.signText ++ (d.daysText ++ (d.clockText ++ d.fractionText)) := by
  rw [text, components, daysText, clockText, fractionText]
  by_cases hdays : d.days = 0
  · rw [if_pos hdays, if_pos hdays, if_pos rfl]
    simp only [List.append_assoc, List.cons_append, List.append_nil, List.nil_append]
  · rw [if_neg hdays, if_neg hdays, if_neg (padded_ne_nil 3 _)]
    simp only [List.append_assoc, List.cons_append]

/-- A number of two digits, padded, is a pair of digits. -/
theorem padded_two {n : Nat} (h : n ≤ 99) :
    ∃ a b, padded 2 n = [a, b] ∧ a.isDigit = true ∧ b.isDigit = true := by
  obtain ⟨a, b, hab⟩ := List.length_eq_two.1 (length_padded (show 0 < 2 by decide)
    (show n < 10 ^ 2 by omega))
  have hdigits := all_isDigit_padded 2 n
  rw [hab, List.all_cons, List.all_cons, Bool.and_eq_true, Bool.and_eq_true] at hdigits
  exact ⟨a, b, hab, hdigits.1, hdigits.2.1⟩

/-- A number of three digits, padded, is a triple of digits. -/
theorem padded_three {n : Nat} (h : n ≤ 999) :
    ∃ a b c, padded 3 n = [a, b, c] ∧ a.isDigit = true ∧ b.isDigit = true ∧
      c.isDigit = true := by
  obtain ⟨a, b, c, habc⟩ := List.length_eq_three.1 (length_padded (show 0 < 3 by decide)
    (show n < 10 ^ 3 by omega))
  have hdigits := all_isDigit_padded 3 n
  rw [habc, List.all_cons, List.all_cons, List.all_cons, Bool.and_eq_true, Bool.and_eq_true,
    Bool.and_eq_true] at hdigits
  exact ⟨a, b, c, habc, hdigits.1, hdigits.2.1, hdigits.2.2.1⟩

/-! ## The ends of a written form -/

/-- A sign is taken off in front of a digit. -/
theorem splitSign_signText (d : Duration) {c : Char} (hc : c.isDigit = true) (rest : Text) :
    splitSign (d.signText ++ c :: rest) = (d.isNegative, c :: rest) := by
  rw [signText]
  cases d.isNegative with
  | true => rfl
  | false =>
      -- nothing is written for the sign, and a digit is not taken for one
      have hcode := toNat_of_isDigit hc
      have hminus : c ≠ '-' := by
        rintro rfl
        exact absurd hcode (by decide)
      have hplus : c ≠ '+' := by
        rintro rfl
        exact absurd hcode (by decide)
      rw [if_neg Bool.false_ne_true, List.nil_append, splitSign]
      · intro _ h
        exact hminus (List.cons.inj h).1
      · intro _ h
        exact hplus (List.cons.inj h).1

/-- The **fraction** of a written form is read as its digits. -/
theorem fraction?_fractionText (d : Duration) :
    fraction? d.fractionText = some d.fractionText.tail := by
  rw [fractionText]
  by_cases hms : d.milliseconds = 0
  · rw [if_pos hms]
    rfl
  · rw [if_neg hms, fraction?, if_pos ⟨padded_ne_nil 3 _, all_isDecimalDigit_padded 3 _⟩]
    rfl

/-! ## Reading the pieces -/

/-- A padded 64-bit number is read back. -/
theorem wordValue?_padded (width : Nat) (n : UInt64) :
    wordValue? (padded width n.toNat) = some n := by
  rw [wordValue?, natValue?_padded, Option.bind_some, if_pos n.toNat_lt, UInt64.ofNat_toNat]

/-- Milliseconds that fit their digits are read back. -/
theorem fractionMilliseconds_fractionText {d : Duration} (h : d.milliseconds.toNat ≤ 999) :
    fractionMilliseconds d.fractionText.tail = d.milliseconds := by
  rw [fractionText]
  by_cases hms : d.milliseconds = 0
  · rw [if_pos hms, hms]
    rfl
  · have hlength := length_padded (show 0 < 3 by decide)
      (show d.milliseconds.toNat < 10 ^ 3 by omega)
    rw [if_neg hms, List.tail_cons, fractionMilliseconds, List.take_left' hlength,
      natValue?_padded, Option.getD_some, UInt64.ofNat_toNat]

end Duration

end SequenceBridge
