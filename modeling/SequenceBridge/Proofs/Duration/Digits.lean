import Mathlib.Data.List.Basic
import SequenceBridge.Proofs.Duration.Grammar

/-! # The digits of written durations
A digit of a written duration may be of any script, but numbers are read from ASCII digits only. In
front of the fraction this is safe: a digit that cannot be read makes the whole text unreadable. In the
first three digits of the fraction it is not, because there the milliseconds are zero instead.

* **`Text.decimalValue`** — the number that decimal digits of any script stand for.
* **`wordValue?_eq_some`**, **`wordValue?_eq_none_iff`** — the number that is read from digits, and when
  none is.
* **`Writing.duration?_eq_none_iff`** — when the pieces of a form denote no duration.
* **`fractionMilliseconds_eq_iff`** — when the milliseconds are those of the fraction.
* **`parse_reads_digits_iff`** — what is read, component by component, and what is not.
-/

namespace SequenceBridge

/-! ## The number of digits -/

namespace Text

/-- The **number that decimal digits stand for**, each of any script and counted by its place. -/
def decimalValue : Text → Nat
  | [] => 0
  | c :: t => (digitValue? c).getD 0 * 10 ^ t.length + decimalValue t

@[simp] theorem decimalValue_nil : decimalValue [] = 0 := rfl

theorem decimalValue_cons (c : Char) (t : Text) :
    decimalValue (c :: t) = (digitValue? c).getD 0 * 10 ^ t.length + decimalValue t := rfl

/-- A digit of ASCII has the value of **its distance from zero**. -/
theorem digitValue?_of_isDigit {c : Char} (h : c.isDigit = true) :
    digitValue? c = some (c.toNat - '0'.toNat) := by
  have hc := toNat_of_isDigit h
  have hzero : '0'.toNat = 48 := rfl
  -- the zero of ASCII is the first one of the table
  rw [digitValue?, digitZeros, List.find?_cons_of_pos]
  · rw [Option.map_some, hzero]
  · rw [Bool.and_eq_true, decide_eq_true_eq, decide_eq_true_eq]
    omega

/-- Digits of ASCII stand for **the number that is read from them**. -/
theorem decimalValue_eq_ofDigitChars {t : Text} (h : t.all Char.isDigit = true) :
    decimalValue t = Nat.ofDigitChars 10 t 0 := by
  induction t with
  | nil => rfl
  | cons c t ih =>
      rw [List.all_cons, Bool.and_eq_true] at h
      have hplace : Nat.ofDigitChars 10 (c :: t) 0 =
          10 ^ t.length * (c.toNat - '0'.toNat) + Nat.ofDigitChars 10 t 0 := by
        rw [Nat.ofDigitChars_cons, Nat.ofDigitChars_eq_ofDigitChars_zero, Nat.mul_zero,
          Nat.zero_add]
      rw [decimalValue_cons, digitValue?_of_isDigit h.1, Option.getD_some, ih h.2, hplace,
        Nat.mul_comm]

/-- A number is read from a text exactly when **all its characters are digits of ASCII**, and it is the
number that they stand for. -/
theorem natValue?_eq (t : Text) :
    t.natValue? = if t.all Char.isDigit = true then some t.decimalValue else none := by
  rw [natValue?]
  split
  · rename_i h
    rw [decimalValue_eq_ofDigitChars h]
  · rfl

end Text

namespace Duration

/-- The number of 64 bits that is read from digits is **the one that they stand for**. -/
theorem wordValue?_eq_some {digits : Text} {n : UInt64} (h : wordValue? digits = some n) :
    n.toNat = digits.decimalValue := by
  obtain ⟨m, hm, hn⟩ := Option.bind_eq_some_iff.1 h
  rw [Text.natValue?_eq] at hm
  split at hm
  · cases hm
    split at hn
    · rename_i hlt
      rw [← Option.some.inj hn]
      exact UInt64.toNat_ofNat_of_lt hlt
    · cases hn
  · cases hm

/-- **No number is read** from digits exactly when one of them is not of ASCII, or they stand for a
number of more than 64 bits. -/
theorem wordValue?_eq_none_iff {digits : Text} :
    wordValue? digits = none ↔
      ¬ digits.all Char.isDigit = true ∨ 2 ^ 64 ≤ digits.decimalValue := by
  have hsize : UInt64.size = 2 ^ 64 := rfl
  rw [wordValue?, Text.natValue?_eq]
  by_cases hascii : digits.all Char.isDigit = true
  · rw [if_pos hascii, Option.bind_some, hsize]
    by_cases hlt : digits.decimalValue < 2 ^ 64
    · rw [if_pos hlt, or_iff_right (not_not_intro hascii)]
      exact iff_of_false (Option.some_ne_none _) (Nat.not_le.2 hlt)
    · rw [if_neg hlt]
      exact iff_of_true rfl (.inr (Nat.not_lt.1 hlt))
  · rw [if_neg hascii]
    exact iff_of_true rfl (.inl hascii)

/-- A few digits of ASCII are **always read**. -/
theorem wordValue?_eq_none_iff_of_length_le {digits : Text} (h : digits.length ≤ 3) :
    wordValue? digits = none ↔ ¬ digits.all Char.isDigit = true := by
  rw [wordValue?_eq_none_iff, or_iff_left_iff_imp]
  intro hlarge hascii
  have hvalue : digits.natValue? = some digits.decimalValue := by
    rw [Text.natValue?_eq, if_pos hascii]
  have hlt := Text.natValue?_lt hvalue
  have hpow : 10 ^ digits.length ≤ 10 ^ 3 := Nat.pow_le_pow_right (by decide) h
  omega

/-! ## Components -/

/-- Only a **bare count** has more than three digits. -/
theorem Form.length_le {t : Text} {w : Writing} (h : Form t w) :
    w.days.length ≤ 3 ∧ w.hours.length ≤ 3 ∧ w.minutes.length ≤ 3 ∧ w.seconds.length ≤ 3 := by
  have hpairs : ∀ {clock hours minutes seconds : Text}, Clock clock (hours, minutes, seconds) →
      hours.length = 2 ∧ minutes.length = 2 ∧ seconds.length = 2 := by
    intro clock hours minutes seconds hclock
    cases hclock
    exact ⟨rfl, rfl, rfl⟩
  rcases h with ⟨-, -, hclock, -⟩ | ⟨-, hclock, -⟩ | ⟨-, -, -, -⟩
  · obtain ⟨hhours, hminutes, hseconds⟩ := hpairs hclock
    simp [hhours, hminutes, hseconds]
  · obtain ⟨hhours, hminutes, hseconds⟩ := hpairs hclock
    simp [hhours, hminutes, hseconds]
  · simp

/-- **The pieces of a form denote no duration** exactly when a digit in front of the fraction is not of
ASCII, or the bare count takes more than 64 bits. -/
theorem Writing.duration?_eq_none_iff {t : Text} {w : Writing} (h : Form t w) :
    w.duration? = none ↔
      ¬ w.wholeDigits.all Char.isDigit = true ∨ 2 ^ 64 ≤ w.total.decimalValue := by
  obtain ⟨hdays, hhours, hminutes, hseconds⟩ := h.length_le
  have hnone : w.duration? = none ↔ wordValue? w.days = none ∨ wordValue? w.hours = none ∨
      wordValue? w.minutes = none ∨ wordValue? w.seconds = none ∨ wordValue? w.total = none := by
    rw [Writing.duration?]
    cases wordValue? w.days with
    | none => simp
    | some _ =>
        cases wordValue? w.hours with
        | none => simp
        | some _ =>
            cases wordValue? w.minutes with
            | none => simp
            | some _ =>
                cases wordValue? w.seconds with
                | none => simp
                | some _ => cases wordValue? w.total <;> simp
  rw [hnone, wordValue?_eq_none_iff_of_length_le hdays,
    wordValue?_eq_none_iff_of_length_le hhours, wordValue?_eq_none_iff_of_length_le hminutes,
    wordValue?_eq_none_iff_of_length_le hseconds, wordValue?_eq_none_iff]
  simp only [Writing.wholeDigits, List.all_append, Bool.and_eq_true, not_and_or, or_assoc]

/-- **Every component but the milliseconds** is the number that its digits stand for. -/
theorem toNat_of_duration? {t : Text} {w : Writing} {d : Duration} (h : Form t w)
    (hd : w.duration? = some d) :
    d.days.toNat = w.days.decimalValue ∧ d.hours.toNat = w.hours.decimalValue ∧
      d.minutes.toNat = w.minutes.decimalValue ∧
        d.seconds.toNat = w.seconds.decimalValue + w.total.decimalValue := by
  obtain ⟨hdays, hhours, hminutes, ⟨seconds, total, hseconds, htotal, hsum⟩, -⟩ :=
    duration?_eq_some hd
  refine ⟨wordValue?_eq_some hdays, wordValue?_eq_some hhours, wordValue?_eq_some hminutes, ?_⟩
  -- one of the two summands is zero, so the sum does not wrap around
  obtain ⟨-, -, hempty | hempty⟩ := h.isDigits
  · rw [hempty, wordValue?_nil] at hseconds
    rw [hsum, ← Option.some.inj hseconds, UInt64.zero_add, wordValue?_eq_some htotal, hempty,
      Text.decimalValue_nil, Nat.zero_add]
  · rw [hempty, wordValue?_nil] at htotal
    rw [hsum, ← Option.some.inj htotal, UInt64.add_zero, wordValue?_eq_some hseconds, hempty,
      Text.decimalValue_nil, Nat.add_zero]

/-! ## Milliseconds -/

/-- The **digits that the milliseconds come from**: the first three of the fraction, with zeros behind
it when it is shorter. -/
def Writing.thousandths (w : Writing) : Text := (w.fraction ++ ['0', '0', '0']).take 3

theorem length_thousandths (w : Writing) : w.thousandths.length = 3 := by
  rw [Writing.thousandths, List.length_take, List.length_append]
  exact Nat.min_eq_left (Nat.le_add_left 3 _)

/-- The milliseconds are **those of the fraction, or zero** when a digit of them is not of ASCII. -/
theorem toNat_fractionMilliseconds (w : Writing) :
    (fractionMilliseconds w.fraction).toNat =
      if w.thousandths.all Char.isDigit = true then w.thousandths.decimalValue else 0 := by
  have hvalue := Text.natValue?_eq w.thousandths
  rw [fractionMilliseconds, ← Writing.thousandths]
  split at hvalue
  · have hlt := Text.natValue?_lt hvalue
    rw [length_thousandths] at hlt
    rename_i hascii
    rw [hvalue, Option.getD_some, if_pos hascii]
    exact UInt64.toNat_ofNat_of_lt (Nat.lt_trans hlt (by decide))
  · rename_i hascii
    rw [hvalue, Option.getD_none, if_neg hascii]
    rfl

/-- **The milliseconds are those of the fraction** exactly when their digits are of ASCII, or all of
them are zeros. -/
theorem fractionMilliseconds_eq_iff (w : Writing) :
    (fractionMilliseconds w.fraction).toNat = w.thousandths.decimalValue ↔
      w.thousandths.all Char.isDigit = true ∨ w.thousandths.decimalValue = 0 := by
  rw [toNat_fractionMilliseconds]
  split
  · rename_i h
    exact iff_of_true rfl (.inl h)
  · rename_i h
    rw [or_iff_right h]
    exact eq_comm

/-! ## Reading -/

/-- **A duration has the digits of its text.** Whenever one is read, the text has one of the forms, in
one way only, and every component but the milliseconds is the number that its digits stand for; a bare
count gives the seconds. The milliseconds are the first three digits of the fraction exactly when these
are of ASCII, or all zeros; otherwise they are zero. From a text in one of the forms none is read,
because a number is out of range, exactly when a digit in front of the fraction is not of ASCII or a
bare count takes more than 64 bits. -/
theorem parse_reads_digits_iff (t : Text) :
    (∀ d, parse t = .ok d →
      ∃ w, Form t w ∧ (∀ v, Form t v → v = w) ∧ (w.seconds = [] ∨ w.total = []) ∧
        d.days.toNat = w.days.decimalValue ∧ d.hours.toNat = w.hours.decimalValue ∧
        d.minutes.toNat = w.minutes.decimalValue ∧
        d.seconds.toNat = w.seconds.decimalValue + w.total.decimalValue ∧
        (d.milliseconds.toNat = w.thousandths.decimalValue ↔
          w.thousandths.all Char.isDigit = true ∨ w.thousandths.decimalValue = 0) ∧
        (¬ w.thousandths.all Char.isDigit = true → d.milliseconds = 0)) ∧
    ∀ w, Form t w →
      (parse t = .error (.outOfRange t) ↔
        ¬ w.wholeDigits.all Char.isDigit = true ∨ 2 ^ 64 ≤ w.total.decimalValue) := by
  constructor
  · intro d hread
    obtain ⟨w, hw, hd⟩ := parse_eq_ok_iff.1 hread
    have hform : Form t w := form_iff.2 hw
    obtain ⟨hdays, hhours, hminutes, hseconds⟩ := toNat_of_duration? hform hd
    have hms : d.milliseconds = fractionMilliseconds w.fraction := (duration?_eq_some hd).2.2.2.2
    refine ⟨w, hform, fun v hv => hv.unique hform, hform.isDigits.2.2, hdays, hhours, hminutes,
      hseconds, ?_, fun hnot => ?_⟩
    · rw [hms]
      exact fractionMilliseconds_eq_iff w
    · rw [hms]
      refine UInt64.toNat_inj.1 ?_
      rw [toNat_fractionMilliseconds, if_neg hnot]
      rfl
  · intro w hform
    rw [← Writing.duration?_eq_none_iff hform, hform.parse_eq]
    cases w.duration? with
    | none => exact iff_of_true rfl rfl
    | some d => exact iff_of_false (fun h => by cases h) (fun h => by cases h)

/-- A full form with more digits in its fraction than count is read digit by digit. A bare count in
digits of another script is out of range. -/
theorem parse_reads_digits_full :
    (∃ w, Form "-999T00:61:07.0459".toList w ∧ 999 = w.days.decimalValue ∧
      61 = w.minutes.decimalValue ∧ 45 = w.thousandths.decimalValue) ∧
      Form "\u0663\u0660".toList ⟨false, [], [], [], [], "\u0663\u0660".toList, []⟩ ∧
        parse "\u0663\u0660".toList = .error (.outOfRange "\u0663\u0660".toList) := by
  have hread : parse "-999T00:61:07.0459".toList = .ok ⟨true, 999, 0, 61, 7, 45⟩ := by
    decide +kernel
  have hform : Form "\u0663\u0660".toList ⟨false, [], [], [], [], "\u0663\u0660".toList, []⟩ :=
    form_iff.2 (by decide +kernel)
  refine ⟨?_, hform, ?_⟩
  · obtain ⟨w, hw, hunique, -, hdays, -, hminutes, -, hms, -⟩ :=
      (parse_reads_digits_iff "-999T00:61:07.0459".toList).1 _ hread
    have hpieces : w = ⟨true, "999".toList, "00".toList, "61".toList, "07".toList, [],
        "0459".toList⟩ := (hunique _ (form_iff.2 (by decide +kernel))).symm
    refine ⟨w, hw, hdays, hminutes, hms.2 (.inl ?_)⟩
    rw [hpieces]
    decide
  · exact ((parse_reads_digits_iff "\u0663\u0660".toList).2 _ hform).2 (.inl (by decide))

/-- The pieces of one second and a fraction, which is the Arabic digit five. -/
def foreignFraction : Writing :=
  ⟨false, [], "00".toList, "00".toList, "01".toList, [], ['\u0665']⟩

/-- **Half a second in a digit of another script** is read as no milliseconds at all. -/
theorem parse_foreignFraction :
    Form "00:00:01.\u0665".toList foreignFraction ∧
      foreignFraction.thousandths.decimalValue = 500 ∧
        parse "00:00:01.\u0665".toList = .ok ⟨false, 0, 0, 0, 1, 0⟩ := by
  refine ⟨form_iff.2 ?_, ?_, ?_⟩
  · decide +kernel
  · decide +kernel
  · decide +kernel

end Duration

end SequenceBridge
