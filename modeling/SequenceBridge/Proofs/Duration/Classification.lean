import SequenceBridge.Proofs.Duration.Digits

/-! # Every text is read, malformed or out of range
Reading sorts all texts into three classes. A text without a form is malformed. A text with a form is out
of range when one of its numbers is no number of 64 bits, and it is read otherwise; its sign is then the
minus at its front, if there is one.

* **`Duration.isFull_iff`**, **`Duration.isSimple_iff`** — the two checks decide the two forms.
* **`Text.decimalValue_dropWhile_zero`** — zeros in front of a number do not count.
* **`Duration.Writing.IsOutOfRange`** — a number of a form takes more than 64 bits or is not of ASCII.
* **`Duration.Form.isNegative_iff`** — the sign of a form is the first character of the text.
* **`Duration.Form.seconds_add_total_lt`** — seconds and bare count do not overflow.
* **`Duration.parse_classifies`** — the three classes.
-/

namespace SequenceBridge

/-! ## Zeros in front -/

namespace Text

/-- **Zeros in front** of a number do not count, however many there are. -/
theorem decimalValue_dropWhile_zero (t : Text) :
    decimalValue (t.dropWhile (· = '0')) = decimalValue t := by
  induction t with
  | nil => rfl
  | cons c t ih =>
      by_cases hc : c = '0'
      · have hzero : digitValue? '0' = some 0 := digitValue?_of_isDigit rfl
        simp [hc, ih, decimalValue_cons, hzero]
      · simp [hc]

end Text

namespace Duration

/-! ## The forms and their checks -/

/-- The first check decides the **full form**. -/
theorem isFull_iff {t : Text} : isFull t = true ↔ ∃ w, FullForm t w := by
  simp only [isFull, Option.isSome_iff_exists, full?_eq_some_iff]

/-- The second check decides the **simple form**. -/
theorem isSimple_iff {t : Text} : isSimple t = true ↔ ∃ w, SimpleForm t w := by
  simp only [isSimple, Option.isSome_iff_exists, simple?_eq_some_iff]

/-- A text with a form is a sign with something that **begins with a digit** behind it. -/
theorem Form.exists_sign {t : Text} {w : Writing} (h : Form t w) :
    ∃ sign c rest, Sign sign w.isNegative ∧ isDecimalDigit c = true ∧ t = sign ++ c :: rest := by
  rcases h with ⟨hsign, hdays, -, -⟩ | ⟨hsign, hclock, -⟩ | ⟨hsign, hne, htotal, -⟩
  · exact ⟨_, _, _, hsign, hdays _ List.mem_cons_self, rfl⟩
  · obtain ⟨c, rest, rfl, hc⟩ := hclock.exists_cons
    exact ⟨_, c, _, hsign, hc, rfl⟩
  · obtain ⟨c, rest, rfl⟩ := List.exists_cons_of_ne_nil hne
    exact ⟨_, c, _, hsign, htotal _ List.mem_cons_self, rfl⟩

/-- A form is **negative** exactly when the text begins with a minus. -/
theorem Form.isNegative_iff {t : Text} {w : Writing} (h : Form t w) :
    w.isNegative = true ↔ t.head? = some '-' := by
  obtain ⟨sign, c, rest, hsign, hc, rfl⟩ := h.exists_sign
  generalize w.isNegative = isNegative at hsign ⊢
  cases hsign with
  | absent =>
      have hminus : c ≠ '-' := by
        rintro rfl
        exact absurd hc (by decide)
      simp [hminus]
  | plus => simp
  | minus => simp

/-! ## Numbers of a form -/

/-- A form is **out of range** when a digit in front of its fraction is not of ASCII, or the bare count
takes more than 64 bits; zeros in front of the count do not matter. -/
def Writing.IsOutOfRange (w : Writing) : Prop :=
  ¬ w.wholeDigits.all Char.isDigit = true ∨
    2 ^ 64 ≤ Text.decimalValue (w.total.dropWhile (· = '0'))

instance (w : Writing) : Decidable w.IsOutOfRange :=
  inferInstanceAs (Decidable (¬ w.wholeDigits.all Char.isDigit = true ∨
    2 ^ 64 ≤ Text.decimalValue (w.total.dropWhile (· = '0'))))

/-- Exactly then its pieces denote no duration. -/
theorem Form.duration?_eq_none_iff {t : Text} {w : Writing} (h : Form t w) :
    w.duration? = none ↔ w.IsOutOfRange := by
  rw [Writing.duration?_eq_none_iff h, Writing.IsOutOfRange, Text.decimalValue_dropWhile_zero]

/-- The duration that some pieces denote has their sign. -/
theorem Writing.isNegative_of_duration? {w : Writing} {d : Duration} (h : w.duration? = some d) :
    d.isNegative = w.isNegative := by
  simp only [Writing.duration?, Option.bind_eq_bind, Option.bind_eq_some_iff, Option.pure_def,
    Option.some.injEq] at h
  obtain ⟨_, -, _, -, _, -, _, -, _, -, rfl⟩ := h
  rfl

/-- Of **seconds and bare count** one is missing, so their sum is a number of 64 bits. -/
theorem Form.seconds_add_total_lt {t : Text} {w : Writing} (h : Form t w) {seconds total : UInt64}
    (hseconds : wordValue? w.seconds = some seconds) (htotal : wordValue? w.total = some total) :
    seconds.toNat + total.toNat < 2 ^ 64 := by
  have hs := seconds.toNat_lt
  have ht := total.toNat_lt
  rcases h.isDigits.2.2 with hempty | hempty
  · rw [hempty, wordValue?_nil, Option.some.injEq] at hseconds
    simp [← hseconds, ht]
  · rw [hempty, wordValue?_nil, Option.some.injEq] at htotal
    simp [← htotal, hs]

/-! ## The three classes -/

/-- A text with a form is **out of range** exactly when one of its numbers is. -/
theorem Form.parse_eq_outOfRange_iff {t : Text} {w : Writing} (h : Form t w) :
    parse t = .error (.outOfRange t) ↔ w.IsOutOfRange := by
  rw [← h.duration?_eq_none_iff, h.parse_eq]
  cases w.duration? <;> simp

/-- Otherwise **it is read**, with the sign at its front. -/
theorem Form.exists_parse_eq {t : Text} {w : Writing} (h : Form t w) (hrange : ¬ w.IsOutOfRange) :
    ∃ d, parse t = .ok d ∧ (d.isNegative = true ↔ t.head? = some '-') := by
  rw [← h.duration?_eq_none_iff, ← Ne, Option.ne_none_iff_exists'] at hrange
  obtain ⟨d, hd⟩ := hrange
  refine ⟨d, by rw [h.parse_eq, hd, Option.elim_some], ?_⟩
  rw [Writing.isNegative_of_duration? hd, h.isNegative_iff]

/-- **Reading sorts all texts.** The two checks decide the two forms of the grammar, and no text has
both. A text is read, or malformed, or out of range; it is malformed exactly when it has neither form. A
text with a form is out of range exactly when a digit in front of its fraction is not of ASCII or its
bare count takes more than 64 bits, not counting zeros in front; otherwise it is read, and is negative
exactly when it begins with a minus. The sum of its seconds and its bare count never overflows. -/
theorem parse_classifies (t : Text) :
    (isFull t = true ↔ ∃ w, FullForm t w) ∧ (isSimple t = true ↔ ∃ w, SimpleForm t w) ∧
    ¬ (isFull t = true ∧ isSimple t = true) ∧
    ((∃ d, parse t = .ok d) ∨ parse t = .error (.malformed t) ∨ parse t = .error (.outOfRange t)) ∧
    (parse t = .error (.malformed t) ↔ (¬ ∃ w, FullForm t w) ∧ ¬ ∃ w, SimpleForm t w) ∧
    ∀ w, Form t w →
      (parse t = .error (.outOfRange t) ↔ w.IsOutOfRange) ∧
      (¬ w.IsOutOfRange → ∃ d, parse t = .ok d ∧ (d.isNegative = true ↔ t.head? = some '-')) ∧
      ∀ seconds total, wordValue? w.seconds = some seconds → wordValue? w.total = some total →
        seconds.toNat + total.toNat < 2 ^ 64 := by
  have hmalformed : parse t = .error (.malformed t) ↔
      (¬ ∃ w, FullForm t w) ∧ ¬ ∃ w, SimpleForm t w := by
    rw [parse_eq_malformed_iff, ← not_or, ← exists_or, not_exists]
    rfl
  refine ⟨isFull_iff, isSimple_iff, ?_, ?_, hmalformed, ?_⟩
  · rintro ⟨hfull, hsimple⟩
    simp [isFull_eq_false_of_isSimple hsimple] at hfull
  · by_cases hform : ∃ w, Form t w
    · obtain ⟨w, hw⟩ := hform
      by_cases hrange : w.IsOutOfRange
      · exact .inr (.inr (hw.parse_eq_outOfRange_iff.2 hrange))
      · obtain ⟨d, hd, -⟩ := hw.exists_parse_eq hrange
        exact .inl ⟨d, hd⟩
    · exact .inr (.inl (parse_eq_malformed_iff.2 (not_exists.1 hform)))
  · intro w hw
    exact ⟨hw.parse_eq_outOfRange_iff, hw.exists_parse_eq,
      fun _ _ hseconds htotal => hw.seconds_add_total_lt hseconds htotal⟩

/-- The pieces of a positive bare count. -/
def bareCount (total fraction : Text) : Writing := ⟨false, [], [], [], [], total, fraction⟩

/-- The **greatest count** is read behind zeros and in front of a fraction of another script. One second
more is out of range. -/
theorem parse_classifies_greatestCount :
    (∃ d, parse "+0018446744073709551615.\u0665".toList = .ok d ∧
      (d.isNegative = true ↔ "+0018446744073709551615.\u0665".toList.head? = some '-')) ∧
    (0 : UInt64).toNat + (18446744073709551615 : UInt64).toNat < 2 ^ 64 ∧
    parse "18446744073709551616".toList = .error (.outOfRange "18446744073709551616".toList) := by
  have hgreatest : Form "+0018446744073709551615.\u0665".toList
      (bareCount "0018446744073709551615".toList ['\u0665']) := form_iff.2 (by decide +kernel)
  have hbeyond : Form "18446744073709551616".toList
      (bareCount "18446744073709551616".toList []) := form_iff.2 (by decide +kernel)
  obtain ⟨-, -, -, -, -, hread⟩ := parse_classifies "+0018446744073709551615.\u0665".toList
  obtain ⟨-, hok, hsum⟩ := hread _ hgreatest
  obtain ⟨-, -, -, -, -, hrefused⟩ := parse_classifies "18446744073709551616".toList
  refine ⟨hok (by decide +kernel), ?_, (hrefused _ hbeyond).1.2 (by decide +kernel)⟩
  exact hsum 0 18446744073709551615 rfl (by decide +kernel)

end Duration

end SequenceBridge
