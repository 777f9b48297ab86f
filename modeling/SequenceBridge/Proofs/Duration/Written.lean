import SequenceBridge.Proofs.Duration.Grammar

/-! # What a written duration reads as
A written duration is a row of digit runs with a letter and colons between them, and so is each of the
two forms. Runs are as long as their numbers need, but the forms fix their lengths, so a duration
is written in a form exactly when its components fit, and then the pieces of the form are
those that were written. What stands behind the clock is a fraction however long it is; of a fraction of
more than three digits the rest is lost.

* **`Duration.textWith`** — a duration written in front of any fraction; both writings are instances.
* **`Duration.FitsForm`** — the components in front of the fraction fit the digits of the forms.
* **`Duration.form_textWith_iff`** — when a written duration has a form, and which pieces it has.
* **`Duration.parse_textWith`** — what is read from it.
* **`Duration.written_read_back_iff`** — when both writings are read back, and what the plain one reads
  as otherwise.
-/

namespace SequenceBridge

namespace Duration

/-! ## Runs of digits -/

/-- A text is cut **in one way only** where its first digits end. -/
theorem IsDigits.append_inj {digits others rest behind : Text} (hdigits : IsDigits digits)
    (hothers : IsDigits others) (hrest : EndsDigits rest) (hbehind : EndsDigits behind)
    (h : digits ++ rest = others ++ behind) : digits = others ∧ rest = behind := by
  obtain ⟨htake, hdrop⟩ := hdigits.takeWhile_append hrest
  obtain ⟨htake', hdrop'⟩ := hothers.takeWhile_append hbehind
  rw [h] at htake hdrop
  exact ⟨htake.symm.trans htake', hdrop.symm.trans hdrop'⟩

theorem isDigits_padded (width n : Nat) : IsDigits (padded width n) :=
  all_isDecimalDigit_iff.1 (all_isDecimalDigit_padded width n)

theorem endsDigits_colon (t : Text) : EndsDigits (':' :: t) := endsDigits_cons (by decide) t

theorem endsDigits_letter (t : Text) : EndsDigits ('T' :: t) := endsDigits_cons (by decide) t

/-! ## A duration in front of a fraction -/

/-- A duration **written in front of a fraction** that need not be its own. -/
def textWith (d : Duration) (tail : Text) : Text :=
  d.signText ++ (d.daysText ++ (d.clockText ++ tail))

/-- The pieces of such a writing. -/
def writingWith (d : Duration) (fraction : Text) : Writing := { d.writing with fraction := fraction }

theorem text_eq_textWith (d : Duration) : d.text = d.textWith d.fractionText := text_eq d

theorem balancedText_eq_textWith (d : Duration) :
    d.balancedText = d.balance.textWith ('.' :: padded 3 d.balance.milliseconds.toNat) := by
  simp [balancedText, textWith]

theorem fraction_fractionText (d : Duration) : Fraction d.fractionText d.fractionText.tail :=
  fraction?_eq_some_iff.1 (fraction?_fractionText d)

theorem fraction_padded (width n : Nat) : Fraction ('.' :: padded width n) (padded width n) :=
  .digits (padded_ne_nil width n) (isDigits_padded width n)

/-- The components in front of the fraction **fit the digits of the forms**: three for the days, two for
hours, minutes and seconds. -/
structure FitsForm (d : Duration) : Prop where
  days : d.days.toNat ≤ 999
  hours : d.hours.toNat ≤ 99
  minutes : d.minutes.toNat ≤ 99
  seconds : d.seconds.toNat ≤ 99

theorem fitsForm_iff (d : Duration) : d.FitsForm ↔ d.days.toNat ≤ 999 ∧ d.hours.toNat ≤ 99 ∧
    d.minutes.toNat ≤ 99 ∧ d.seconds.toNat ≤ 99 :=
  ⟨fun ⟨hd, hh, hm, hs⟩ => ⟨hd, hh, hm, hs⟩, fun ⟨hd, hh, hm, hs⟩ => ⟨hd, hh, hm, hs⟩⟩

instance (d : Duration) : Decidable d.FitsForm := decidable_of_iff' _ (fitsForm_iff d)

/-- A balanced duration fits as soon as its days do. -/
theorem fitsForm_balance_iff (d : Duration) : d.balance.FitsForm ↔ d.balance.days.toNat ≤ 999 := by
  have hclock := fitsClock_balance d
  exact ⟨FitsForm.days, fun h => ⟨h, hclock.hours, hclock.minutes, hclock.seconds⟩⟩

/-! ## The form that it has -/

section

variable {d : Duration} {tail fraction : Text}

theorem sign_signText (d : Duration) : Sign d.signText d.isNegative := by
  unfold signText
  cases d.isNegative with
  | true => exact .minus
  | false => exact .absent

/-- Numbers of two digits are written as a **clock**. -/
theorem clock_clockText (h : d.FitsForm) :
    Clock d.clockText (d.components.hours, d.components.minutes, d.components.seconds) := by
  obtain ⟨h₁, h₂, hhours, -⟩ := padded_two h.hours
  obtain ⟨m₁, m₂, hminutes, -⟩ := padded_two h.minutes
  obtain ⟨s₁, s₂, hseconds, -⟩ := padded_two h.seconds
  have hdigits : IsDigits (padded 2 d.hours.toNat ++ padded 2 d.minutes.toNat ++
      padded 2 d.seconds.toNat) := by
    simp only [IsDigits, List.forall_mem_append]
    exact ⟨⟨isDigits_padded _ _, isDigits_padded _ _⟩, isDigits_padded _ _⟩
  simp only [clockText, components, hhours, hminutes, hseconds] at hdigits ⊢
  exact .mk hdigits

/-- Components that fit are **written in a form**, the full one when there are days. -/
theorem form_textWith (h : d.FitsForm) (htail : Fraction tail fraction) :
    Form (d.textWith tail) (d.writingWith fraction) := by
  have hclock := clock_clockText h
  by_cases hzero : d.days = 0
  · have hform := SimpleForm.clock (sign_signText d) hclock htail
    simp only [textWith, daysText, writingWith, writing, components, if_pos hzero] at hform ⊢
    exact .inr hform
  · obtain ⟨d₁, d₂, d₃, hdays, -⟩ := padded_three h.days
    have hdigits := isDigits_padded 3 d.days.toNat
    rw [hdays] at hdigits
    have hform := FullForm.mk (sign_signText d) hdigits hclock htail
    simp only [textWith, daysText, writingWith, writing, components, if_neg hzero, hdays] at hform ⊢
    exact .inl hform

/-- A writing begins with a digit behind its sign. -/
theorem exists_cons_daysText (d : Duration) (rest : Text) :
    ∃ c t, d.daysText ++ (d.clockText ++ rest) = c :: t ∧ c.isDigit = true := by
  have hpadded : ∀ width n rest, ∃ c t, padded width n ++ rest = c :: t ∧ c.isDigit = true := by
    intro width n rest
    obtain ⟨c, t, hcons⟩ := List.exists_cons_of_ne_nil (padded_ne_nil width n)
    refine ⟨c, t ++ rest, by rw [hcons, List.cons_append], ?_⟩
    exact List.all_eq_true.1 (all_isDigit_padded width n) c (hcons ▸ List.mem_cons_self)
  unfold daysText clockText
  split
  · simpa using hpadded 2 d.hours.toNat _
  · simpa using hpadded 3 d.days.toNat _

theorem splitSign_textWith (d : Duration) (tail : Text) :
    splitSign (d.textWith tail) = (d.isNegative, d.daysText ++ (d.clockText ++ tail)) := by
  obtain ⟨c, t, hcons, hc⟩ := exists_cons_daysText d tail
  rw [textWith, hcons]
  exact splitSign_signText d hc t

/-- A number whose written form is one of two digits **has no more of them**. -/
theorem le_of_padded_two_eq {n : Nat} {a b : Char} (h : padded 2 n = [a, b]) : n ≤ 99 := by
  have hlength : (padded 2 n).length ≤ 2 := by simp [h]
  have hlt := lt_of_length_padded_le (by decide) hlength
  omega

/-- What is written for hours, minutes and seconds **is a clock in one way only**. -/
theorem clock_inj {clock behind others hours minutes seconds : Text} (htail : Fraction tail fraction)
    (hclock : Clock clock (hours, minutes, seconds)) (hbehind : Fraction behind others)
    (h : d.clockText ++ tail = clock ++ behind) :
    (hours = d.components.hours ∧ minutes = d.components.minutes ∧
      seconds = d.components.seconds ∧ others = fraction) ∧
    d.hours.toNat ≤ 99 ∧ d.minutes.toNat ≤ 99 ∧ d.seconds.toNat ≤ 99 := by
  cases hclock with
  | @mk h₁ h₂ m₁ m₂ s₁ s₂ hdigits =>
      have hpairs : IsDigits [h₁, h₂] ∧ IsDigits [m₁, m₂] ∧ IsDigits [s₁, s₂] := by
        simp only [IsDigits, List.forall_mem_cons] at hdigits ⊢
        obtain ⟨hh₁, hh₂, hm₁, hm₂, hs₁, hs₂, hnil⟩ := hdigits
        exact ⟨⟨hh₁, hh₂, hnil⟩, ⟨hm₁, hm₂, hnil⟩, hs₁, hs₂, hnil⟩
      simp only [clockText, List.append_assoc, List.cons_append] at h
      -- the runs agree one after the other: hours, minutes, seconds
      obtain ⟨hh, h⟩ := (isDigits_padded _ _).append_inj hpairs.1 (endsDigits_colon _)
        (endsDigits_colon _) h
      obtain ⟨hm, h⟩ := (isDigits_padded _ _).append_inj hpairs.2.1 (endsDigits_colon _)
        (endsDigits_colon _) (List.cons.inj h).2
      obtain ⟨hs, rfl⟩ := (isDigits_padded _ _).append_inj hpairs.2.2 htail.endsDigits
        hbehind.endsDigits (List.cons.inj h).2
      have hfraction := (fraction?_eq_some_iff.2 hbehind).symm.trans (fraction?_eq_some_iff.2 htail)
      exact ⟨⟨hh.symm, hm.symm, hs.symm, Option.some.inj hfraction⟩, le_of_padded_two_eq hh,
        le_of_padded_two_eq hm, le_of_padded_two_eq hs⟩

/-- The **first run** of a writing ends at a colon when there are no days, and otherwise it is the
days. -/
theorem first_run {digits rest : Text} (hdigits : IsDigits digits) (hrest : EndsDigits rest)
    (h : digits ++ rest = d.daysText ++ (d.clockText ++ tail)) :
    (d.days = 0 ∧ ∃ t, rest = ':' :: t) ∨
      (d.days ≠ 0 ∧ digits = padded 3 d.days.toNat ∧ rest = 'T' :: (d.clockText ++ tail)) := by
  by_cases hzero : d.days = 0
  · simp only [daysText, if_pos hzero, clockText, List.append_assoc, List.cons_append,
      List.nil_append] at h
    exact .inl ⟨hzero, _, (hdigits.append_inj (isDigits_padded _ _) hrest (endsDigits_colon _) h).2⟩
  · simp only [daysText, if_neg hzero, List.append_assoc, List.cons_append, List.nil_append] at h
    exact .inr ⟨hzero, hdigits.append_inj (isDigits_padded _ _) hrest (endsDigits_letter _) h⟩

/-- A writing in the full form **has the pieces that were written**, and they fit. -/
theorem eq_writingWith_of_fullForm {w : Writing} (htail : Fraction tail fraction)
    (h : FullForm (d.textWith tail) w) : w = d.writingWith fraction ∧ d.FitsForm := by
  have hsplit := splitSign_textWith d tail
  generalize d.textWith tail = t at h hsplit
  cases h with
  | @mk sign clock behind hours minutes seconds others isNegative d₁ d₂ d₃ hsign hdays hclock
      hbehind =>
      rw [hsign.splitSign_eq (hdays _ List.mem_cons_self)] at hsplit
      obtain ⟨hnegative, hbody⟩ := Prod.mk.inj hsplit
      have hrun : [d₁, d₂, d₃] ++ 'T' :: (clock ++ behind) =
          d.daysText ++ (d.clockText ++ tail) := hbody
      rcases first_run hdays (endsDigits_letter _) hrun with ⟨-, _, hcolon⟩ | ⟨hne, hthree, hrest⟩
      · simp at hcolon
      · obtain ⟨⟨rfl, rfl, rfl, rfl⟩, hh, hm, hs⟩ :=
          clock_inj htail hclock hbehind (List.cons.inj hrest).2.symm
        have hlength : (padded 3 d.days.toNat).length ≤ 3 := by simp [← hthree]
        have hlt := lt_of_length_padded_le (by decide) hlength
        refine ⟨?_, by omega, hh, hm, hs⟩
        simp [writingWith, writing, hnegative, hthree, components, hne]

/-- So has a writing in the simple form, which is never a bare count. -/
theorem eq_writingWith_of_simpleForm {w : Writing} (htail : Fraction tail fraction)
    (h : SimpleForm (d.textWith tail) w) : w = d.writingWith fraction ∧ d.FitsForm := by
  have hsplit := splitSign_textWith d tail
  generalize d.textWith tail = t at h hsplit
  cases h with
  | @clock sign clock behind hours minutes seconds others isNegative hsign hclock hbehind =>
      obtain ⟨c, rest, hcons, hc⟩ := hclock.exists_cons
      rw [hcons, List.cons_append, hsign.splitSign_eq hc, ← List.cons_append, ← hcons] at hsplit
      obtain ⟨hnegative, hbody⟩ := Prod.mk.inj hsplit
      have hzero : d.days = 0 := by
        cases hclock with
        | @mk h₁ h₂ m₁ m₂ s₁ s₂ hdigits =>
            have hpair : IsDigits [h₁, h₂] := fun x hx =>
              hdigits x (List.mem_append_left [m₁, m₂, s₁, s₂] hx)
            rcases first_run hpair (endsDigits_colon _) hbody with ⟨hzero, -⟩ | ⟨-, -, hletter⟩
            · exact hzero
            · simp at hletter
      simp only [daysText, if_pos hzero, List.nil_append] at hbody
      obtain ⟨⟨rfl, rfl, rfl, rfl⟩, hh, hm, hs⟩ := clock_inj htail hclock hbehind hbody.symm
      refine ⟨?_, by simp [hzero], hh, hm, hs⟩
      simp [writingWith, writing, hnegative, components, hzero]
  | @count sign total behind others isNegative hsign hne htotal hbehind =>
      obtain ⟨c, rest, hcons⟩ := List.exists_cons_of_ne_nil hne
      have hc : isDecimalDigit c = true := htotal c (hcons ▸ List.mem_cons_self)
      rw [hcons, List.cons_append, hsign.splitSign_eq hc, ← List.cons_append, ← hcons] at hsplit
      -- behind a bare count there is a point or nothing, and behind the first run something else
      rcases first_run htotal hbehind.endsDigits (Prod.mk.inj hsplit).2 with
        ⟨-, _, hcolon⟩ | ⟨-, -, hletter⟩
      · cases hbehind <;> simp at hcolon
      · cases hbehind <;> simp at hletter

/-- **A written duration has a form** exactly when its components fit, and then the pieces are those
that were written. -/
theorem form_textWith_iff {w : Writing} (htail : Fraction tail fraction) :
    Form (d.textWith tail) w ↔ w = d.writingWith fraction ∧ d.FitsForm := by
  constructor
  · rintro (hfull | hsimple)
    · exact eq_writingWith_of_fullForm htail hfull
    · exact eq_writingWith_of_simpleForm htail hsimple
  · rintro ⟨rfl, h⟩
    exact form_textWith h htail

/-! ## What is read -/

/-- The pieces that were written denote the duration with **the milliseconds of the fraction**. -/
theorem duration?_writingWith (d : Duration) (fraction : Text) :
    (d.writingWith fraction).duration? =
      some { d with milliseconds := fractionMilliseconds fraction } := by
  have hdays : wordValue? d.components.days = some d.days := by
    unfold components
    split
    · rename_i hzero
      rw [hzero]
      rfl
    · exact wordValue?_padded 3 d.days
  have hhours : wordValue? d.components.hours = some d.hours := wordValue?_padded 2 d.hours
  have hminutes : wordValue? d.components.minutes = some d.minutes := wordValue?_padded 2 d.minutes
  have hseconds : wordValue? d.components.seconds = some d.seconds := wordValue?_padded 2 d.seconds
  simp [Writing.duration?, writingWith, writing, hdays, hhours, hminutes, hseconds, wordValue?_nil]

/-- **What a written duration reads as**: itself, but for the milliseconds of the fraction, when its
components fit; otherwise it is malformed. -/
theorem parse_textWith (d : Duration) (htail : Fraction tail fraction) :
    parse (d.textWith tail) =
      if d.FitsForm then .ok { d with milliseconds := fractionMilliseconds fraction }
      else .error (.malformed (d.textWith tail)) := by
  split
  · rename_i h
    rw [(form_textWith h htail).parse_eq, duration?_writingWith]
    rfl
  · rename_i h
    apply parse_eq_malformed_iff.2
    intro w hw
    exact h ((form_textWith_iff htail).1 hw).2

end

/-- Of milliseconds of more than three digits **only the first three are read**. -/
theorem fractionMilliseconds_padded (n : Nat) :
    fractionMilliseconds (padded 3 n) = UInt64.ofNat (n / 10 ^ ((decimal n).length - 3)) := by
  have hall := all_isDigit_padded 3 n
  have hlength : (padded 3 n).length = 3 - (decimal n).length + (decimal n).length := by
    rw [padded, List.length_append, List.length_replicate]
  have hplace : (padded 3 n).length - 3 = (decimal n).length - 3 := by omega
  have hvalue : Nat.ofDigitChars 10 (padded 3 n) 0 = n := by
    simpa [Text.natValue?, hall] using natValue?_padded 3 n
  have hfirst : (padded 3 n ++ ['0', '0', '0']).take 3 = (padded 3 n).take 3 :=
    List.take_append_of_le_length (by omega)
  have hdigits : ((padded 3 n).take 3).all Char.isDigit = true := by
    rw [List.all_eq_true] at hall ⊢
    intro c hc
    exact hall c (List.mem_of_mem_take hc)
  rw [fractionMilliseconds, hfirst, Text.natValue?, if_pos hdigits, Option.getD_some,
    Text.ofDigitChars_take hall, hvalue, hplace]

/-- The **first three digits of the milliseconds**, or all of them when there are no more. -/
def leadingMilliseconds (d : Duration) : UInt64 :=
  UInt64.ofNat (d.milliseconds.toNat / 10 ^ ((decimal d.milliseconds.toNat).length - 3))

/-- They are what is read from milliseconds in writing. -/
theorem fractionMilliseconds_padded_eq (d : Duration) :
    fractionMilliseconds (padded 3 d.milliseconds.toNat) = d.leadingMilliseconds := by
  rw [fractionMilliseconds_padded, leadingMilliseconds]

/-- So they are from the fraction of a written duration, which may have none. -/
theorem fractionMilliseconds_fractionText_eq (d : Duration) :
    fractionMilliseconds d.fractionText.tail = d.leadingMilliseconds := by
  unfold fractionText
  split
  · rename_i hzero
    rw [leadingMilliseconds, hzero]
    rfl
  · exact fractionMilliseconds_padded_eq d

/-- The first three digits of the milliseconds are **all of them** up to 999. -/
theorem leadingMilliseconds_eq_iff (d : Duration) :
    d.leadingMilliseconds = d.milliseconds ↔ d.milliseconds.toNat ≤ 999 := by
  rw [← fractionMilliseconds_fractionText_eq]
  constructor
  · intro h
    rw [← h]
    exact fractionMilliseconds_le _
  · intro h
    exact fractionMilliseconds_fractionText h

/-- What the **plain writing** reads as. -/
theorem parse_text_eq (d : Duration) :
    parse d.text =
      if d.FitsForm then .ok { d with milliseconds := d.leadingMilliseconds }
      else .error (.malformed d.text) := by
  rw [text_eq_textWith, parse_textWith d (fraction_fractionText d),
    fractionMilliseconds_fractionText_eq]

/-- **A duration that fits its digits is read back** from its written form. -/
theorem parse_text {d : Duration} (h : d.FitsClock) (hdays : d.days.toNat ≤ 999) :
    parse d.text = .ok d := by
  rw [parse_text_eq, if_pos ⟨hdays, h.hours, h.minutes, h.seconds⟩,
    (leadingMilliseconds_eq_iff d).2 h.milliseconds]

/-- A duration of **more than 999 days** is written in neither form. -/
theorem parse_text_of_days_gt {d : Duration} (h : 999 < d.days.toNat) :
    parse d.text = .error (.malformed d.text) := by
  rw [parse_text_eq, if_neg fun hfits => absurd hfits.days (Nat.not_le.2 h)]

/-- What a duration reads as when its **milliseconds are written** and have three digits. -/
theorem parse_textWith_padded {d : Duration} (h : d.milliseconds.toNat ≤ 999) :
    parse (d.textWith ('.' :: padded 3 d.milliseconds.toNat)) =
      if d.FitsForm then .ok d
      else .error (.malformed (d.textWith ('.' :: padded 3 d.milliseconds.toNat))) := by
  rw [parse_textWith d (fraction_padded 3 _), fractionMilliseconds_padded_eq,
    (leadingMilliseconds_eq_iff d).2 h]

/-- What the **balanced writing** reads as. -/
theorem parse_balancedText_eq (d : Duration) :
    parse d.balancedText =
      if d.balance.FitsForm then .ok d.balance else .error (.malformed d.balancedText) := by
  rw [balancedText_eq_textWith, parse_textWith_padded (fitsClock_balance d).milliseconds]

/-- **Written durations and what they read as.** A written duration is read back exactly when its days
are at most 999, its hours, minutes and seconds at most 99 and its milliseconds at most 999; the balanced
writing is read back as the balanced duration exactly when the days of that are at most 999. Too many
days, hours, minutes or seconds make a text in neither form. Too many milliseconds do not: of their
digits the first three are read. -/
theorem written_read_back_iff (d : Duration) :
    (parse d.text = .ok d ↔ d.days.toNat ≤ 999 ∧ d.hours.toNat ≤ 99 ∧ d.minutes.toNat ≤ 99 ∧
      d.seconds.toNat ≤ 99 ∧ d.milliseconds.toNat ≤ 999) ∧
    (parse d.balancedText = .ok d.balance ↔ d.balance.days.toNat ≤ 999) ∧
    parse d.text =
      if d.days.toNat ≤ 999 ∧ d.hours.toNat ≤ 99 ∧ d.minutes.toNat ≤ 99 ∧ d.seconds.toNat ≤ 99 then
        .ok { d with milliseconds := d.leadingMilliseconds }
      else
        .error (.malformed d.text) := by
  refine ⟨?_, ?_, ?_⟩
  · rw [parse_text_eq, ← leadingMilliseconds_eq_iff]
    split
    · rename_i h
      obtain ⟨hd, hh, hm, hs⟩ := h
      simp only [Except.ok.injEq, hd, hh, hm, hs, true_and]
      exact ⟨fun heq => congrArg milliseconds heq, fun heq => by rw [heq]⟩
    · rename_i h
      simp only [reduceCtorEq, false_iff]
      intro ⟨hd, hh, hm, hs, _⟩
      exact h ⟨hd, hh, hm, hs⟩
  · rw [parse_balancedText_eq, ← fitsForm_balance_iff]
    split
    · rename_i h
      exact iff_of_true rfl h
    · rename_i h
      exact iff_of_false (by simp) h
  · rw [parse_text_eq]
    by_cases h : d.FitsForm
    · rw [if_pos h, if_pos ((fitsForm_iff d).1 h)]
    · rw [if_neg h, if_neg (mt (fitsForm_iff d).2 h)]

example : parse (text ⟨false, 0, 0, 0, 1, 1234⟩) = .ok ⟨false, 0, 0, 0, 1, 123⟩ := by
  decide +kernel

end Duration

end SequenceBridge
