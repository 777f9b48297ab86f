import SequenceBridge.Proofs.Duration.Balance

/-! # Balancing as a normal form
A balanced duration is the only one of its sign and size among those that are in balance, so sizes can
be compared component by component, the days first. Balancing keeps the size exactly when the days of
that size fit into 64 bits. Beyond, the days stop at the greatest 64-bit number and the size shrinks.

* **`Duration.FitsDays`** — the days of the size fit into 64 bits.
* **`Duration.balance_eq_self`** — a duration in balance is its own balanced form.
* **`Duration.totalMilliseconds_lt_iff_fields_lt`** — in balance, the smaller size has the components
  that come first.
* **`Duration.balance_normal_form`** — all of this for the balanced form of any duration.
-/

namespace SequenceBridge

namespace Duration

/-! ## In balance -/

/-- The days of a duration in balance are **the whole days of its size**. -/
theorem InBalance.totalMilliseconds_div {d : Duration} (h : d.InBalance) :
    d.totalMilliseconds / perDay = d.days.toNat := by
  obtain ⟨hhours, hminutes, hseconds, hmilliseconds⟩ := h
  simp only [totalMilliseconds, perDay, perHour, perMinute, perSecond]
  omega

/-- The components below the days are **the shares of its size**. -/
theorem InBalance.totalMilliseconds_mod {d : Duration} (h : d.InBalance) :
    d.totalMilliseconds % perDay / perHour = d.hours.toNat ∧
      d.totalMilliseconds % perHour / perMinute = d.minutes.toNat ∧
        d.totalMilliseconds % perMinute / perSecond = d.seconds.toNat ∧
          d.totalMilliseconds % perSecond = d.milliseconds.toNat := by
  obtain ⟨hhours, hminutes, hseconds, hmilliseconds⟩ := h
  simp only [totalMilliseconds, perDay, perHour, perMinute, perSecond]
  omega

/-- Durations of one sign are equal when their components are. -/
theorem eq_of_toNat_eq {d e : Duration} (hsign : d.isNegative = e.isNegative)
    (hdays : d.days.toNat = e.days.toNat) (hhours : d.hours.toNat = e.hours.toNat)
    (hminutes : d.minutes.toNat = e.minutes.toNat) (hseconds : d.seconds.toNat = e.seconds.toNat)
    (hmilliseconds : d.milliseconds.toNat = e.milliseconds.toNat) : d = e := by
  cases d
  cases e
  simp only [UInt64.toNat_inj] at hdays hhours hminutes hseconds hmilliseconds
  simp only [mk.injEq]
  exact ⟨hsign, hdays, hhours, hminutes, hseconds, hmilliseconds⟩

/-- A duration in balance is **its own balanced form**. -/
theorem balance_eq_self {d : Duration} (h : d.InBalance) : d.balance = d := by
  obtain ⟨hhours, hminutes, hseconds, hmilliseconds⟩ := toNat_balance d
  obtain ⟨hh, hm, hs, hms⟩ := h.totalMilliseconds_mod
  have hdays : d.balance.days.toNat = d.days.toNat := by
    have hlt := d.days.toNat_lt
    rw [toNat_days_balance, h.totalMilliseconds_div]
    exact Nat.min_eq_left (Nat.le_sub_one_of_lt hlt)
  exact eq_of_toNat_eq (isNegative_balance d) hdays (hhours.trans hh) (hminutes.trans hm)
    (hseconds.trans hs) (hmilliseconds.trans hms)

/-! ## Sizes -/

/-- Every size is a number of **128 bits**. -/
theorem totalMilliseconds_lt (d : Duration) : d.totalMilliseconds < 2 ^ 128 := by
  have hdays := d.days.toNat_lt
  have hhours := d.hours.toNat_lt
  have hminutes := d.minutes.toNat_lt
  have hseconds := d.seconds.toNat_lt
  have hmilliseconds := d.milliseconds.toNat_lt
  simp only [totalMilliseconds, perDay, perHour, perMinute, perSecond]
  omega

/-- The **days of the size** fit into 64 bits. -/
def FitsDays (d : Duration) : Prop := d.totalMilliseconds / perDay ≤ 2 ^ 64 - 1

instance (d : Duration) : Decidable d.FitsDays :=
  inferInstanceAs (Decidable (d.totalMilliseconds / perDay ≤ 2 ^ 64 - 1))

/-- Beyond 64 bits the days stop, and **the size shrinks**. -/
theorem balance_of_not_fitsDays {d : Duration} (h : ¬ d.FitsDays) :
    d.balance.days.toNat = 2 ^ 64 - 1 ∧ d.balance.totalMilliseconds < d.totalMilliseconds := by
  have hsize := totalMilliseconds_balance_eq d
  have hdays := toNat_days_balance d
  have hmin : min (d.totalMilliseconds / perDay) (UInt64.size - 1) = 2 ^ 64 - 1 :=
    Nat.min_eq_right (Nat.le_of_not_le h)
  rw [hmin] at hdays hsize
  rw [FitsDays] at h
  refine ⟨hdays, ?_⟩
  rw [hsize]
  simp only [perDay, perHour, perMinute, perSecond] at h ⊢
  omega

/-- **Balancing keeps the size** exactly when the days of the size fit into 64 bits. -/
theorem totalMilliseconds_balance_eq_iff (d : Duration) :
    d.balance.totalMilliseconds = d.totalMilliseconds ↔ d.FitsDays := by
  constructor
  · intro hkeeps
    by_contra hnot
    exact absurd hkeeps (Nat.ne_of_lt (balance_of_not_fitsDays hnot).2)
  · intro hfits
    exact totalMilliseconds_balance (Nat.lt_of_le_of_lt hfits (by decide))

/-! ## Order -/

/-- The **components** of a duration as numbers, the greatest unit first. -/
def fields (d : Duration) : List Nat :=
  [d.days.toNat, d.hours.toNat, d.minutes.toNat, d.seconds.toNat, d.milliseconds.toNat]

/-- In balance, **the smaller size has the components that come first**. -/
theorem totalMilliseconds_lt_iff_fields_lt {d e : Duration} (hd : d.InBalance)
    (he : e.InBalance) : d.totalMilliseconds < e.totalMilliseconds ↔ d.fields < e.fields := by
  obtain ⟨hdh, hdm, hds, hdms⟩ := hd
  obtain ⟨heh, hem, hes, hems⟩ := he
  simp only [fields, List.cons_lt_cons_iff, List.not_lt_nil, and_false, or_false]
  simp only [totalMilliseconds, perDay, perHour, perMinute, perSecond]
  omega

/-- Within 64 bits of days, sizes are **compared by the components of the balanced forms**. -/
theorem totalMilliseconds_lt_iff_balance {d e : Duration} (hd : d.FitsDays) (he : e.FitsDays) :
    d.totalMilliseconds < e.totalMilliseconds ↔ d.balance.fields < e.balance.fields := by
  have horder := totalMilliseconds_lt_iff_fields_lt (inBalance_balance d) (inBalance_balance e)
  rwa [(totalMilliseconds_balance_eq_iff d).2 hd, (totalMilliseconds_balance_eq_iff e).2 he]
    at horder

/-- A duration that was read is **far below the limit**. -/
theorem fitsDays_of_parse {t : Text} {d : Duration} (h : parse t = .ok d) : d.FitsDays :=
  Nat.le_sub_one_of_lt (totalMilliseconds_div_lt (days_le_of_parse h))

/-- **The balanced form is a normal form.** It has the sign of the duration and nothing to carry, and
balancing it again changes nothing. Its size is that of the duration exactly when the days of the size
fit into 64 bits, as they do for every duration that was read; otherwise its days are the greatest
64-bit number and its size is smaller. Two durations within that limit compare by size as their balanced
components do in order. No size takes more than 128 bits. -/
theorem balance_normal_form (d : Duration) :
    d.totalMilliseconds < 2 ^ 128 ∧
      d.balance.isNegative = d.isNegative ∧ d.balance.InBalance ∧ d.balance.balance = d.balance ∧
      (d.balance.totalMilliseconds = d.totalMilliseconds ↔ d.FitsDays) ∧
      (¬ d.FitsDays →
        d.balance.days.toNat = 2 ^ 64 - 1 ∧ d.balance.totalMilliseconds < d.totalMilliseconds) ∧
      (∀ e : Duration, d.FitsDays → e.FitsDays →
        (d.totalMilliseconds < e.totalMilliseconds ↔ d.balance.fields < e.balance.fields)) ∧
      ∀ t, parse t = .ok d → d.FitsDays := by
  refine ⟨totalMilliseconds_lt d, isNegative_balance d, inBalance_balance d, ?_,
    totalMilliseconds_balance_eq_iff d, balance_of_not_fitsDays, ?_, ?_⟩
  · exact balance_eq_self (inBalance_balance d)
  · intro e hd he
    exact totalMilliseconds_lt_iff_balance hd he
  · intro t hread
    exact fitsDays_of_parse hread

/-- **One day too many**: the greatest number of days with 24 hours more loses a day. A duration that
was read is compared with another by its balanced components. -/
theorem balance_normal_form_oneDayTooMany :
    (¬ FitsDays ⟨true, 18446744073709551615, 24, 0, 0, 1⟩ ∧
      (balance ⟨true, 18446744073709551615, 24, 0, 0, 1⟩).days.toNat = 2 ^ 64 - 1 ∧
        (balance ⟨true, 18446744073709551615, 24, 0, 0, 1⟩).totalMilliseconds <
          totalMilliseconds ⟨true, 18446744073709551615, 24, 0, 0, 1⟩) ∧
      parse "-99:99:99.999".toList = .ok ⟨true, 0, 99, 99, 99, 999⟩ ∧
        FitsDays ⟨true, 0, 99, 99, 99, 999⟩ ∧ FitsDays ⟨false, 4, 4, 40, 40, 0⟩ ∧
          (totalMilliseconds ⟨true, 0, 99, 99, 99, 999⟩ <
              totalMilliseconds ⟨false, 4, 4, 40, 40, 0⟩ ↔
            (balance ⟨true, 0, 99, 99, 99, 999⟩).fields <
              (balance ⟨false, 4, 4, 40, 40, 0⟩).fields) := by
  obtain ⟨-, -, -, -, -, hbeyond, -, -⟩ :=
    balance_normal_form ⟨true, 18446744073709551615, 24, 0, 0, 1⟩
  obtain ⟨-, -, -, -, -, -, horder, hread⟩ := balance_normal_form ⟨true, 0, 99, 99, 99, 999⟩
  have hparse : parse "-99:99:99.999".toList = .ok ⟨true, 0, 99, 99, 99, 999⟩ := by
    decide +kernel
  have hnot : ¬ FitsDays ⟨true, 18446744073709551615, 24, 0, 0, 1⟩ := by decide +kernel
  have hother : FitsDays ⟨false, 4, 4, 40, 40, 0⟩ := by decide +kernel
  exact ⟨⟨hnot, hbeyond hnot⟩, hparse, hread _ hparse, hother,
    horder _ (hread _ hparse) hother⟩

end Duration

end SequenceBridge
