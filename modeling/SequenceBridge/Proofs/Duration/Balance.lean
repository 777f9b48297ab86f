import Mathlib.Data.List.Basic
import SequenceBridge.Proofs.Duration.Pieces

/-! # Durations balanced
Balancing moves the excess of a component into the next greater one and keeps the size, as long as the
days do not pass the greatest 64-bit number. A duration that was read is far from that. The balanced
duration has two writings, one that always has milliseconds and one that leaves out zero milliseconds;
they differ in nothing else.

* **`Duration.toNat_balance`** — the components of a balanced duration, from its size.
* **`Duration.totalMilliseconds_balance_eq`** — the size of a balanced duration;
  **`Duration.totalMilliseconds_balance`** — when it is the size of the duration;
  **`Duration.totalMilliseconds_balance_of_parse`** — it does for every duration that was read.
* **`Duration.text_balance`** — the writing without zero milliseconds, from the one that has them.
* **`Duration.simple?_eq_none_of_full?`** — no text has both forms.
-/

namespace SequenceBridge

namespace Duration

/-! ## Components and size -/

/-- The days of a balanced duration, from its size. They stop at the greatest 64-bit number. -/
theorem toNat_days_balance (d : Duration) :
    d.balance.days.toNat = min (d.totalMilliseconds / perDay) (UInt64.size - 1) :=
  toNat_clampWord _

/-- A share of less than a day fits into 64 bits. -/
theorem toNat_ofNat_share {n per : Nat} (h : n < perDay) :
    (UInt64.ofNat (n / per)).toNat = n / per := by
  have hshare : n / per ≤ n := Nat.div_le_self n per
  have hday : perDay < UInt64.size := by decide
  exact UInt64.toNat_ofNat_of_lt (by omega)

/-- The **components of a balanced duration** below the days, from its size. -/
theorem toNat_balance (d : Duration) :
    d.balance.hours.toNat = d.totalMilliseconds % perDay / perHour ∧
      d.balance.minutes.toNat = d.totalMilliseconds % perHour / perMinute ∧
        d.balance.seconds.toNat = d.totalMilliseconds % perMinute / perSecond ∧
          d.balance.milliseconds.toNat = d.totalMilliseconds % perSecond := by
  have hday : d.totalMilliseconds % perDay < perDay := Nat.mod_lt _ (by decide)
  have hhour : d.totalMilliseconds % perHour < perHour := Nat.mod_lt _ (by decide)
  have hminute : d.totalMilliseconds % perMinute < perMinute := Nat.mod_lt _ (by decide)
  have hsecond : d.totalMilliseconds % perSecond < perSecond := Nat.mod_lt _ (by decide)
  refine ⟨toNat_ofNat_share hday, toNat_ofNat_share ?_, toNat_ofNat_share ?_, ?_⟩
  · exact Nat.lt_trans hhour (by decide)
  · exact Nat.lt_trans hminute (by decide)
  · exact UInt64.toNat_ofNat_of_lt (Nat.lt_trans hsecond (by decide))

/-- **The size of a balanced duration**, from the days that it kept. -/
theorem totalMilliseconds_balance_eq (d : Duration) :
    d.balance.totalMilliseconds =
      min (d.totalMilliseconds / perDay) (UInt64.size - 1) * perDay +
        d.totalMilliseconds % perDay := by
  obtain ⟨hhours, hminutes, hseconds, hmilliseconds⟩ := toNat_balance d
  rw [totalMilliseconds, toNat_days_balance, hhours, hminutes, hseconds, hmilliseconds]
  -- the shares below the days make up what is left of the last day
  generalize d.totalMilliseconds = total
  simp only [perDay, perHour, perMinute, perSecond]
  omega

/-- **Balancing keeps the size** when the days fit into 64 bits. -/
theorem totalMilliseconds_balance {d : Duration} (h : d.totalMilliseconds / perDay < UInt64.size) :
    d.balance.totalMilliseconds = d.totalMilliseconds := by
  rw [totalMilliseconds_balance_eq, Nat.min_eq_left (by omega), Nat.mul_comm]
  exact Nat.div_add_mod _ _

/-- A duration of at most 999 days is **balanced without loss**, however great its other components
are. -/
theorem totalMilliseconds_div_lt {d : Duration} (h : d.days.toNat ≤ 999) :
    d.totalMilliseconds / perDay < UInt64.size := by
  have hhours := d.hours.toNat_lt
  have hminutes := d.minutes.toNat_lt
  have hseconds := d.seconds.toNat_lt
  have hmilliseconds := d.milliseconds.toNat_lt
  rw [Nat.div_lt_iff_lt_mul (by decide), totalMilliseconds, UInt64.size]
  simp only [perDay, perHour, perMinute, perSecond]
  omega

/-- **A duration that was read** keeps its size when it is balanced. -/
theorem totalMilliseconds_balance_of_parse {t : Text} {d : Duration} (h : parse t = .ok d) :
    d.balance.totalMilliseconds = d.totalMilliseconds :=
  totalMilliseconds_balance (totalMilliseconds_div_lt (days_le_of_parse h))

/-! ## The two writings of a balanced duration -/

/-- A written duration **without its milliseconds**, when these are zero and written. -/
def withoutZeroMilliseconds (t : Text) : Text := (t.dropSuffix? ['.', '0', '0', '0']).getD t

/-- Zero milliseconds at the end are left out. -/
theorem withoutZeroMilliseconds_append (t : Text) :
    withoutZeroMilliseconds (t ++ ['.', '0', '0', '0']) = t := by
  have hsuffix : (t ++ ['.', '0', '0', '0']).dropSuffix? ['.', '0', '0', '0'] = some t :=
    List.dropSuffix?_eq_some_iff.2 ⟨['.', '0', '0', '0'], rfl, rfl⟩
  rw [withoutZeroMilliseconds, hsuffix, Option.getD_some]

/-- Other milliseconds at the end stay. -/
theorem withoutZeroMilliseconds_of_ne {t : Text} {n : Nat} (hn : n ≠ 0) (hle : n ≤ 999) :
    withoutZeroMilliseconds (t ++ '.' :: padded 3 n) = t ++ '.' :: padded 3 n := by
  have hsuffix : (t ++ '.' :: padded 3 n).dropSuffix? ['.', '0', '0', '0'] = none := by
    rw [Option.eq_none_iff_forall_ne_some]
    intro s hs
    obtain ⟨zeros, hsplit, hzeros⟩ := List.dropSuffix?_eq_some_iff.1 hs
    rw [eq_of_beq hzeros] at hsplit
    -- both ends have four characters, so the milliseconds would be the three zeros
    have hlength : (padded 3 n).length = 3 := length_padded (by decide) (by omega)
    have hend := (List.append_inj' hsplit (by rw [List.length_cons, hlength]; rfl)).2
    have hvalue := natValue?_padded 3 n
    rw [(List.cons.inj hend).2] at hvalue
    exact hn (Option.some.inj hvalue).symm
  rw [withoutZeroMilliseconds, hsuffix, Option.getD_none]

/-- **The two writings of a balanced duration** differ in zero milliseconds only. -/
theorem text_balance (d : Duration) : d.balance.text = withoutZeroMilliseconds d.balancedText := by
  have hle := (fitsClock_balance d).milliseconds
  rw [text_eq, balancedText, fractionText]
  by_cases hms : d.balance.milliseconds = 0
  · rw [if_pos hms, hms, List.append_nil]
    show _ = withoutZeroMilliseconds (_ ++ ['.', '0', '0', '0'])
    rw [withoutZeroMilliseconds_append, List.append_assoc]
  · have hn : d.balance.milliseconds.toNat ≠ 0 := fun h => hms (UInt64.toNat_inj.1 h)
    rw [if_neg hms, withoutZeroMilliseconds_of_ne hn hle]
    simp only [List.append_assoc]

/-! ## The two forms -/

/-- **No text has both forms**: the full form has a digit where a clock has its first colon, and a letter
behind the digits that could be a bare count. -/
theorem simple?_eq_none_of_full? {t : Text} {w : Writing} (h : full? t = some w) :
    simple? t = none := by
  rw [full?] at h
  split at h
  · rename_i isNegative d₁ d₂ d₃ body hsign
    split at h
    · rename_i hdigits
      simp only [List.all_cons, List.all_nil, Bool.and_true, Bool.and_eq_true] at hdigits
      obtain ⟨hd₁, hd₂, hd₃⟩ := hdigits
      have hclock : clock? (d₁ :: d₂ :: d₃ :: 'T' :: body) = none := by
        rw [clock?.eq_def]
        split
        · rename_i heq
          cases heq
          exact absurd hd₃ (by decide)
        · rfl
      have hrest : fraction? ((d₁ :: d₂ :: d₃ :: 'T' :: body).dropWhile isDecimalDigit) = none := by
        rw [List.dropWhile_cons_of_pos hd₁, List.dropWhile_cons_of_pos hd₂,
          List.dropWhile_cons_of_pos hd₃, List.dropWhile_cons_of_neg (by decide)]
        rfl
      rw [simple?, hsign]
      simp only [hclock, hrest, Option.map_none, ite_self]
    · cases h
  · cases h

theorem isFull_eq_false_of_isSimple {t : Text} (h : isSimple t = true) : isFull t = false := by
  rw [isSimple] at h
  rw [isFull]
  cases hfull : full? t with
  | none => rfl
  | some w =>
      rw [simple?_eq_none_of_full? hfull] at h
      exact nomatch h

end Duration

end SequenceBridge
