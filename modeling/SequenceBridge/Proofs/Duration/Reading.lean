import SequenceBridge.Proofs.Text.Decimal
import SequenceBridge.TimeTag

/-! # What durations are read
The digits of a written form bound the components that are read from it. The full form has three
digits for the days and two for every other component; the simple form has no days.

* **`Duration.parse_eq_ok_iff`** — a duration is read from the pieces of one of the two forms.
* **`Duration.days_le_of_parse`** — no more than 999 days are ever read.
* **`Duration.FitsClock`** — hours, minutes, seconds and milliseconds fit their digits;
  **`Duration.InBalance`** — none of them has anything to carry.
* **`TimeTag.fitsClock_of_relativeDuration?`** — the duration of a relative time fits them.
* **`TimeTag.ofCommand?_eq_some`** — the two forms of time that a time tag comes from.
-/

namespace SequenceBridge

namespace Duration

/-! ## Numbers in pieces -/

/-- A piece of `k` digits is a number below `10 ^ k`. -/
theorem wordValue?_lt {digits : Text} {n : UInt64} (h : wordValue? digits = some n) :
    n.toNat < 10 ^ digits.length := by
  rw [wordValue?, Option.bind_eq_some_iff] at h
  obtain ⟨m, hm, hn⟩ := h
  split at hn
  · rename_i hword
    have hlt := Text.natValue?_lt hm
    rw [← Option.some.inj hn, UInt64.toNat_ofNat', Nat.mod_eq_of_lt hword]
    exact hlt
  · exact nomatch hn

/-- No digits stand for zero. -/
theorem wordValue?_nil : wordValue? [] = some 0 := rfl

/-- A fraction counts for less than a second. -/
theorem fractionMilliseconds_le (fraction : Text) : (fractionMilliseconds fraction).toNat ≤ 999 := by
  rw [fractionMilliseconds]
  cases hvalue : Text.natValue? ((fraction ++ ['0', '0', '0']).take 3) with
  | none => exact Nat.zero_le _
  | some n =>
      have hlt := Text.natValue?_lt hvalue
      have hlength : ((fraction ++ ['0', '0', '0']).take 3).length = 3 := by
        rw [List.length_take, List.length_append]
        exact Nat.min_eq_left (Nat.le_add_left 3 _)
      rw [hlength] at hlt
      rw [Option.getD_some, UInt64.toNat_ofNat']
      omega

/-! ## Pieces of the two forms -/

/-- The pieces between colons are pairs. -/
theorem length_of_clock? {t h m s rest : Text} (hclock : clock? t = some ((h, m, s), rest)) :
    h.length = 2 ∧ m.length = 2 ∧ s.length = 2 := by
  rw [clock?.eq_def] at hclock
  split at hclock
  · split at hclock
    · cases hclock
      exact ⟨rfl, rfl, rfl⟩
    · exact nomatch hclock
  · exact nomatch hclock

/-- The digits of the **full form**: three for the days, two between colons, no bare count. -/
theorem length_of_full? {t : Text} {w : Writing} (h : full? t = some w) :
    w.days.length = 3 ∧ w.hours.length = 2 ∧ w.minutes.length = 2 ∧ w.seconds.length = 2 ∧
      w.total = [] := by
  rw [full?] at h
  split at h
  · split at h
    · -- the pattern itself fixes the days, and the clock the other pieces
      obtain ⟨⟨⟨hours, minutes, seconds⟩, rest⟩, hclock, h⟩ := Option.bind_eq_some_iff.1 h
      obtain ⟨fraction, -, h⟩ := Option.bind_eq_some_iff.1 h
      obtain ⟨hh, hm, hs⟩ := length_of_clock? hclock
      cases h
      exact ⟨rfl, hh, hm, hs, rfl⟩
    · exact nomatch h
  · exact nomatch h

/-- The **simple form** has no days. -/
theorem days_of_simple? {t : Text} {w : Writing} (h : simple? t = some w) : w.days = [] := by
  rw [simple?] at h
  split at h
  · split at h
    · obtain ⟨fraction, -, rfl⟩ := Option.map_eq_some_iff.1 h
      rfl
    · split at h
      · exact nomatch h
      · obtain ⟨fraction, -, rfl⟩ := Option.map_eq_some_iff.1 h
        rfl

/-! ## Durations that are read -/

/-- Every component of a duration that is read is the number of its piece. -/
theorem duration?_eq_some {w : Writing} {d : Duration} (h : w.duration? = some d) :
    wordValue? w.days = some d.days ∧ wordValue? w.hours = some d.hours ∧
      wordValue? w.minutes = some d.minutes ∧
        (∃ seconds total, wordValue? w.seconds = some seconds ∧ wordValue? w.total = some total ∧
          d.seconds = seconds + total) ∧
          d.milliseconds = fractionMilliseconds w.fraction := by
  rw [Writing.duration?] at h
  obtain ⟨days, hdays, h⟩ := Option.bind_eq_some_iff.1 h
  obtain ⟨hours, hhours, h⟩ := Option.bind_eq_some_iff.1 h
  obtain ⟨minutes, hminutes, h⟩ := Option.bind_eq_some_iff.1 h
  obtain ⟨seconds, hseconds, h⟩ := Option.bind_eq_some_iff.1 h
  obtain ⟨total, htotal, h⟩ := Option.bind_eq_some_iff.1 h
  cases h
  exact ⟨hdays, hhours, hminutes, ⟨seconds, total, hseconds, htotal, rfl⟩, rfl⟩

/-- **A duration is read** from the pieces of the full form, or else from those of the simple one. -/
theorem toOption_parse (t : Text) :
    (parse t).toOption = ((full? t).or (simple? t)).bind Writing.duration? := by
  rw [parse, Option.orElse_eq_orElse, Option.orElse_eq_or]
  cases (full? t).or (simple? t) with
  | none => rfl
  | some w =>
      simp only [Option.bind_some]
      cases w.duration? <;> rfl

/-- A duration that is read, by its pieces. -/
theorem parse_eq_ok_iff {t : Text} {d : Duration} :
    parse t = .ok d ↔ ∃ w, (full? t).or (simple? t) = some w ∧ w.duration? = some d := by
  rw [← Option.bind_eq_some_iff, ← toOption_parse]
  cases parse t with
  | error e => exact ⟨fun h => (nomatch h), fun h => (nomatch h)⟩
  | ok e => exact ⟨fun h => by rw [Except.ok.inj h]; rfl, fun h => by rw [Option.some.inj h]⟩

/-- A text from which a duration is read **has one of the forms**. -/
theorem isFull_or_isSimple_of_parse {t : Text} {d : Duration} (h : parse t = .ok d) :
    isFull t = true ∨ isSimple t = true := by
  obtain ⟨w, hw, -⟩ := parse_eq_ok_iff.1 h
  rw [Option.or_eq_some_iff] at hw
  rcases hw with hfull | ⟨-, hsimple⟩
  · exact .inl (Option.isSome_of_eq_some hfull)
  · exact .inr (Option.isSome_of_eq_some hsimple)

/-- **No more than 999 days** are ever read. -/
theorem days_le_of_parse {t : Text} {d : Duration} (h : parse t = .ok d) : d.days.toNat ≤ 999 := by
  obtain ⟨w, hw, hd⟩ := parse_eq_ok_iff.1 h
  have hlt := wordValue?_lt (duration?_eq_some hd).1
  -- three digits in the full form, none in the simple one
  have hlength : w.days.length ≤ 3 := by
    rw [Option.or_eq_some_iff] at hw
    rcases hw with hfull | ⟨-, hsimple⟩
    · exact Nat.le_of_eq (length_of_full? hfull).1
    · rw [days_of_simple? hsimple]
      exact Nat.zero_le 3
  have hpow : 10 ^ w.days.length ≤ 10 ^ 3 := Nat.pow_le_pow_right (by decide) hlength
  omega

/-! ## Durations that fit the clock -/

/-- A duration **fits the clock** when its components below the days fit the digits that a written
form has for them: two for hours, minutes and seconds, three for milliseconds. -/
structure FitsClock (d : Duration) : Prop where
  hours : d.hours.toNat ≤ 99
  minutes : d.minutes.toNat ≤ 99
  seconds : d.seconds.toNat ≤ 99
  milliseconds : d.milliseconds.toNat ≤ 999

/-- A component that is balanced stays below the number that carries. -/
theorem toNat_share_lt {n per carry : Nat} (h : n < per * carry) :
    (UInt64.ofNat (n / per)).toNat < carry := by
  rw [UInt64.toNat_ofNat']
  exact Nat.lt_of_le_of_lt (Nat.mod_le _ _) (Nat.div_lt_of_lt_mul h)

/-- A duration is **in balance** when nothing is left to carry. -/
structure InBalance (d : Duration) : Prop where
  hours : d.hours.toNat < 24
  minutes : d.minutes.toNat < 60
  seconds : d.seconds.toNat < 60
  milliseconds : d.milliseconds.toNat < 1000

/-- **Balancing leaves nothing to carry.** -/
theorem inBalance_balance (d : Duration) : d.balance.InBalance where
  hours := toNat_share_lt (Nat.mod_lt _ (by decide))
  minutes := toNat_share_lt (Nat.mod_lt _ (by decide))
  seconds := toNat_share_lt (Nat.mod_lt _ (by decide))
  milliseconds := by
    rw [balance, UInt64.toNat_ofNat']
    exact Nat.lt_of_le_of_lt (Nat.mod_le _ _) (Nat.mod_lt _ (by decide))

/-- Balancing makes a duration **fit the clock**. -/
theorem fitsClock_balance (d : Duration) : d.balance.FitsClock := by
  obtain ⟨hhours, hminutes, hseconds, hmilliseconds⟩ := inBalance_balance d
  exact ⟨by omega, by omega, by omega, by omega⟩

/-- A duration in the full form **fits the clock**. -/
theorem fitsClock_of_full? {t : Text} {w : Writing} {d : Duration} (hfull : full? t = some w)
    (hd : w.duration? = some d) : d.FitsClock := by
  obtain ⟨-, hhours, hminutes, hseconds, htotal⟩ := length_of_full? hfull
  obtain ⟨-, hh, hm, ⟨seconds, total, hs, ht, hsum⟩, hms⟩ := duration?_eq_some hd
  have hh := wordValue?_lt hh
  have hm := wordValue?_lt hm
  have hs := wordValue?_lt hs
  rw [htotal, wordValue?_nil] at ht
  rw [hhours] at hh
  rw [hminutes] at hm
  rw [hseconds] at hs
  -- the full form has no bare count, so the sum of the seconds does not wrap around
  have hzero : seconds + 0 = d.seconds := by rw [hsum, Option.some.inj ht]
  rw [UInt64.add_zero] at hzero
  refine ⟨by omega, by omega, ?_, ?_⟩
  · rw [← hzero]
    omega
  · rw [hms]
    exact fractionMilliseconds_le w.fraction

end Duration

namespace TimeTag

/-- **The duration of a relative time** fits the clock: as it is written in the full form, balanced
in the simple one. -/
theorem fitsClock_of_relativeDuration? {body : Text} {d : Duration}
    (h : relativeDuration? body = some d) : d.FitsClock := by
  rw [relativeDuration?] at h
  split at h
  · rename_i hfull
    obtain ⟨w, hw⟩ := Option.isSome_iff_exists.1 hfull
    rw [Duration.toOption_parse, hw] at h
    exact Duration.fitsClock_of_full? hw h
  · split at h
    · obtain ⟨e, -, rfl⟩ := Option.map_eq_some_iff.1 h
      exact Duration.fitsClock_balance e
    · exact nomatch h

/-- **Where a time tag comes from**: it is the body of an absolute time, or the duration of a relative
one. -/
theorem ofCommand?_eq_some {c : Command} {source : Text} {tag : TimeTag}
    (h : ofCommand? c source = some tag) :
    (∃ n body, body? n source = some body ∧ tag = absolute body) ∨
      ∃ n body d, body? n source = some body ∧ relativeDuration? body = some d ∧
        tag = relative d := by
  rw [ofCommand?] at h
  obtain ⟨node, -, h⟩ := Option.bind_eq_some_iff.1 h
  obtain ⟨form, -, h⟩ := Option.bind_eq_some_iff.1 h
  cases form with
  | absolute n =>
      obtain ⟨body, hbody, rfl⟩ := Option.map_eq_some_iff.1 h
      exact .inl ⟨n, body, hbody, rfl⟩
  | relative n =>
      obtain ⟨d, hd, rfl⟩ := Option.map_eq_some_iff.1 h
      obtain ⟨body, hbody, hd⟩ := Option.bind_eq_some_iff.1 hd
      exact .inr ⟨n, body, d, hbody, hd, rfl⟩
  | complete n => exact nomatch h
  | epoch n => exact nomatch h

/-- A command's **relative time tag** fits the clock. -/
theorem fitsClock_of_ofCommand? {c : Command} {source : Text} {d : Duration}
    (h : ofCommand? c source = some (.relative d)) : d.FitsClock := by
  rcases ofCommand?_eq_some h with ⟨n, body, -, htag⟩ | ⟨n, body, e, -, he, htag⟩
  · exact nomatch htag
  · cases htag
    exact fitsClock_of_relativeDuration? he

end TimeTag

end SequenceBridge
