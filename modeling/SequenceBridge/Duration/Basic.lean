/-! # Durations
A duration is a sign and five components of 64 bits each. Its components may overflow their usual
ranges; balancing carries the excess upwards.

* **`Duration`** — a sign with days, hours, minutes, seconds and milliseconds.
* **`Duration.totalMilliseconds`** — the size of a duration, an unbounded number.
* **`Duration.balance`** — the same size with every component below the days in its usual range; the
  days stop at the greatest 64-bit number.
-/

namespace SequenceBridge

/-- A **duration**: a sign and five components, each as it was written. -/
structure Duration where
  isNegative : Bool
  days : UInt64
  hours : UInt64
  minutes : UInt64
  seconds : UInt64
  milliseconds : UInt64
  deriving DecidableEq, Repr

namespace Duration

/-- Milliseconds in a second. -/
abbrev perSecond : Nat := 1000

/-- Milliseconds in a minute. -/
abbrev perMinute : Nat := 60 * perSecond

/-- Milliseconds in an hour. -/
abbrev perHour : Nat := 60 * perMinute

/-- Milliseconds in a day. -/
abbrev perDay : Nat := 24 * perHour

/-- The **size** of a duration in milliseconds, without its sign. -/
def totalMilliseconds (d : Duration) : Nat :=
  d.days.toNat * perDay + d.hours.toNat * perHour + d.minutes.toNat * perMinute +
    d.seconds.toNat * perSecond + d.milliseconds.toNat

/-- The 64-bit number nearest to a natural number: itself, or the greatest one. -/
def clampWord (n : Nat) : UInt64 := UInt64.ofNat (min n (UInt64.size - 1))

/-- The **balanced** form: 1000 milliseconds carry into a second, 60 seconds into a minute, 60
minutes into an hour and 24 hours into a day. -/
def balance (d : Duration) : Duration where
  isNegative := d.isNegative
  days := clampWord (d.totalMilliseconds / perDay)
  hours := UInt64.ofNat (d.totalMilliseconds % perDay / perHour)
  minutes := UInt64.ofNat (d.totalMilliseconds % perHour / perMinute)
  seconds := UInt64.ofNat (d.totalMilliseconds % perMinute / perSecond)
  milliseconds := UInt64.ofNat (d.totalMilliseconds % perSecond)

@[simp] theorem isNegative_balance (d : Duration) : d.balance.isNegative = d.isNegative := by
  rw [balance]

@[simp] theorem toNat_clampWord (n : Nat) : (clampWord n).toNat = min n (UInt64.size - 1) := by
  have hsize : 0 < UInt64.size := by decide
  have h : min n (UInt64.size - 1) < UInt64.size := by omega
  rw [clampWord, UInt64.toNat_ofNat']
  exact Nat.mod_eq_of_lt h

end Duration

end SequenceBridge
