import SequenceBridge.Duration.Basic
import SequenceBridge.Text.Decimal

/-! # Durations in writing
The written form is `[-][DDDT]hh:mm:ss[.mmm]`: each component at its least width, days and
milliseconds only when they are not zero.

* **`Duration.components`** — the six pieces of the written form, an omitted piece empty.
* **`Duration.text`** — the written form.
* **`Duration.balancedText`** — the written form of the balanced duration, milliseconds always there.
-/

namespace SequenceBridge

namespace Duration

/-- The **pieces of a duration in writing**. An omitted piece is empty; the letter after the days is
not part of them, the point before the milliseconds is. -/
structure Components where
  sign : Text
  days : Text
  hours : Text
  minutes : Text
  seconds : Text
  milliseconds : Text
  deriving DecidableEq, Repr

/-- The minus sign of a negative duration, nothing otherwise. -/
def signText (d : Duration) : Text := if d.isNegative then ['-'] else []

/-- The pieces of a duration in writing. -/
def components (d : Duration) : Components where
  sign := d.signText
  days := if d.days = 0 then [] else padded 3 d.days.toNat
  hours := padded 2 d.hours.toNat
  minutes := padded 2 d.minutes.toNat
  seconds := padded 2 d.seconds.toNat
  milliseconds := if d.milliseconds = 0 then [] else '.' :: padded 3 d.milliseconds.toNat

/-- The days of a duration with the letter after them, or nothing when there are none. -/
def daysText (d : Duration) : Text := if d.days = 0 then [] else padded 3 d.days.toNat ++ ['T']

/-- The hours, minutes and seconds of a duration between colons. -/
def clockText (d : Duration) : Text :=
  padded 2 d.hours.toNat ++ ':' :: padded 2 d.minutes.toNat ++ ':' :: padded 2 d.seconds.toNat

/-- The **written form** `[-][DDDT]hh:mm:ss[.mmm]`. -/
def text (d : Duration) : Text :=
  d.components.sign ++ d.components.days ++ (if d.components.days = [] then [] else ['T']) ++
    d.components.hours ++ ':' :: d.components.minutes ++ ':' :: d.components.seconds ++
      d.components.milliseconds

/-- The written form of the balanced duration, **always with its milliseconds**:
`[-][DDDT]hh:mm:ss.mmm`. -/
def balancedText (d : Duration) : Text :=
  d.balance.signText ++ d.balance.daysText ++ d.balance.clockText ++
    '.' :: padded 3 d.balance.milliseconds.toNat

end Duration

end SequenceBridge
