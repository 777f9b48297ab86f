import Mathlib.Algebra.Ring.Nat
import SequenceBridge.Text.Slice

/-! # Slices further on
Put behind another text, a text has its slices as many bytes further on as the other text has. A span
that is reversed, cuts a character or reaches past the end has no slice there either.

* **`Span.moved`** — a span some bytes further on; **`Span.CanMove`** — one that can be moved so far.
* **`Text.dropBytes?_append`** — behind a text, the bytes of that text are dropped first.
* **`Text.slice?_append`** — a moved span covers the same behind a text.
-/

namespace SequenceBridge

/-! ## Spans further on -/

namespace Span

variable {k : Nat} {s : Span}

/-- A span **some bytes further on**. -/
def moved (k : Nat) (s : Span) : Span := ⟨s.start + UInt64.ofNat k, s.stop + UInt64.ofNat k⟩

/-- A span **can be moved** by some bytes when neither end passes the greatest offset. -/
def CanMove (k : Nat) (s : Span) : Prop := s.start.toNat + k < 2 ^ 64 ∧ s.stop.toNat + k < 2 ^ 64

instance (k : Nat) (s : Span) : Decidable (CanMove k s) := inferInstanceAs (Decidable (_ ∧ _))

/-- A span is **moved exactly** when both ends grow by as much as it is moved. -/
def IsMovedExactly (k : Nat) (s : Span) : Prop :=
  (s.moved k).start.toNat = s.start.toNat + k ∧ (s.moved k).stop.toNat = s.stop.toNat + k

/-- An offset that does not pass the greatest one **grows by as much** as it is moved. -/
theorem toNat_add_ofNat {x : UInt64} (h : x.toNat + k < 2 ^ 64) :
    (x + UInt64.ofNat k).toNat = x.toNat + k := by
  rw [UInt64.toNat_add, UInt64.toNat_ofNat_of_lt' (show k < 2 ^ 64 by omega), Nat.mod_eq_of_lt h]

theorem CanMove.isMovedExactly (h : s.CanMove k) : s.IsMovedExactly k :=
  ⟨toNat_add_ofNat h.1, toNat_add_ofNat h.2⟩

/-- A moved span is in order exactly when it was before. -/
theorem CanMove.start_le_stop_iff (h : s.CanMove k) :
    (s.moved k).start ≤ (s.moved k).stop ↔ s.start ≤ s.stop := by
  rw [UInt64.le_iff_toNat_le, UInt64.le_iff_toNat_le, h.isMovedExactly.1, h.isMovedExactly.2]
  omega

end Span

/-! ## Slices behind a text -/

namespace Text

/-- The bytes of a character in front are dropped with it. -/
theorem dropBytes?_cons (c : Char) (t : Text) (n : Nat) :
    dropBytes? (c.utf8Size + n) (c :: t) = dropBytes? n t := by
  obtain ⟨m, hm⟩ := Nat.exists_eq_add_one_of_ne_zero (Nat.ne_of_gt c.utf8Size_pos)
  rw [hm, Nat.add_right_comm, dropBytes?, hm, if_pos (by omega)]
  congr 1
  omega

/-- **Behind a text**, the bytes of that text are dropped first. -/
theorem dropBytes?_append (before t : Text) (n : Nat) :
    dropBytes? (before.byteLength + n) (before ++ t) = dropBytes? n t := by
  induction before with
  | nil => simp
  | cons c before ih =>
      rw [byteLength_cons, Nat.add_assoc, List.cons_append, dropBytes?_cons, ih]

/-- **A moved span covers the same** behind a text with as many bytes. It covers nothing there if it
covered nothing before: its ends keep their order and their distances from the end of the text, and cut
the same characters. -/
theorem slice?_append (before source : Text) {span : Span} (h : span.CanMove before.byteLength) :
    (before ++ source).slice? (span.moved before.byteLength) = source.slice? span := by
  rw [slice?, slice?, h.isMovedExactly.1, h.isMovedExactly.2, Nat.add_sub_add_right,
    Nat.add_comm span.start.toNat, dropBytes?_append]
  simp only [h.start_le_stop_iff]

end Text

end SequenceBridge
