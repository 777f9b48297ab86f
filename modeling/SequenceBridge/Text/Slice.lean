import SequenceBridge.Text.Basic

/-! # Slices by byte offset
Positions in a source text count bytes of its UTF-8 form. A **span** is a half-open range of such
offsets; it has a slice only when it is in order, inside the text, and cuts no character.

* **`Span`** — a range of byte offsets.
* **`Text.byteLength`** — the number of bytes of a text.
* **`Text.slice?`** — the part of a text that a span covers.
-/

namespace SequenceBridge

/-- A half-open **range of byte offsets**, from `start` up to but not including `stop`. -/
structure Span where
  start : UInt64
  stop : UInt64
  deriving DecidableEq, Repr

namespace Text

/-- The number of bytes of a text in UTF-8. -/
def byteLength (t : Text) : Nat := t.foldr (fun c n => c.utf8Size + n) 0

@[simp] theorem byteLength_nil : byteLength [] = 0 := rfl

@[simp] theorem byteLength_cons (c : Char) (t : Text) :
    byteLength (c :: t) = c.utf8Size + byteLength t := rfl

@[simp] theorem byteLength_append (s t : Text) :
    byteLength (s ++ t) = byteLength s + byteLength t := by
  induction s with
  | nil => simp
  | cons c s ih => simp [ih, Nat.add_assoc]

/-- What is left after the first `n` bytes; none when they end inside a character or past the end. -/
def dropBytes? : Nat → Text → Option Text
  | 0, t => some t
  | _ + 1, [] => none
  | n + 1, c :: t => if c.utf8Size ≤ n + 1 then dropBytes? (n + 1 - c.utf8Size) t else none

/-- The first `n` bytes as a text; none when they end inside a character or past the end. -/
def takeBytes? : Nat → Text → Option Text
  | 0, _ => some []
  | _ + 1, [] => none
  | n + 1, c :: t =>
    if c.utf8Size ≤ n + 1 then (takeBytes? (n + 1 - c.utf8Size) t).map (c :: ·) else none

/-- The **slice** of a text that a span covers; none when the span is reversed, reaches past the end
or cuts a character. -/
def slice? (t : Text) (span : Span) : Option Text :=
  if span.start ≤ span.stop then
    (t.dropBytes? span.start.toNat).bind (takeBytes? (span.stop.toNat - span.start.toNat))
  else
    none

end Text

end SequenceBridge
