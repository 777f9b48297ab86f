import SequenceBridge.Text.Basic

/-! # Blank characters
White space as Unicode defines it (the property `White_Space`), and removing it from both ends of a
text.

* **`isBlank`** — whether a character is white space.
* **`Text.trim`** — a text without the white space at its ends.
* **`Text.isBlank`** — whether a text is nothing but white space.
-/

namespace SequenceBridge

/-- The Unicode property `White_Space`, as closed ranges of code points. -/
def blankRanges : List (Nat × Nat) :=
  [(0x09, 0x0D), (0x20, 0x20), (0x85, 0x85), (0xA0, 0xA0), (0x1680, 0x1680), (0x2000, 0x200A),
   (0x2028, 0x2029), (0x202F, 0x202F), (0x205F, 0x205F), (0x3000, 0x3000)]

/-- A character is **blank** when it has the property `White_Space`. -/
def isBlank (c : Char) : Bool :=
  blankRanges.any fun range => range.1 ≤ c.toNat && c.toNat ≤ range.2

namespace Text

/-- A text without the blanks at its front. -/
def trimFront (t : Text) : Text := t.dropWhile SequenceBridge.isBlank

/-- A text without the blanks at its end. -/
def trimEnd (t : Text) : Text := (t.reverse.dropWhile SequenceBridge.isBlank).reverse

/-- A text without the blanks at either end. -/
def trim (t : Text) : Text := (trimFront t).trimEnd

@[simp] theorem trim_nil : trim [] = [] := rfl

/-- A text is blank when every character of it is; the empty text is blank. -/
def isBlank (t : Text) : Bool := t.all SequenceBridge.isBlank

@[simp] theorem isBlank_nil : isBlank [] = true := rfl

@[simp] theorem isBlank_cons (c : Char) (t : Text) :
    isBlank (c :: t) = (SequenceBridge.isBlank c && isBlank t) := rfl

end Text

end SequenceBridge
