import SequenceBridge.Text.Basic

/-! # Texts as bytes
Files, arguments and environment variables hold bytes. Bytes that are a text are its UTF-8 form; of
other bytes, each longest run that could have begun a character counts as one broken character.

* **`Bytes`** — a list of bytes.
* **`Text.toBytes`** — the UTF-8 form of a text.
* **`Bytes.chars`** — the characters of some bytes, broken ones marked.
* **`Bytes.text?`** — the text that bytes are, if none of it is broken.
* **`Bytes.shown`** — bytes as a message shows them, with a replacement character for each broken one.
* **`Bytes.split`** — the pieces of some bytes between the occurrences of one of them.
-/

namespace SequenceBridge

/-- **Bytes**, as a file or the environment holds them. -/
abbrev Bytes := List UInt8

/-- The **UTF-8 form** of a text. -/
def Text.toBytes (t : Text) : Bytes := t.flatMap String.utf8EncodeChar

namespace Bytes

/-- A character that has begun: how many bytes are missing, its value so far, and the bounds of the
next byte. -/
structure Begun where
  missing : Nat
  value : Nat
  least : Nat
  most : Nat
  deriving DecidableEq, Repr

/-- What a byte makes of the state between two characters: a whole character, a character that has
begun, or neither. The bounds of the second byte shut out surrogates, numbers too large, and forms
longer than needed. -/
def begin (b : UInt8) : List (Option Char) × Option Begun :=
  let n := b.toNat
  if n < 0x80 then ([some (Char.ofNat n)], none)
  else if 0xC2 ≤ n ∧ n ≤ 0xDF then ([], some ⟨1, n - 0xC0, 0x80, 0xBF⟩)
  else if n = 0xE0 then ([], some ⟨2, 0, 0xA0, 0xBF⟩)
  else if n = 0xED then ([], some ⟨2, 0x0D, 0x80, 0x9F⟩)
  else if 0xE1 ≤ n ∧ n ≤ 0xEF then ([], some ⟨2, n - 0xE0, 0x80, 0xBF⟩)
  else if n = 0xF0 then ([], some ⟨3, 0, 0x90, 0xBF⟩)
  else if 0xF1 ≤ n ∧ n ≤ 0xF3 then ([], some ⟨3, n - 0xF0, 0x80, 0xBF⟩)
  else if n = 0xF4 then ([], some ⟨3, 4, 0x80, 0x8F⟩)
  else ([none], none)

/-- What one more byte completes, and the state behind it. A byte that cannot go on with a character
breaks it and is looked at anew. -/
def step (state : Option Begun) (b : UInt8) : List (Option Char) × Option Begun :=
  match state with
  | none => begin b
  | some begun =>
    if begun.least ≤ b.toNat ∧ b.toNat ≤ begun.most then
      let value := begun.value * 64 + (b.toNat - 0x80)
      if begun.missing ≤ 1 then ([some (Char.ofNat value)], none)
      else ([], some ⟨begun.missing - 1, value, 0x80, 0xBF⟩)
    else
      (none :: (begin b).1, (begin b).2)

/-- The characters of some bytes behind a state. -/
def charsFrom : Option Begun → Bytes → List (Option Char)
  | none, [] => []
  | some _, [] => [none]
  | state, b :: bs => (step state b).1 ++ charsFrom (step state b).2 bs

/-- The **characters** of some bytes; a broken one is none. -/
def chars (bs : Bytes) : List (Option Char) := charsFrom none bs

/-- The **text that bytes are**; none when they are not UTF-8. -/
def text? (bs : Bytes) : Option Text :=
  if (chars bs).all Option.isSome then some ((chars bs).filterMap id) else none

/-- Bytes **as a message shows them**. -/
def shown (bs : Bytes) : Text := (chars bs).map (·.getD '\ufffd')

/-- Put a byte in front of the first of some pieces. -/
def consFirst (b : UInt8) : List Bytes → List Bytes
  | [] => [[b]]
  | piece :: rest => (b :: piece) :: rest

/-- The **pieces** of some bytes between the occurrences of a byte, one more than there are of it. -/
def split (mark : UInt8) (bs : Bytes) : List Bytes :=
  bs.foldr (fun b ps => if b = mark then [] :: ps else consFirst b ps) [[]]

end Bytes

end SequenceBridge
