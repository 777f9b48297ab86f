import SequenceBridge.Text.Hexadecimal

/-! # Quoted texts in messages
A message that cites a text puts it between double quotes. Inside, a double quote and a backslash
take a backslash, the usual controls have a letter each, and any other character that leaves no mark
on paper is written as its code point in hexadecimal.

* **`isUnseen`** — controls, format characters and every separator but the space.
* **`quoted`** — a text as a message cites it.
-/

namespace SequenceBridge

/-- Controls, format characters, private characters and separators other than the space, as closed
ranges of code points. -/
def unseenRanges : List (Nat × Nat) :=
  [(0x0000, 0x001F), (0x007F, 0x00A0), (0x00AD, 0x00AD), (0x0600, 0x0605), (0x061C, 0x061C),
   (0x06DD, 0x06DD), (0x070F, 0x070F), (0x0890, 0x0891), (0x08E2, 0x08E2), (0x1680, 0x1680),
   (0x180E, 0x180E), (0x2000, 0x200F), (0x2028, 0x202F), (0x205F, 0x206F), (0x3000, 0x3000),
   (0xE000, 0xF8FF), (0xFEFF, 0xFEFF), (0xFFF0, 0xFFFB), (0xFFFE, 0xFFFF), (0x110BD, 0x110BD),
   (0x110CD, 0x110CD), (0x13430, 0x1343F), (0x1BCA0, 0x1BCA3), (0x1D173, 0x1D17A),
   (0xE0000, 0x10FFFF)]

/-- A character that leaves no mark on paper. -/
def isUnseen (c : Char) : Bool :=
  unseenRanges.any fun range => range.1 ≤ c.toNat && c.toNat ≤ range.2

/-- One character between the quotes of a message. -/
def quotedChar (c : Char) : Text :=
  if c = '\x22' then ['\\', '\x22']
  else if c = '\\' then ['\\', '\\']
  else if c = '\n' then ['\\', 'n']
  else if c = '\r' then ['\\', 'r']
  else if c = '\t' then ['\\', 't']
  else if c = '\x00' then ['\\', '0']
  else if isUnseen c then ['\\', 'u', '\x7b'] ++ hexadecimal c.toNat ++ ['\x7d']
  else [c]

/-- A text **as a message cites it**. -/
def quoted (t : Text) : Text := '\x22' :: t.flatMap quotedChar ++ ['\x22']

end SequenceBridge
