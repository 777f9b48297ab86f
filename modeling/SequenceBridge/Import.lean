import SequenceBridge.Text.Basic

/-! # FPrime text as SeqN text
An FPrime file is taken over line by line. Before the first `;` of a line a comma becomes a space,
and a period directly before an ASCII letter, the separator of a command's namespace, becomes an
underscore. The `;` becomes `#`, and the comment after it stays as it is.

* **`importChar`** — what becomes of one character, given the next one on its line.
* **`importLine`** — one line.
* **`importText`** — a whole file.
-/

namespace SequenceBridge

/-- An ASCII letter. -/
def isAsciiLetter (c : Char) : Bool := ('a' ≤ c && c ≤ 'z') || ('A' ≤ c && c ≤ 'Z')

/-- What becomes of a character that stands before any comment, given the character after it. -/
def importChar (c : Char) (next : Option Char) : Char :=
  if c = ',' then ' '
  else if c = '.' ∧ next.any isAsciiLetter = true then '_'
  else c

/-- One line of FPrime text as SeqN text. -/
def importLine : Text → Text
  | [] => []
  | c :: rest => if c = ';' then '#' :: rest else importChar c rest.head? :: importLine rest

@[simp] theorem importLine_nil : importLine [] = [] := rfl

@[simp] theorem importLine_marker (rest : Text) : importLine (';' :: rest) = '#' :: rest := rfl

theorem importLine_cons {c : Char} (hc : c ≠ ';') (rest : Text) :
    importLine (c :: rest) = importChar c rest.head? :: importLine rest := by
  simp [importLine, hc]

/-- A line keeps its length. -/
@[simp] theorem length_importLine (line : Text) : (importLine line).length = line.length := by
  induction line with
  | nil => rfl
  | cons c rest ih => by_cases hc : c = ';' <;> simp [importLine, hc, ih]

/-- A **file of FPrime text** as SeqN text: each line by itself, the newlines where they were. -/
def importText (t : Text) : Text := Text.unlines (t.lines.map importLine)

end SequenceBridge
