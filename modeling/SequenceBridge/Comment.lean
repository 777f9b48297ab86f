import SequenceBridge.Text.Blank

/-! # Comment texts
A comment loses its marker, the backslashes in front of its double quotes and the white space at its
ends when it moves to FPrime.

* **`unescapeQuotes`** — every backslash directly before a double quote removed.
* **`commentText`** — the normal form of a comment without its marker.
-/

namespace SequenceBridge

/-- A text without the backslashes that stand directly before a double quote. What remains is not
looked at again, so of two backslashes before a quote only the second goes. -/
def unescapeQuotes : Text → Text
  | [] => []
  | c :: rest =>
    if c = '\\' ∧ rest.head? = some '\x22' then unescapeQuotes rest else c :: unescapeQuotes rest

@[simp] theorem unescapeQuotes_nil : unescapeQuotes [] = [] := rfl

@[simp] theorem unescapeQuotes_escape (rest : Text) :
    unescapeQuotes ('\\' :: '\x22' :: rest) = '\x22' :: unescapeQuotes rest := by
  simp [unescapeQuotes]

/-- Removing backslashes leaves the rest in its order. -/
theorem unescapeQuotes_sublist (t : Text) : (unescapeQuotes t).Sublist t := by
  induction t with
  | nil => exact List.Sublist.refl _
  | cons c rest ih =>
      rw [unescapeQuotes]
      split
      · exact ih.cons c
      · exact ih.cons_cons c

/-- The **normal form** of a comment: quotes unescaped, ends trimmed. -/
def commentText (t : Text) : Text := (unescapeQuotes t).trim

end SequenceBridge
