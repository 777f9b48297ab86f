/-! # Texts
Sequence files, command names, comments and time tags are all **texts**: lists of characters. Strings
appear only where a text meets the outside.

* **`Text`** — a list of characters.
* **`Text.lines`** — the pieces of a text between its newlines; there is always one more piece than
  there are newlines.
* **`Text.unlines`** — pieces put back together with a newline between neighbours; it undoes
  `Text.lines`.
* **`Text.commas`** — pieces with a comma between neighbours.
-/

namespace SequenceBridge

/-- A **text** is its list of characters. -/
abbrev Text := List Char

namespace Text

/-- Put a character in front of the first of some lines. -/
def consFirst (c : Char) : List Text → List Text
  | [] => [[c]]
  | line :: rest => (c :: line) :: rest

@[simp] theorem consFirst_nil (c : Char) : consFirst c [] = [[c]] := rfl

@[simp] theorem consFirst_cons (c : Char) (line : Text) (rest : List Text) :
    consFirst c (line :: rest) = (c :: line) :: rest := rfl

/-- The **lines** of a text, the pieces between its newlines. The empty text has one empty line. -/
def lines (t : Text) : List Text :=
  t.foldr (fun c ls => if c = '\n' then [] :: ls else consFirst c ls) [[]]

@[simp] theorem lines_nil : lines [] = [[]] := rfl

@[simp] theorem lines_newline (t : Text) : lines ('\n' :: t) = [] :: lines t := rfl

theorem lines_cons {c : Char} (hc : c ≠ '\n') (t : Text) :
    lines (c :: t) = consFirst c (lines t) := by
  simp [lines, hc]

/-- A text has at least one line. -/
theorem lines_ne_nil (t : Text) : lines t ≠ [] := by
  cases t with
  | nil => simp
  | cons c t =>
    by_cases hc : c = '\n'
    · subst hc; simp
    · rw [lines_cons hc]; cases lines t <;> simp

/-- Lines put back together, a newline between neighbours. -/
def unlines (ls : List Text) : Text := List.intercalate ['\n'] ls

@[simp] theorem unlines_nil : unlines [] = [] := rfl

@[simp] theorem unlines_singleton (l : Text) : unlines [l] = l := by
  simp [unlines, List.intercalate]

@[simp] theorem unlines_cons_cons (l m : Text) (ls : List Text) :
    unlines (l :: m :: ls) = l ++ '\n' :: unlines (m :: ls) := by
  simp [unlines, List.intercalate_cons_cons]

/-- Splitting a text into lines loses nothing. -/
@[simp] theorem unlines_lines (t : Text) : unlines (lines t) = t := by
  induction t with
  | nil => simp
  | cons c t ih =>
    obtain ⟨l, ls, hl⟩ := List.exists_cons_of_ne_nil (lines_ne_nil t)
    by_cases hc : c = '\n'
    · subst hc; rw [lines_newline, hl, unlines_cons_cons, ← hl, ih]; rfl
    · rw [hl] at ih
      rw [lines_cons hc, hl, consFirst_cons, ← ih]
      cases ls with
      | nil => simp
      | cons m ls => simp

/-- Pieces with a comma between neighbours. -/
def commas (ts : List Text) : Text := List.intercalate [','] ts

@[simp] theorem commas_nil : commas [] = [] := rfl

@[simp] theorem commas_singleton (t : Text) : commas [t] = t := by
  simp [commas, List.intercalate]

@[simp] theorem commas_cons_cons (s t : Text) (ts : List Text) :
    commas (s :: t :: ts) = s ++ ',' :: commas (t :: ts) := by
  simp [commas, List.intercalate_cons_cons]

end Text

end SequenceBridge
