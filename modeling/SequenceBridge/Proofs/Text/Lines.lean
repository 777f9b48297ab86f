import SequenceBridge.Proofs.Text.Commas

/-! # Lines and their text
Lines without newlines are what their text is split into again, so no two such lists of lines have the
same text unless they are equal.

* **`Text.lines_append`** — a newline parts the lines in front of it from those behind it.
* **`Text.newline_notMem_of_mem_lines`**, **`Text.mem_of_mem_lines`** — no line has a newline, nor anything
  that the text does not have.
* **`Text.lines_unlines`** — lines without newlines are split apart as they were put together.
* **`Text.unlines_map_eq_iff`** — lines of the same lengths have the same text only when they are the
  same.
-/

namespace SequenceBridge

namespace Text

/-- A text without newlines is one line. -/
theorem lines_of_notMem {t : Text} (h : '\n' ∉ t) : lines t = [t] := by
  induction t with
  | nil => rfl
  | cons c t ih =>
      have hc : c ≠ '\n' := (List.ne_of_not_mem_cons h).symm
      have ht : '\n' ∉ t := List.not_mem_of_not_mem_cons h
      rw [lines_cons hc, ih ht, consFirst_cons]

/-- **A newline parts the lines** in front of it from those behind it. -/
theorem lines_append (s t : Text) : lines (s ++ '\n' :: t) = lines s ++ lines t := by
  induction s with
  | nil => exact lines_newline t
  | cons c s ih =>
      by_cases hc : c = '\n'
      · subst hc
        rw [List.cons_append, lines_newline, lines_newline, ih, List.cons_append]
      · -- the character goes in front of the first line, which the first text has
        obtain ⟨l, ls, hl⟩ := List.exists_cons_of_ne_nil (lines_ne_nil s)
        rw [List.cons_append, lines_cons hc, lines_cons hc, ih, hl, List.cons_append,
          consFirst_cons, consFirst_cons, List.cons_append]

/-- A newline ends the line in front of it. -/
theorem lines_append_newline {l : Text} (h : '\n' ∉ l) (t : Text) :
    lines (l ++ '\n' :: t) = l :: lines t := by
  rw [lines_append, lines_of_notMem h, List.singleton_append]

/-- **No line has a newline.** -/
theorem newline_notMem_of_mem_lines {t l : Text} (h : l ∈ lines t) : '\n' ∉ l := by
  induction t generalizing l with
  | nil =>
      rw [lines_nil, List.mem_singleton] at h
      rw [h]
      exact List.not_mem_nil
  | cons c t ih =>
      by_cases hc : c = '\n'
      · subst hc
        rw [lines_newline, List.mem_cons] at h
        rcases h with rfl | h
        · exact List.not_mem_nil
        · exact ih h
      · obtain ⟨m, ms, hm⟩ := List.exists_cons_of_ne_nil (lines_ne_nil t)
        rw [lines_cons hc, hm, consFirst_cons, List.mem_cons] at h
        rw [hm] at ih
        rcases h with rfl | h
        · rw [List.mem_cons, not_or]
          exact ⟨fun hnew => hc hnew.symm, ih List.mem_cons_self⟩
        · exact ih (List.mem_cons_of_mem m h)

/-- **No line has anything** that the text does not have. -/
theorem mem_of_mem_lines {t l : Text} (hl : l ∈ lines t) {c : Char} (hc : c ∈ l) : c ∈ t := by
  induction t generalizing l with
  | nil =>
      rw [lines_nil, List.mem_singleton] at hl
      rwa [hl] at hc
  | cons d t ih =>
      by_cases hd : d = '\n'
      · subst hd
        rw [lines_newline, List.mem_cons] at hl
        rcases hl with rfl | hl
        · exact absurd hc List.not_mem_nil
        · exact List.mem_cons_of_mem _ (ih hl hc)
      · -- the character stands in front of the first line
        obtain ⟨m, ms, hm⟩ := List.exists_cons_of_ne_nil (lines_ne_nil t)
        rw [lines_cons hd, hm, consFirst_cons, List.mem_cons] at hl
        rw [hm] at ih
        rcases hl with rfl | hl
        · exact (List.mem_cons.1 hc).elim (fun h => h ▸ List.mem_cons_self)
            fun h => List.mem_cons_of_mem d (ih List.mem_cons_self h)
        · exact List.mem_cons_of_mem d (ih (List.mem_cons_of_mem m hl) hc)

/-- The text of two lists of lines, neither of them empty, has a newline where they meet. -/
theorem unlines_append {ls ms : List Text} (hl : ls ≠ []) (hm : ms ≠ []) :
    unlines (ls ++ ms) = unlines ls ++ '\n' :: unlines ms :=
  intercalate_append '\n' hl hm

/-- A character in front of the first line is the first of the text. -/
theorem unlines_cons_head (c : Char) (l : Text) (ls : List Text) :
    unlines ((c :: l) :: ls) = c :: unlines (l :: ls) := by
  cases ls with
  | nil => rw [unlines_singleton, unlines_singleton]
  | cons m ms => rw [unlines_cons_cons, unlines_cons_cons, List.cons_append]

/-- The first line begins as the text does, unless the text begins with a newline. -/
theorem head?_of_lines {t l : Text} {ls : List Text} (h : lines t = l :: ls) :
    l.head? = t.head?.filter (· ≠ '\n') := by
  cases t with
  | nil =>
      rw [lines_nil] at h
      rw [← (List.cons.inj h).1]
      rfl
  | cons c t =>
      rw [List.head?_cons, Option.filter_some]
      by_cases hc : c = '\n'
      · subst hc
        rw [lines_newline] at h
        rw [← (List.cons.inj h).1]
        rfl
      · obtain ⟨m, ms, hm⟩ := List.exists_cons_of_ne_nil (lines_ne_nil t)
        rw [lines_cons hc, hm, consFirst_cons] at h
        rw [← (List.cons.inj h).1, List.head?_cons, if_pos (decide_eq_true hc)]

/-- **Lines without newlines** are split apart as they were put together. -/
theorem lines_unlines {ls : List Text} (hne : ls ≠ []) (h : ∀ l ∈ ls, '\n' ∉ l) :
    lines (unlines ls) = ls := by
  induction ls with
  | nil => exact absurd rfl hne
  | cons l ls ih =>
      rw [List.forall_mem_cons] at h
      cases ls with
      | nil => rw [unlines_singleton, lines_of_notMem h.1]
      | cons m ms =>
          rw [unlines_cons_cons, lines_append_newline h.1, ih (List.cons_ne_nil m ms) h.2]

/-- **Lines of the same lengths** have the same text only when they are the same. -/
theorem unlines_map_eq_iff {α : Type} {f g : α → Text} {xs : List α}
    (h : ∀ x ∈ xs, (f x).length = (g x).length) :
    unlines (xs.map f) = unlines (xs.map g) ↔ ∀ x ∈ xs, f x = g x := by
  constructor
  · intro htext
    induction xs with
    | nil => exact List.forall_mem_nil _
    | cons x xs ih =>
        rw [List.forall_mem_cons] at h ⊢
        cases xs with
        | nil =>
            rw [List.map_singleton, List.map_singleton, unlines_singleton, unlines_singleton] at htext
            exact ⟨htext, List.forall_mem_nil _⟩
        | cons y ys =>
            rw [List.map_cons, List.map_cons, List.map_cons, List.map_cons, unlines_cons_cons,
              unlines_cons_cons, ← List.map_cons, ← List.map_cons] at htext
            obtain ⟨hfirst, hrest⟩ := List.append_inj htext h.1
            exact ⟨hfirst, ih h.2 (List.cons.inj hrest).2⟩
  · intro hall
    rw [List.map_congr_left hall]

end Text

end SequenceBridge
