import SequenceBridge.Proofs.Import.Substitution

/-! # Texts that stay when they are taken over
Taking over leaves a text as it is exactly when there is nothing to replace on any of its lines. What
comes out has nothing left to replace in front of the marker of a comment; but the marker itself has
become another character, so a second time the comment is taken over like the rest of its line. A
second time changes nothing exactly when there is nothing to replace in any comment.

* **`Text.isPlain_cons_iff`** — plain texts character by character.
* **`importLine_eq_self_iff`** — the lines that stay are the plain ones.
* **`Text.behindMarker`** — the comment of a line.
* **`isPlain_importLine_iff`** — a line is plain once it was taken over exactly when its comment is.
* **`importText_importText_iff`** — when taking over twice is taking over once.
-/

namespace SequenceBridge

/-! ## Plain texts character by character -/

/-- A text is **plain** when its first character is not a mark by itself, nor a period in front of a
letter, and the rest is plain. -/
theorem Text.isPlain_cons_iff {c : Char} {t : Text} :
    Text.IsPlain (c :: t) ↔
      c ≠ '\n' ∧ c ≠ ';' ∧ c ≠ ',' ∧ ¬ (c = '.' ∧ t.head?.any isAsciiLetter = true) ∧ t.IsPlain := by
  constructor
  · intro h
    refine ⟨?_, ?_, ?_, ?_, h.part (List.suffix_cons c t).isInfix⟩
    · rintro rfl
      exact h.newline List.mem_cons_self
    · rintro rfl
      exact h.marker List.mem_cons_self
    · rintro rfl
      exact h.comma List.mem_cons_self
    · rintro ⟨rfl, hletter⟩
      obtain ⟨d, hd, hletter⟩ := Option.any_eq_true _ _ |>.1 hletter
      exact h.separator.rel_head? hd ⟨rfl, hletter⟩
  · rintro ⟨hnewline, hmarker, hcomma, hperiod, ht⟩
    refine ⟨⟨?_, ?_, ?_⟩, ?_⟩
    · simp [hnewline.symm, ht.newline]
    · simp [hmarker.symm, ht.marker]
    · -- only the first two characters are new neighbours
      apply ht.separator.cons
      intro d hd hseparator
      apply hperiod
      exact ⟨hseparator.1, Option.any_eq_true _ _ |>.2 ⟨d, hd, hseparator.2⟩⟩
    · simp [hcomma.symm, ht.comma]

/-- A character in front of a comment **stays** when it is neither a comma nor a namespace
separator. -/
theorem importChar_eq_self_iff {c : Char} {next : Option Char} :
    importChar c next = c ↔ c ≠ ',' ∧ ¬ (c = '.' ∧ next.any isAsciiLetter = true) := by
  unfold importChar
  split
  · next hcomma => simp [hcomma]
  · next hcomma =>
      split
      · next hperiod => simp [hperiod.1, hperiod.2]
      · next hperiod => simp [hcomma, hperiod]

/-- **The lines that stay** as they are when they are taken over are the plain ones. -/
theorem importLine_eq_self_iff {l : Text} (h : '\n' ∉ l) : importLine l = l ↔ l.IsPlain := by
  induction l with
  | nil => exact ⟨fun _ => ⟨Text.isUnmarked_nil, List.not_mem_nil⟩, fun _ => rfl⟩
  | cons c l ih =>
      rw [List.mem_cons, not_or] at h
      rw [Text.isPlain_cons_iff]
      by_cases hc : c = ';'
      · subst hc
        simp
      · rw [importLine_cons hc, List.cons.injEq, importChar_eq_self_iff, ih h.2]
        simp [Ne.symm h.1, hc, and_assoc]

/-! ## Lines that were taken over -/

/-- What stands **behind the first comment marker** of a line; nothing when it has none. -/
def Text.behindMarker (l : Text) : Text := (l.dropWhile (· ≠ ';')).tail

@[simp] theorem Text.behindMarker_nil : Text.behindMarker [] = [] := rfl

@[simp] theorem Text.behindMarker_marker (l : Text) : Text.behindMarker (';' :: l) = l := rfl

theorem Text.behindMarker_cons {c : Char} (hc : c ≠ ';') (l : Text) :
    Text.behindMarker (c :: l) = Text.behindMarker l := by
  simp [behindMarker, hc]

/-- A line without a marker has no comment. -/
theorem Text.behindMarker_of_notMem {l : Text} (h : ';' ∉ l) : l.behindMarker = [] := by
  induction l with
  | nil => rfl
  | cons c l ih =>
      rw [List.mem_cons, not_or] at h
      rw [behindMarker_cons (Ne.symm h.1), ih h.2]

/-- In front of a comment **no mark is left**: what becomes of a character is neither a newline nor a
marker unless it was one, it is no comma, and it is a period only where no letter follows. -/
theorem importChar_kept {c : Char} (hnewline : c ≠ '\n') (hmarker : c ≠ ';') (next : Option Char) :
    importChar c next ≠ '\n' ∧ importChar c next ≠ ';' ∧ importChar c next ≠ ',' ∧
      ¬ (importChar c next = '.' ∧ next.any isAsciiLetter = true) := by
  unfold importChar
  split
  · exact ⟨by decide, by decide, by decide, fun h => absurd h.1 (by decide)⟩
  · next hcomma =>
      split
      · exact ⟨by decide, by decide, by decide, fun h => absurd h.1 (by decide)⟩
      · next hperiod => exact ⟨hnewline, hmarker, hcomma, hperiod⟩

/-- Letters stay, and nothing else becomes one: a line **begins with a letter** before and after. -/
theorem any_head?_importLine (l : Text) :
    (importLine l).head?.any isAsciiLetter = l.head?.any isAsciiLetter := by
  cases l with
  | nil => rfl
  | cons c l =>
      by_cases hc : c = ';'
      · subst hc
        rw [importLine_marker, List.head?_cons, List.head?_cons]
        decide
      · rw [importLine_cons hc, List.head?_cons, List.head?_cons, Option.any_some, Option.any_some]
        unfold importChar
        split
        · next hcomma => subst hcomma; decide
        · split
          · next hperiod => rw [hperiod.1]; decide
          · rfl

/-- **A line that was taken over is plain** exactly when its comment is. -/
theorem isPlain_importLine_iff {l : Text} (h : '\n' ∉ l) :
    (importLine l).IsPlain ↔ l.behindMarker.IsPlain := by
  induction l with
  | nil => exact Iff.rfl
  | cons c l ih =>
      rw [List.mem_cons, not_or] at h
      by_cases hc : c = ';'
      · -- the marker has become a character that is no mark
        subst hc
        rw [importLine_marker, Text.behindMarker_marker, Text.isPlain_cons_iff]
        simp
      · obtain ⟨hnewline, hmarker, hcomma, hperiod⟩ := importChar_kept (Ne.symm h.1) hc l.head?
        rw [← any_head?_importLine] at hperiod
        rw [importLine_cons hc, Text.behindMarker_cons hc, Text.isPlain_cons_iff, ← ih h.2]
        exact ⟨fun hplain => hplain.2.2.2.2,
          fun hplain => ⟨hnewline, hmarker, hcomma, hperiod, hplain⟩⟩

/-! ## Whole texts -/

/-- **The texts that stay** as they are when they are taken over have nothing but plain lines. -/
theorem importText_eq_self_iff (t : Text) : importText t = t ↔ ∀ l ∈ t.lines, l.IsPlain := by
  have hlines : importText t = t ↔
      Text.unlines (t.lines.map importLine) = Text.unlines (t.lines.map fun l => l) := by
    rw [List.map_id', Text.unlines_lines, importText]
  rw [hlines, Text.unlines_map_eq_iff fun l _ => length_importLine l]
  refine forall₂_congr fun l hl => ?_
  exact importLine_eq_self_iff (Text.newline_notMem_of_mem_lines hl)

/-- **When taking over twice is taking over once.** A second time changes nothing exactly when on every
line the part behind the first comment marker is plain: no further marker, no comma, and no period
directly before an ASCII letter. So it is for every text without comments. A single time changes nothing
exactly when every line is plain. -/
theorem importText_importText_iff (t : Text) :
    (importText (importText t) = importText t ↔ ∀ l ∈ t.lines, l.behindMarker.IsPlain) ∧
      (';' ∉ t → importText (importText t) = importText t) ∧
      (importText t = t ↔ ∀ l ∈ t.lines, l.IsPlain) := by
  have htwice : importText (importText t) = importText t ↔
      ∀ l ∈ t.lines, l.behindMarker.IsPlain := by
    rw [importText_eq_self_iff, lines_importText, List.forall_mem_map]
    refine forall₂_congr fun l hl => ?_
    have hnewline := Text.newline_notMem_of_mem_lines hl
    rw [importText_of_notMem hnewline, isPlain_importLine_iff hnewline]
  refine ⟨htwice, ?_, importText_eq_self_iff t⟩
  intro hmarker
  rw [htwice]
  intro l hl
  have hline : ';' ∉ l := by
    intro hmem
    exact hmarker (Text.mem_of_mem_lines hl hmem)
  rw [Text.behindMarker_of_notMem hline]
  exact ⟨Text.isUnmarked_nil, List.not_mem_nil⟩

/-- Two lines without comments: commas, periods in a row, and periods in front of letters, one of which
is not ASCII. -/
def withoutComments : Text := "R1 a.b,..c\n.é.x,".toList

/-- They change once and then stay. With a comment behind them a further marker changes again, and a
period at the end of a comment stays. -/
theorem importText_importText_iff_withoutComments :
    ';' ∉ withoutComments ∧
      importText withoutComments = "R1 a_b ._c\n.é_x ".toList ∧
      importText (importText withoutComments) = importText withoutComments ∧
      importText (importText (withoutComments ++ ";y.".toList)) =
        importText (withoutComments ++ ";y.".toList) ∧
      importText (importText (withoutComments ++ ";y;".toList)) ≠
        importText (withoutComments ++ ";y;".toList) := by
  have hmarker : ';' ∉ withoutComments := by decide
  obtain ⟨-, hstays, -⟩ := importText_importText_iff withoutComments
  obtain ⟨hperiod, -, -⟩ := importText_importText_iff (withoutComments ++ ";y.".toList)
  obtain ⟨hagain, -, -⟩ := importText_importText_iff (withoutComments ++ ";y;".toList)
  refine ⟨hmarker, by decide +kernel, hstays hmarker, ?_, ?_⟩
  · rw [hperiod]
    decide +kernel
  · rw [Ne, hagain]
    decide +kernel

end SequenceBridge
