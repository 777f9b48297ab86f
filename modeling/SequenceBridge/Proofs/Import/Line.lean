import Mathlib.Data.List.Chain
import SequenceBridge.Export
import SequenceBridge.Import
import SequenceBridge.Proofs.Text.Lines

/-! # What a line is taken over as
A line of FPrime text is taken over piece by piece, as long as the pieces meet where no namespace
separator can arise. A piece without marks keeps everything but its commas; a stem comes back from its
exported form when its first underscore, if it has one, stands before a letter.

* **`Text.IsUnmarked`**, **`Text.IsPlain`** — texts without marks, and those without commas too.
* **`importLine_append`** — pieces of a line are taken over one by one.
* **`importLine_of_isUnmarked`** — a text without marks keeps everything but its commas.
* **`importLine_exportStem_iff`** — which stems come back from their exported form.
* **`importText_unlines`** — a text is taken over line by line.
-/

namespace SequenceBridge

/-! ## Texts without marks -/

/-- The commas of a text turned into spaces. -/
def spaced (t : Text) : Text := t.map fun c => if c = ',' then ' ' else c

/-- A text is **unmarked** when it has no newline, no comment marker, and no namespace separator: no
period directly before an ASCII letter. -/
structure Text.IsUnmarked (t : Text) : Prop where
  newline : '\n' ∉ t
  marker : ';' ∉ t
  separator : t.IsChain fun a b => ¬ (a = '.' ∧ isAsciiLetter b = true)

/-- A text is **plain** when it is unmarked and has no comma. -/
structure Text.IsPlain (t : Text) : Prop extends Text.IsUnmarked t where
  comma : ',' ∉ t

namespace Text

instance (t : Text) : Decidable t.IsUnmarked :=
  decidable_of_iff
    ('\n' ∉ t ∧ ';' ∉ t ∧ t.IsChain fun a b => ¬ (a = '.' ∧ isAsciiLetter b = true))
    ⟨fun h => ⟨h.1, h.2.1, h.2.2⟩, fun h => ⟨h.newline, h.marker, h.separator⟩⟩

instance (t : Text) : Decidable t.IsPlain :=
  decidable_of_iff (t.IsUnmarked ∧ ',' ∉ t) ⟨fun h => ⟨h.1, h.2⟩, fun h => ⟨h.1, h.comma⟩⟩

theorem isUnmarked_nil : IsUnmarked [] :=
  ⟨List.not_mem_nil, List.not_mem_nil, List.isChain_nil⟩

/-- A part of an unmarked text is unmarked. -/
theorem IsUnmarked.part {s t : Text} (h : t.IsUnmarked) (hs : s <:+: t) : s.IsUnmarked :=
  ⟨fun hc => h.newline (hs.subset hc), fun hc => h.marker (hs.subset hc), List.IsChain.infix h.separator hs⟩

/-- A part of a plain text is plain. -/
theorem IsPlain.part {s t : Text} (h : t.IsPlain) (hs : s <:+: t) : s.IsPlain :=
  ⟨h.toIsUnmarked.part hs, fun hc => h.comma (hs.subset hc)⟩

/-- A character **keeps texts apart** when no mark arises around it. -/
def KeepsApart (c : Char) : Prop :=
  c ≠ '\n' ∧ c ≠ ';' ∧ c ≠ '.' ∧ isAsciiLetter c = false

instance (c : Char) : Decidable (KeepsApart c) :=
  inferInstanceAs (Decidable (c ≠ '\n' ∧ c ≠ ';' ∧ c ≠ '.' ∧ isAsciiLetter c = false))

/-- **Unmarked texts that are kept apart** make an unmarked text. -/
theorem IsUnmarked.append_cons {s t : Text} (hs : s.IsUnmarked) (ht : t.IsUnmarked) {c : Char}
    (hc : KeepsApart c) : (s ++ c :: t).IsUnmarked := by
  obtain ⟨hnewline, hmarker, hperiod, hletter⟩ := hc
  refine ⟨?_, ?_, ?_⟩
  · rw [List.mem_append, List.mem_cons]
    rintro (h | rfl | h)
    · exact hs.newline h
    · exact hnewline rfl
    · exact ht.newline h
  · rw [List.mem_append, List.mem_cons]
    rintro (h | rfl | h)
    · exact hs.marker h
    · exact hmarker rfl
    · exact ht.marker h
  · -- `c` is no period in front of the second text, and no letter behind the first
    refine hs.separator.append (ht.separator.cons fun b _ h => hperiod h.1) ?_
    rintro a - b hb ⟨-, hb'⟩
    rw [List.head?_cons, Option.mem_some_iff] at hb
    rw [← hb, hletter] at hb'
    exact absurd hb' Bool.false_ne_true

/-- Unmarked pieces are joined by commas to an unmarked text. -/
theorem isUnmarked_commas {ts : List Text} (h : ∀ t ∈ ts, t.IsUnmarked) :
    (commas ts).IsUnmarked := by
  induction ts with
  | nil => exact isUnmarked_nil
  | cons t ts ih =>
      rw [List.forall_mem_cons] at h
      cases ts with
      | nil => rw [commas_singleton]; exact h.1
      | cons u us =>
          rw [commas_cons_cons]
          exact h.1.append_cons (ih h.2) (by decide)

end Text

/-! ## Lines in pieces -/

/-- **Pieces of a line** are taken over one by one, when the first has no comment marker and the second
does not begin with a letter. -/
theorem importLine_append {s t : Text} (hs : ';' ∉ s)
    (ht : ∀ c ∈ t.head?, isAsciiLetter c = false) :
    importLine (s ++ t) = importLine s ++ importLine t := by
  induction s with
  | nil => rfl
  | cons c s ih =>
      have hc : c ≠ ';' := (List.ne_of_not_mem_cons hs).symm
      have hs : ';' ∉ s := List.not_mem_of_not_mem_cons hs
      have hnext : importChar c (s ++ t).head? = importChar c s.head? := by
        cases s with
        | cons d s => rfl
        | nil =>
            -- the piece ends here: neither its end nor what follows is a letter
            rw [List.nil_append, List.head?_nil, importChar, importChar]
            cases hhead : t.head? with
            | none => rfl
            | some d => simp [ht d hhead]
      rw [List.cons_append, importLine_cons hc, importLine_cons hc, hnext, ih hs,
        List.cons_append]

/-- A character that keeps pieces apart, with what follows it. -/
theorem importLine_append_cons {s : Text} (hs : ';' ∉ s) {c : Char} (hc : Text.KeepsApart c)
    (hcomma : c ≠ ',') (t : Text) :
    importLine (s ++ c :: t) = importLine s ++ c :: importLine t := by
  obtain ⟨-, hmarker, hperiod, hletter⟩ := hc
  have hkeep : importChar c t.head? = c := by
    rw [importChar, if_neg hcomma, if_neg fun h => hperiod h.1]
  have hhead : ∀ d ∈ (c :: t).head?, isAsciiLetter d = false := by
    intro d hd
    rw [List.head?_cons, Option.mem_some_iff] at hd
    rw [← hd, hletter]
  rw [importLine_append hs hhead, importLine_cons hmarker, hkeep]

/-- **An unmarked text** keeps everything but its commas. -/
theorem importLine_of_isUnmarked {t : Text} (h : t.IsUnmarked) : importLine t = spaced t := by
  induction t with
  | nil => rfl
  | cons c t ih =>
      have hc : c ≠ ';' := (List.ne_of_not_mem_cons h.marker).symm
      have hnext : importChar c t.head? = if c = ',' then ' ' else c := by
        rw [importChar]
        refine if_congr Iff.rfl rfl (if_neg ?_)
        rintro ⟨rfl, hletter⟩
        obtain ⟨d, hd, hletter⟩ := Option.any_eq_true _ _ |>.1 hletter
        exact h.separator.rel_head? hd ⟨rfl, hletter⟩
      rw [importLine_cons hc, hnext, ih (h.part (List.suffix_cons c t).isInfix)]
      rfl

/-- A text without commas has none to turn. -/
theorem spaced_of_notMem {t : Text} (h : ',' ∉ t) : spaced t = t := by
  rw [spaced]
  refine (List.map_congr_left fun c hc => if_neg ?_).trans (List.map_id t)
  rintro rfl
  exact h hc

/-- **A plain text** is taken over as it is. -/
theorem importLine_of_isPlain {t : Text} (h : t.IsPlain) : importLine t = t := by
  rw [importLine_of_isUnmarked h.toIsUnmarked, spaced_of_notMem h.comma]

/-! ## Stems -/

/-- A stem **comes back** from its exported form when its first underscore, if it has one, stands
directly before an ASCII letter. -/
def StemReturns (stem : Text) : Prop :=
  ∀ rest, stem.dropWhile (· ≠ '_') = '_' :: rest → rest.head?.any isAsciiLetter = true

instance (stem : Text) : Decidable (StemReturns stem) :=
  match h : stem.dropWhile (· ≠ '_') with
  | [] => .isTrue fun _ hrest => nomatch h.symm.trans hrest
  | c :: behind =>
    decidable_of_iff (c = '_' → behind.head?.any isAsciiLetter = true)
      ⟨fun hc rest hrest => by
        obtain ⟨rfl, rfl⟩ := List.cons.inj (h.symm.trans hrest)
        exact hc rfl,
      fun hreturns hc => hreturns behind (hc ▸ h)⟩

/-- What stands in an exported stem stood in the stem, or is the period. -/
theorem mem_of_mem_exportStem {stem : Text} {c : Char} (h : c ∈ exportStem stem) :
    c ∈ stem ∨ c = '.' := by
  induction stem with
  | nil => exact .inl h
  | cons d stem ih =>
      rw [exportStem] at h
      split at h
      · rcases List.mem_cons.1 h with h | h
        · exact .inr h
        · exact .inl (List.mem_cons_of_mem d h)
      · rcases List.mem_cons.1 h with h | h
        · exact .inl (h ▸ List.mem_cons_self)
        · exact (ih h).imp_left (List.mem_cons_of_mem d)

/-- An exported stem begins with the first character of the stem, or with the period. -/
theorem any_head?_exportStem {stem : Text}
    (h : (exportStem stem).head?.any isAsciiLetter = true) :
    stem.head?.any isAsciiLetter = true := by
  cases stem with
  | nil => exact h
  | cons c stem =>
      rw [exportStem] at h
      split at h
      · exact absurd (show isAsciiLetter '.' = true from h) (by decide)
      · exact h

/-- **Which stems come back** from their exported form. -/
theorem importLine_exportStem_iff {stem : Text} (h : stem.IsPlain) :
    importLine (exportStem stem) = stem ↔ StemReturns stem := by
  induction stem with
  | nil => exact ⟨fun _ rest hrest => (nomatch hrest), fun _ => rfl⟩
  | cons c stem ih =>
      have hstem : Text.IsPlain stem := h.part (List.suffix_cons c stem).isInfix
      by_cases hc : c = '_'
      · -- the underscore that becomes the period
        subst hc
        have hreturns : StemReturns ('_' :: stem) ↔ stem.head?.any isAsciiLetter = true := by
          rw [StemReturns, List.dropWhile_cons_of_neg (by decide)]
          exact ⟨fun h => h stem rfl, fun h rest hrest => (List.cons.inj hrest).2 ▸ h⟩
        rw [hreturns, exportStem, if_pos rfl, importLine_cons (by decide),
          importLine_of_isPlain hstem, List.cons.injEq, importChar, if_neg (by decide)]
        constructor
        · rintro ⟨hperiod, -⟩
          by_contra hletter
          rw [if_neg fun h => hletter h.2] at hperiod
          exact absurd hperiod (by decide)
        · intro hletter
          exact ⟨if_pos ⟨rfl, hletter⟩, rfl⟩
      · -- any other character stays; exporting the rest puts no letter behind a period
        have hmarker : c ≠ ';' := (List.ne_of_not_mem_cons h.marker).symm
        have hcomma : c ≠ ',' := (List.ne_of_not_mem_cons h.comma).symm
        have hkeep : importChar c (exportStem stem).head? = c := by
          rw [importChar, if_neg hcomma]
          refine if_neg ?_
          rintro ⟨rfl, hletter⟩
          obtain ⟨d, hd, hletter⟩ := Option.any_eq_true _ _ |>.1 (any_head?_exportStem hletter)
          exact h.separator.rel_head? hd ⟨rfl, hletter⟩
        have hdrop : (c :: stem).dropWhile (· ≠ '_') = stem.dropWhile (· ≠ '_') :=
          List.dropWhile_cons_of_pos (decide_eq_true hc)
        have hreturns : StemReturns (c :: stem) ↔ StemReturns stem := by
          rw [StemReturns, StemReturns, hdrop]
        rw [hreturns, ← ih hstem, exportStem, if_neg hc, importLine_cons hmarker, hkeep,
          List.cons.injEq]
        exact ⟨fun h => h.2, fun h => ⟨rfl, h⟩⟩

/-! ## Whole texts -/

/-- **A text is taken over line by line.** -/
theorem importText_unlines {ls : List Text} (h : ∀ l ∈ ls, '\n' ∉ l) :
    importText (Text.unlines ls) = Text.unlines (ls.map importLine) := by
  rw [importText]
  by_cases hne : ls = []
  · rw [hne]
    rfl
  · rw [Text.lines_unlines hne h]

end SequenceBridge
