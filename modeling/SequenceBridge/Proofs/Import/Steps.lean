import Mathlib.Data.List.TakeWhile
import SequenceBridge.Proofs.Import.Line

/-! # A line taken over in steps
A line can be taken over in steps: it is cut at the first comment marker, the commas before it become
spaces, and then the separators of namespaces are replaced from left to right, each together with the
letter behind it, which is not looked at again. The comment gets its new marker and follows. This comes to
the same as the rule for one character: a letter is no separator, so nothing is missed where a replaced
one ends, and no separator arises from a comma.

* **`replaceSeparators`** — separators replaced, from left to right.
* **`importLineInSteps`** — the steps for one line.
* **`importLine_eq_importLineInSteps`** — they come to the same.
-/

namespace SequenceBridge

/-- A text in which every period with an ASCII letter behind it is **replaced** by an underscore with that
letter, from left to right. What was put in their place is not looked at again. -/
def replaceSeparators : Text → Text
  | c :: d :: rest =>
    if c = '.' ∧ isAsciiLetter d = true then '_' :: d :: replaceSeparators rest
    else c :: replaceSeparators (d :: rest)
  | t => t

/-- A comment with the other marker. Without one, it is empty. -/
def remarked : Text → Text
  | ';' :: rest => '#' :: rest
  | _ => []

/-- A line **taken over in steps**: cut at the first marker, commas replaced, then separators, and the
comment put back. -/
def importLineInSteps (line : Text) : Text :=
  replaceSeparators (spaced (line.takeWhile (· ≠ ';'))) ++ remarked (line.dropWhile (· ≠ ';'))

/-- A letter is **no mark**. -/
theorem ne_of_isAsciiLetter {c : Char} (h : isAsciiLetter c = true) :
    c ≠ ',' ∧ c ≠ '.' ∧ c ≠ ';' := by
  refine ⟨?_, ?_, ?_⟩ <;> rintro rfl <;> exact absurd h (by decide)

/-- Turning a comma makes **no separator and unmakes none**. -/
theorem isSeparator_spaced_iff (c d : Char) :
    ((if c = ',' then ' ' else c) = '.' ∧ isAsciiLetter (if d = ',' then ' ' else d) = true) ↔
      c = '.' ∧ isAsciiLetter d = true := by
  by_cases hc : c = ','
  · simp [hc]
  · by_cases hd : d = ','
    · simp [hc, hd, isAsciiLetter]
    · simp [hc, hd]

/-- **Before any marker** replacing commas and then separators is to replace character by character. -/
theorem importLine_eq_replaceSeparators :
    ∀ {t : Text}, ';' ∉ t → importLine t = replaceSeparators (spaced t)
  | [], _ => rfl
  | [c], h => by
      have hc : c ≠ ';' := (List.ne_of_not_mem_cons h).symm
      simp [importLine_cons hc, importChar, spaced, replaceSeparators]
  | c :: d :: rest, h => by
      have hc : c ≠ ';' := (List.ne_of_not_mem_cons h).symm
      have htail : ';' ∉ d :: rest := List.not_mem_of_not_mem_cons h
      have hspaced : spaced (c :: d :: rest) =
          (if c = ',' then ' ' else c) :: (if d = ',' then ' ' else d) :: spaced rest := rfl
      rw [hspaced, replaceSeparators, importLine_cons hc, List.head?_cons]
      simp only [isSeparator_spaced_iff]
      by_cases hseparator : c = '.' ∧ isAsciiLetter d = true
      · -- the letter stays, and the search goes on behind it
        obtain ⟨hcomma, hperiod, hmarker⟩ := ne_of_isAsciiLetter hseparator.2
        have hletter : importChar d rest.head? = d := by
          rw [importChar, if_neg hcomma, if_neg fun h => hperiod h.1]
        have hunderscore : importChar c (some d) = '_' := by
          simp [importChar, hseparator]
        rw [if_pos hseparator, hunderscore, if_neg hcomma, importLine_cons hmarker, hletter,
          importLine_eq_replaceSeparators (List.not_mem_of_not_mem_cons htail)]
      · have hkeep : importChar c (some d) = if c = ',' then ' ' else c := by
          rw [importChar]
          exact if_congr Iff.rfl rfl (if_neg (by simpa using hseparator))
        rw [if_neg hseparator, hkeep, importLine_eq_replaceSeparators htail]
        rfl

/-- **A line taken over in steps** is the line taken over character by character. -/
theorem importLine_eq_importLineInSteps (line : Text) : importLine line = importLineInSteps line := by
  have hbody : ';' ∉ line.takeWhile (· ≠ ';') := fun hmem => by
    simpa using List.mem_takeWhile_imp hmem
  have hcomment : ∀ c ∈ (line.dropWhile (· ≠ ';')).head?, c = ';' := fun c hc => by
    have hnot := List.head?_dropWhile_not (fun d => decide (d ≠ ';')) line
    rw [Option.mem_def.1 hc] at hnot
    simpa using hnot
  have hmarker : ∀ c ∈ (line.dropWhile (· ≠ ';')).head?, isAsciiLetter c = false := fun c hc => by
    rw [hcomment c hc]
    decide
  rw [importLineInSteps, ← importLine_eq_replaceSeparators hbody]
  conv_lhs => rw [← List.takeWhile_append_dropWhile (p := (· ≠ ';')) (l := line)]
  rw [importLine_append hbody hmarker]
  congr 1
  cases hdrop : line.dropWhile (· ≠ ';') with
  | nil => rfl
  | cons c rest =>
      obtain rfl := hcomment c (by rw [hdrop]; rfl)
      rfl

end SequenceBridge
