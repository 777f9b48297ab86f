import Mathlib.Data.List.DropRight
import SequenceBridge.Proofs.Text.Decimal
import SequenceBridge.Text.Blank

/-! # Texts without blanks at their ends
Trimming leaves a text alone when it has no blank at either end, and takes nothing but the blanks at its
ends away.

* **`isBlank_of_isDigit`** — no digit is blank.
* **`Text.trimEnd_of_forall`** — a text without blanks has none at its end.
* **`Text.trim_cons`** — a text that is trimmed at its end stays so behind a character that is not
  blank.
* **`Text.isStripped_trim`** — what trimming takes away is blank, and neither end of what it leaves is.
* **`Text.isInfix_trim_iff`** — a word without blanks stands in a text as long as it stands in the
  trimmed text.
-/

namespace SequenceBridge

/-- **No ASCII digit is blank.** -/
theorem isBlank_of_isDigit {c : Char} (h : c.isDigit = true) : isBlank c = false := by
  have hcode := toNat_of_isDigit h
  rw [isBlank, List.any_eq_false]
  intro range hrange hin
  rw [Bool.and_eq_true, decide_eq_true_eq, decide_eq_true_eq] at hin
  -- the digits lie between the second range of blanks and the third
  have hapart : ∀ r ∈ blankRanges, r.2 < 48 ∨ 57 < r.1 := by decide
  rcases hapart range hrange with hbelow | habove
  · omega
  · omega

namespace Text

theorem trimEnd_eq_rdropWhile (t : Text) : t.trimEnd = t.rdropWhile SequenceBridge.isBlank := rfl

/-- Trimming leaves no blank at the end. -/
theorem trimEnd_trim (t : Text) : t.trim.trimEnd = t.trim := by
  rw [trim, trimEnd_eq_rdropWhile, trimEnd_eq_rdropWhile, List.rdropWhile_idempotent]

/-- A text **without blanks** has none at its end. -/
theorem trimEnd_of_forall {t : Text} (h : ∀ c ∈ t, SequenceBridge.isBlank c = false) :
    t.trimEnd = t := by
  rw [trimEnd_eq_rdropWhile, List.rdropWhile_eq_self_iff]
  intro hne hblank
  rw [h _ (List.getLast_mem hne)] at hblank
  exact Bool.false_ne_true hblank

/-- **Behind a character that is not blank**, a text that is trimmed at its end stays as it is. -/
theorem trim_cons {c : Char} {t : Text} (hc : SequenceBridge.isBlank c = false)
    (ht : t.trimEnd = t) : trim (c :: t) = c :: t := by
  have hblank : ¬ SequenceBridge.isBlank c = true := by rw [hc]; exact Bool.false_ne_true
  rw [trimEnd_eq_rdropWhile, List.rdropWhile_eq_self_iff] at ht
  rw [trim, trimFront, List.dropWhile_cons_of_neg hblank, trimEnd_eq_rdropWhile,
    List.rdropWhile_eq_self_iff]
  intro hne
  cases t with
  | nil => exact hblank
  | cons d t =>
      rw [List.getLast_cons (List.cons_ne_nil d t)]
      exact ht (List.cons_ne_nil d t)

/-! ## What trimming takes away -/

/-- A text **stripped** of its ends: what was taken away is blank, and neither end of what remains is. -/
structure IsStripped (t s : Text) : Prop where
  /-- Blanks stood in front of what remains and behind it. -/
  ends : ∃ front behind : Text, front.isBlank = true ∧ behind.isBlank = true ∧ t = front ++ s ++ behind
  /-- What remains does not begin with a blank. -/
  head : ∀ c ∈ s.head?, SequenceBridge.isBlank c = false
  /-- It does not end with a blank. -/
  last : ∀ c ∈ s.getLast?, SequenceBridge.isBlank c = false

/-- **Trimming strips** a text of the blanks at its ends. -/
theorem isStripped_trim (t : Text) : t.IsStripped t.trim := by
  refine ⟨⟨t.takeWhile SequenceBridge.isBlank, t.trimFront.rtakeWhile SequenceBridge.isBlank,
    List.all_takeWhile, ?_, ?_⟩, ?_, ?_⟩
  · rw [isBlank, List.all_eq_true]
    exact fun c hc => List.mem_rtakeWhile_imp hc
  · rw [trim, List.append_assoc, trimEnd_eq_rdropWhile, List.rdropWhile_append_rtakeWhile]
    exact List.takeWhile_append_dropWhile.symm
  · intro c hc
    -- the first character of what remains was the first when the front was gone
    obtain ⟨behind, hbehind⟩ := List.rdropWhile_prefix SequenceBridge.isBlank t.trimFront
    have hfirst : t.trimFront.head? = some c := by
      rw [← hbehind]
      exact List.mem_head?_append_of_mem_head? hc
    have hnot := List.head?_dropWhile_not SequenceBridge.isBlank t
    rw [trimFront] at hfirst
    rwa [hfirst] at hnot
  · intro c hc
    have hne : t.trim ≠ [] := List.ne_nil_of_mem (List.mem_of_getLast? hc)
    have hnot := List.rdropWhile_last_not SequenceBridge.isBlank t.trimFront hne
    obtain rfl : t.trim.getLast hne = c := List.getLast_of_mem_getLast? hc
    rw [Bool.not_eq_true] at hnot
    exact hnot

/-- Trimming leaves a part of a text. -/
theorem trim_isInfix (t : Text) : t.trim <:+: t := by
  obtain ⟨front, behind, -, -, ht⟩ := t.isStripped_trim.ends
  exact ⟨front, behind, ht.symm⟩

/-- Trimming a second time takes **nothing more** away. -/
theorem trim_trim (t : Text) : t.trim.trim = t.trim := by
  have hstripped := t.isStripped_trim
  have hfront : t.trim.trimFront = t.trim := by
    cases htrim : t.trim with
    | nil => rfl
    | cons c s =>
        have hc := hstripped.head c (by simp [htrim])
        simp [trimFront, hc]
  rw [trim, hfront, trimEnd_trim]

/-- Trimming takes away **no character but blanks**. -/
theorem count_trim {c : Char} (hc : SequenceBridge.isBlank c = false) (t : Text) :
    t.trim.count c = t.count c := by
  have hblank : ∀ s : Text, s.isBlank = true → s.count c = 0 := by
    intro s hs
    rw [List.count_eq_zero]
    intro hmem
    rw [List.all_eq_true.1 hs c hmem] at hc
    exact Bool.noConfusion hc
  obtain ⟨front, behind, hfront, hbehind, ht⟩ := t.isStripped_trim.ends
  conv_rhs => rw [ht]
  simp [hblank front hfront, hblank behind hbehind]

/-- A word without blanks does not reach into blanks in front of a text. -/
theorem isInfix_append_iff_of_isBlank {w front : Text}
    (hw : ∀ c ∈ w, SequenceBridge.isBlank c = false) (hfront : front.isBlank = true) (t : Text) :
    w <:+: front ++ t ↔ w <:+: t := by
  induction front with
  | nil => rfl
  | cons b front ih =>
      rw [isBlank_cons, Bool.and_eq_true] at hfront
      rw [List.cons_append, List.infix_cons_iff, ih hfront.2, or_iff_right_iff_imp]
      intro hprefix
      cases w with
      | nil => exact List.nil_infix
      | cons c w =>
          -- the word would begin with the blank
          have hc := hw c List.mem_cons_self
          rw [(List.cons_prefix_cons.1 hprefix).1, hfront.1] at hc
          exact Bool.noConfusion hc

/-- A **word without blanks** stands in a text exactly when it stands in the trimmed text. -/
theorem isInfix_trim_iff {w : Text} (hw : ∀ c ∈ w, SequenceBridge.isBlank c = false) (t : Text) :
    w <:+: t.trim ↔ w <:+: t := by
  obtain ⟨front, behind, hfront, hbehind, ht⟩ := t.isStripped_trim.ends
  have hreversed : isBlank behind.reverse = true := by simpa [isBlank] using hbehind
  have hword : ∀ c ∈ w.reverse, SequenceBridge.isBlank c = false := by simpa using hw
  -- from behind, the blanks at the end stand in front
  have hback : w <:+: t.trim ++ behind ↔ w <:+: t.trim := by
    rw [← List.reverse_infix, List.reverse_append, isInfix_append_iff_of_isBlank hword hreversed,
      List.reverse_infix]
  calc w <:+: t.trim ↔ w <:+: t.trim ++ behind := hback.symm
    _ ↔ w <:+: front ++ (t.trim ++ behind) := (isInfix_append_iff_of_isBlank hw hfront _).symm
    _ ↔ w <:+: t := by rw [← List.append_assoc, ← ht]

end Text

end SequenceBridge
