import Mathlib.Data.List.Basic
import SequenceBridge.Comment
import SequenceBridge.Proofs.Text.Blank

/-! # Backslashes that escape quotes
Removing the backslashes in front of double quotes is a replacement of one word by another that does not
look at its own output. It comes to the same to delete, at every place by itself, a backslash that stands
directly before a double quote. A second time there is something to delete exactly when two backslashes
stood before a quote: the first of them has then moved up to the quote.

* **`Text.replaceAll`** — a word replaced wherever it stands.
* **`Text.withoutEscapes`** — a text without the characters at the places that escape a quote.
* **`unescapeQuotes_eq_replaceAll`**, **`unescapeQuotes_eq_withoutEscapes`** — removing the backslashes is
  the one and the other.
* **`unescapeQuotes_eq_self_iff`** — the texts that have no backslash to remove.
* **`escapedQuote_isInfix_unescapeQuotes_iff`** — the texts that have one left.
* **`commentText_deletes_escapes`** — what the normal form of a comment deletes, and when a second time
  deletes nothing.
-/

namespace SequenceBridge

/-! ## Replacing a word -/

/-- A text in which a word is **replaced** wherever it stands, from left to right. The word is `first` with
`more` behind it; what was put in its place is not looked at again. -/
def Text.replaceAll (first : Char) (more replacement : Text) : Text → Text
  | [] => []
  | c :: rest =>
    if c = first ∧ more.isPrefixOf rest then
      replacement ++ replaceAll first more replacement (rest.drop more.length)
    else c :: replaceAll first more replacement rest
termination_by t => t.length
decreasing_by
  · simp only [List.length_drop, List.length_cons]
    omega
  · simp

/-- Removing the backslashes **replaces** an escaped quote by a quote wherever it stands. -/
theorem unescapeQuotes_eq_replaceAll (t : Text) :
    unescapeQuotes t = Text.replaceAll '\\' ['\x22'] ['\x22'] t := by
  fun_induction Text.replaceAll '\\' ['\x22'] ['\x22'] t with
  | case1 => rfl
  | case2 c rest h ih =>
      -- the quote is kept at once, and the search goes on behind it
      obtain ⟨rfl, hquote⟩ := h
      obtain ⟨behind, rfl⟩ := List.isPrefixOf_iff_prefix.1 hquote
      simpa using ih
  | case3 c rest h ih =>
      have hkept : ¬ (c = '\\' ∧ rest.head? = some '\x22') := by
        rintro ⟨hc, hquote⟩
        obtain ⟨behind, rfl⟩ := List.head?_eq_some_iff.1 hquote
        exact h ⟨hc, by simp⟩
      rw [unescapeQuotes, if_neg hkept, ih]

/-! ## Deleting places -/

/-- The character at a place **escapes** the one behind it: it is a backslash, and a double quote stands
directly behind it. -/
def Text.EscapesAt (t : Text) (i : Nat) : Prop := t[i]? = some '\\' ∧ t[i + 1]? = some '\x22'

instance (t : Text) (i : Nat) : Decidable (t.EscapesAt i) := inferInstanceAs (Decidable (_ ∧ _))

/-- A text **without its escapes**: the characters at all places but those that escape, in their order. -/
def Text.withoutEscapes (t : Text) : Text :=
  ((List.range t.length).filter fun i => ¬ t.EscapesAt i).filterMap (t[·]?)

theorem Text.escapesAt_zero_iff {c : Char} {t : Text} :
    Text.EscapesAt (c :: t) 0 ↔ c = '\\' ∧ t.head? = some '\x22' := by
  simp [EscapesAt, List.head?_eq_getElem?]

theorem Text.escapesAt_succ_iff {c : Char} {t : Text} {i : Nat} :
    Text.EscapesAt (c :: t) (i + 1) ↔ t.EscapesAt i := by
  simp [EscapesAt]

/-- Whether the first character is deleted depends on the next one alone; behind it the places move up. -/
theorem Text.withoutEscapes_cons (c : Char) (t : Text) :
    Text.withoutEscapes (c :: t) =
      if Text.EscapesAt (c :: t) 0 then t.withoutEscapes else c :: t.withoutEscapes := by
  have hbehind : (((List.range t.length).map Nat.succ).filter fun i =>
      ¬ Text.EscapesAt (c :: t) i).filterMap ((c :: t)[·]?) = t.withoutEscapes := by
    rw [List.filter_map, List.filterMap_map, withoutEscapes]
    simp [Function.comp_def, escapesAt_succ_iff]
  rw [withoutEscapes, List.length_cons, List.range_succ_eq_map, List.filter_cons]
  by_cases h : Text.EscapesAt (c :: t) 0
  · simp only [h, not_true_eq_false, decide_false, Bool.false_eq_true, if_false, if_true]
    exact hbehind
  · simp only [h, not_false_eq_true, decide_true, if_true, if_false]
    rw [List.filterMap_cons_some (by rfl), hbehind]

/-- Removing the backslashes **deletes** every place that escapes, and keeps all others. -/
theorem unescapeQuotes_eq_withoutEscapes (t : Text) : unescapeQuotes t = t.withoutEscapes := by
  induction t with
  | nil => rfl
  | cons c t ih =>
      rw [unescapeQuotes, Text.withoutEscapes_cons, ih]
      simp only [Text.escapesAt_zero_iff]

/-- It deletes **nothing but backslashes**. -/
theorem count_unescapeQuotes {x : Char} (hx : x ≠ '\\') (t : Text) :
    (unescapeQuotes t).count x = t.count x := by
  induction t with
  | nil => rfl
  | cons c t ih =>
      rw [unescapeQuotes]
      split
      · next h => rw [ih, h.1, List.count_cons_of_ne hx.symm]
      · rw [List.count_cons, List.count_cons, ih]

/-! ## Removing backslashes again -/

/-- An **escaped quote**: a backslash directly before a double quote. -/
def escapedQuote : Text := ['\\', '\x22']

theorem escapedQuote_isPrefix_iff {c : Char} {t : Text} :
    escapedQuote <+: c :: t ↔ c = '\\' ∧ t.head? = some '\x22' := by
  rw [escapedQuote, List.cons_prefix_cons, eq_comm]
  cases t with
  | nil => simp
  | cons d t => simp [eq_comm]

/-- A text **stays as it is** exactly when it has no escaped quote. -/
theorem unescapeQuotes_eq_self_iff {t : Text} :
    unescapeQuotes t = t ↔ ¬ escapedQuote <:+: t := by
  induction t with
  | nil => simp [escapedQuote]
  | cons c t ih =>
      rw [unescapeQuotes, List.infix_cons_iff, escapedQuote_isPrefix_iff, not_or, ← ih]
      split
      · next h =>
          -- a character is gone
          have hlength := (unescapeQuotes_sublist t).length_le
          constructor
          · intro heq
            rw [heq, List.length_cons] at hlength
            omega
          · intro hnot
            exact absurd h hnot.1
      · next h => simp [h]

/-- After it a text **begins with a quote** when it began with a quote or with an escaped one. -/
theorem head?_unescapeQuotes_iff {t : Text} :
    (unescapeQuotes t).head? = some '\x22' ↔ t.head? = some '\x22' ∨ escapedQuote <+: t := by
  cases t with
  | nil => simp [escapedQuote]
  | cons c t =>
      rw [escapedQuote_isPrefix_iff, unescapeQuotes]
      split
      · next h =>
          obtain ⟨behind, rfl⟩ := List.head?_eq_some_iff.1 h.2
          simp [h, unescapeQuotes]
      · next h => simp [h]

/-- An escaped quote **is left** exactly when two backslashes stood directly before a quote. -/
theorem escapedQuote_isInfix_unescapeQuotes_iff {t : Text} :
    escapedQuote <:+: unescapeQuotes t ↔ '\\' :: escapedQuote <:+: t := by
  induction t with
  | nil => simp [escapedQuote]
  | cons c t ih =>
      rw [unescapeQuotes, List.infix_cons_iff, List.cons_prefix_cons]
      split
      · next h =>
          -- behind the backslash that goes stands a quote, not another backslash
          have hquote : ¬ escapedQuote <+: t := by
            obtain ⟨behind, rfl⟩ := List.head?_eq_some_iff.1 h.2
            rw [escapedQuote_isPrefix_iff]
            exact fun hbackslash => absurd hbackslash.1 (by decide)
          rw [ih]
          simp [hquote]
      · next h =>
          rw [List.infix_cons_iff, ih, escapedQuote_isPrefix_iff, head?_unescapeQuotes_iff]
          by_cases hc : c = '\\'
          · have hquote : t.head? ≠ some '\x22' := fun hquote => h ⟨hc, hquote⟩
            simp [hc, hquote]
          · simp [hc, Ne.symm hc]

/-- The normal form is **the same a second time** exactly when it has no escaped quote. -/
theorem commentText_commentText_iff (t : Text) :
    commentText (commentText t) = commentText t ↔ ¬ escapedQuote <:+: commentText t := by
  rw [← unescapeQuotes_eq_self_iff]
  constructor
  · intro h
    -- what is trimmed is not longer than what it came from, and that is not longer than the text
    have hsublist := unescapeQuotes_sublist (commentText t)
    have hlength := (Text.trim_isInfix (unescapeQuotes (commentText t))).length_le
    rw [← commentText, h] at hlength
    exact hsublist.eq_of_length_le hlength
  · intro h
    rw [commentText, h, commentText, Text.trim_trim]

/-! ## Comments -/

/-- **What the normal form of a comment deletes.** It replaces every escaped quote by a quote, which is to
delete every backslash that stands directly before a double quote and to keep all else in its order; then
the blanks at both ends go. So it has as many double quotes as the comment. The normal form of a normal
form is the same exactly when the comment has no two backslashes directly before a double quote. -/
theorem commentText_deletes_escapes (t : Text) :
    commentText t = (Text.replaceAll '\\' ['\x22'] ['\x22'] t).trim ∧
      commentText t = t.withoutEscapes.trim ∧
      t.withoutEscapes.IsStripped (commentText t) ∧
      (commentText t).count '\x22' = t.count '\x22' ∧
      (commentText (commentText t) = commentText t ↔ ¬ ['\\', '\\', '\x22'] <:+: t) := by
  refine ⟨?_, ?_, ?_, ?_, ?_⟩
  · rw [commentText, unescapeQuotes_eq_replaceAll]
  · rw [commentText, unescapeQuotes_eq_withoutEscapes]
  · rw [commentText, unescapeQuotes_eq_withoutEscapes]
    exact Text.isStripped_trim _
  · rw [commentText, Text.count_trim (by decide), count_unescapeQuotes (by decide)]
  · have hword : ∀ c ∈ escapedQuote, isBlank c = false := by
      rw [escapedQuote, List.forall_mem_cons, List.forall_mem_singleton]
      exact ⟨by decide, by decide⟩
    rw [commentText_commentText_iff, commentText, Text.isInfix_trim_iff hword,
      escapedQuote_isInfix_unescapeQuotes_iff]
    rfl

-- two backslashes before a quote go one after the other
example : commentText [' ', '\\', '\\', '\x22'] = ['\\', '\x22'] ∧
    commentText ['\\', '\x22'] = ['\x22'] := by decide

end SequenceBridge
