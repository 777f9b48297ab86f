import SequenceBridge.Export
import SequenceBridge.Proofs.Text.Blank
import SequenceBridge.Proofs.TimeTag.Encoding

/-! # The time of an exported command
The line of a command begins with its time as FPrime writes it, or with what stands in for an unknown
one. A time in writing begins with the letter of its kind and has no blank at its end, so it is never
cut, and never taken for the unknown one.

* **`Duration.isDigit_or_mem_of_mem_text`** — the characters that a duration is written with.
* **`TimeTag.trim_text`** — the writing of a command's time tag has no blanks at its ends.
* **`exportTime_of_encode?`** — the line of a command has its time as it is written.
* **`exportTime_eq_unknownText_iff`** — it has the unknown one exactly when the time is unknown.
-/

namespace SequenceBridge

/-! ## Times without blanks at their ends -/

/-- A duration is written with **digits and four other characters**. -/
theorem Duration.isDigit_or_mem_of_mem_text {d : Duration} {c : Char} (h : c ∈ d.text) :
    c.isDigit = true ∨ c ∈ ['-', 'T', ':', '.'] := by
  have hpadded : ∀ width n, c ∈ padded width n → c.isDigit = true := fun width n hc =>
    List.all_eq_true.1 (all_isDigit_padded width n) c hc
  rw [text_eq, List.mem_append, List.mem_append, List.mem_append] at h
  rcases h with hsign | hdays | hclock | hfraction
  · rw [signText] at hsign
    split at hsign
    · rw [List.mem_singleton.1 hsign]
      exact .inr (by decide)
    · exact absurd hsign List.not_mem_nil
  · rw [daysText] at hdays
    split at hdays
    · exact absurd hdays List.not_mem_nil
    · rcases List.mem_append.1 hdays with hc | hc
      · exact .inl (hpadded 3 _ hc)
      · rw [List.mem_singleton.1 hc]
        exact .inr (by decide)
  · simp only [clockText, List.mem_append, List.mem_cons] at hclock
    rcases hclock with (hc | rfl | hc) | rfl | hc
    · exact .inl (hpadded 2 _ hc)
    · exact .inr (by decide)
    · exact .inl (hpadded 2 _ hc)
    · exact .inr (by decide)
    · exact .inl (hpadded 2 _ hc)
  · rw [fractionText] at hfraction
    split at hfraction
    · exact absurd hfraction List.not_mem_nil
    · rcases List.mem_cons.1 hfraction with rfl | hc
      · exact .inr (by decide)
      · exact .inl (hpadded 3 _ hc)

/-- None of them is blank. -/
theorem Duration.isBlank_of_mem_text {d : Duration} {c : Char} (h : c ∈ d.text) :
    isBlank c = false := by
  rcases isDigit_or_mem_of_mem_text h with hdigit | hother
  · exact isBlank_of_isDigit hdigit
  · have hmarks : (['-', 'T', ':', '.'].all fun m => !isBlank m) = true := by decide
    rw [List.all_eq_true] at hmarks
    rw [← Bool.not_eq_true', hmarks c hother]

namespace TimeTag

/-- **The writing of a command's time tag** has no blanks at its ends. -/
theorem trim_text {c : Command} {source : Text} {tag : TimeTag}
    (h : ofCommand? c source = some tag) : tag.text.trim = tag.text := by
  rcases ofCommand?_eq_some h with ⟨n, body, hbody, rfl⟩ | ⟨n, body, d, -, -, rfl⟩
  · -- the body of an absolute time was trimmed when it was read
    obtain ⟨t, -, rfl⟩ := Option.map_eq_some_iff.1 hbody
    exact Text.trim_cons (by decide) (Text.trimEnd_trim _)
  · exact Text.trim_cons (by decide)
      (Text.trimEnd_of_forall fun _ hc => Duration.isBlank_of_mem_text hc)

/-- A time tag in writing is not taken for an unknown one, nor is it empty. -/
theorem text_ne_unknownText (tag : TimeTag) : tag.text ≠ unknownText := by
  cases tag with
  | absolute body => exact fun h => absurd (List.cons.inj h).1 (by decide)
  | relative d => exact fun h => absurd (List.cons.inj h).1 (by decide)

theorem text_ne_nil (tag : TimeTag) : tag.text ≠ [] := by
  cases tag <;> exact List.cons_ne_nil _ _

end TimeTag

/-! ## The time in the line -/

/-- **The line of a command has its time as it is written.** -/
theorem exportTime_of_encode? {c : Command} {source t : Text}
    (h : TimeTag.encode? c source = some t) : exportTime c source = t := by
  obtain ⟨tag, htag, rfl⟩ := Option.map_eq_some_iff.1 h
  have hne : (!tag.text.isEmpty) = true := by
    rw [Bool.not_eq_true', List.isEmpty_eq_false_iff]
    exact tag.text_ne_nil
  rw [exportTime, h, Option.map_some, TimeTag.trim_text htag, Option.filter_some, if_pos hne,
    Option.getD_some]

/-- Without a time in writing, the unknown one stands in for it. -/
theorem exportTime_of_encode?_eq_none {c : Command} {source : Text}
    (h : TimeTag.encode? c source = none) : exportTime c source = unknownText := by
  rw [exportTime, h]
  rfl

/-- **The line of a command has the unknown time** exactly when its time is unknown. -/
theorem exportTime_eq_unknownText_iff {c : Command} {source : Text} :
    exportTime c source = unknownText ↔ c.TimeUnknown source := by
  rw [← TimeTag.encode?_eq_none_iff]
  constructor
  · intro hunknown
    cases h : TimeTag.encode? c source with
    | none => rfl
    | some t =>
        obtain ⟨tag, -, rfl⟩ := Option.map_eq_some_iff.1 h
        rw [exportTime_of_encode? h] at hunknown
        exact absurd hunknown tag.text_ne_unknownText
  · exact exportTime_of_encode?_eq_none

/-- A time that is known stands in the line as it is written. -/
theorem encode?_of_not_timeUnknown {c : Command} {source : Text} (h : ¬ c.TimeUnknown source) :
    TimeTag.encode? c source = some (exportTime c source) := by
  cases hencode : TimeTag.encode? c source with
  | none => exact absurd (TimeTag.encode?_eq_none_iff.1 hencode) h
  | some t => rw [exportTime_of_encode? hencode]

end SequenceBridge
