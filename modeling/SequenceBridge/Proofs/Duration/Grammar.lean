import Mathlib.Data.List.Basic
import SequenceBridge.Proofs.Duration.Balance

/-! # The grammar of written durations
The two forms of a written duration as a grammar, apart from how they are read. Both begin with an
optional sign and end with an optional fraction. Between them the full form has three digits, a letter
and a clock, and the simple form has a clock or a bare count. A digit may be of any script.

* **`Duration.Sign`**, **`Duration.Fraction`**, **`Duration.Clock`** — the parts of the forms.
* **`Duration.FullForm`**, **`Duration.SimpleForm`** — the forms, a text with its pieces.
* **`Duration.full?_eq_some_iff`**, **`Duration.simple?_eq_some_iff`** — a text is taken apart into the
  pieces that it has by the grammar.
* **`Duration.Form`**, **`Duration.form_iff`** — either form; a text has at most one, and one way to
  have it.
* **`Duration.Form.parse_eq`** — a text in one of the forms is read by its pieces.
-/

namespace SequenceBridge

namespace Duration

/-! ## Parts -/

/-- A text **of decimal digits**, each of any script. -/
def IsDigits (t : Text) : Prop := ∀ c ∈ t, isDecimalDigit c = true

/-- An optional **sign**, and whether it is a minus. -/
inductive Sign : Text → Bool → Prop
  | absent : Sign [] false
  | plus : Sign ['+'] false
  | minus : Sign ['-'] true

/-- An optional **fraction**, and the digits behind its point. -/
inductive Fraction : Text → Text → Prop
  | absent : Fraction [] []
  | digits {digits : Text} (hne : digits ≠ []) (h : IsDigits digits) :
      Fraction ('.' :: digits) digits

/-- A **clock**: three pairs of digits, a colon between neighbours. -/
inductive Clock : Text → Text × Text × Text → Prop
  | mk {h₁ h₂ m₁ m₂ s₁ s₂ : Char} (h : IsDigits [h₁, h₂, m₁, m₂, s₁, s₂]) :
      Clock [h₁, h₂, ':', m₁, m₂, ':', s₁, s₂] ([h₁, h₂], [m₁, m₂], [s₁, s₂])

/-- The **full form** `[+-]DDDThh:mm:ss[.fff]`. -/
inductive FullForm : Text → Writing → Prop
  | mk {sign clock tail hours minutes seconds fraction : Text} {isNegative : Bool}
      {d₁ d₂ d₃ : Char} (hsign : Sign sign isNegative) (hdays : IsDigits [d₁, d₂, d₃])
      (hclock : Clock clock (hours, minutes, seconds)) (htail : Fraction tail fraction) :
      FullForm (sign ++ d₁ :: d₂ :: d₃ :: 'T' :: (clock ++ tail))
        ⟨isNegative, [d₁, d₂, d₃], hours, minutes, seconds, [], fraction⟩

/-- The **simple form** `[+-]hh:mm:ss[.fff]` or `[+-]S[.fff]`. -/
inductive SimpleForm : Text → Writing → Prop
  | clock {sign clock tail hours minutes seconds fraction : Text} {isNegative : Bool}
      (hsign : Sign sign isNegative) (hclock : Clock clock (hours, minutes, seconds))
      (htail : Fraction tail fraction) :
      SimpleForm (sign ++ (clock ++ tail))
        ⟨isNegative, [], hours, minutes, seconds, [], fraction⟩
  | count {sign total tail fraction : Text} {isNegative : Bool} (hsign : Sign sign isNegative)
      (hne : total ≠ []) (htotal : IsDigits total) (htail : Fraction tail fraction) :
      SimpleForm (sign ++ (total ++ tail)) ⟨isNegative, [], [], [], [], total, fraction⟩

/-! ## Reading the parts -/

/-- Some characters are decimal digits when each of them is. -/
theorem all_isDecimalDigit_iff {t : Text} : t.all isDecimalDigit = true ↔ IsDigits t :=
  List.all_eq_true

/-- A sign is taken off **in front of a digit**. -/
theorem Sign.splitSign_eq {sign : Text} {isNegative : Bool} (h : Sign sign isNegative) {c : Char}
    (hc : isDecimalDigit c = true) (rest : Text) :
    splitSign (sign ++ c :: rest) = (isNegative, c :: rest) := by
  cases h with
  | absent =>
      have hminus : c ≠ '-' := by
        rintro rfl
        exact absurd hc (by decide)
      have hplus : c ≠ '+' := by
        rintro rfl
        exact absurd hc (by decide)
      rw [List.nil_append, splitSign]
      · intro _ h
        exact hminus (List.cons.inj h).1
      · intro _ h
        exact hplus (List.cons.inj h).1
  | plus => rfl
  | minus => rfl

/-- What is taken off **is a sign**. -/
theorem sign_of_splitSign {t rest : Text} {isNegative : Bool}
    (h : splitSign t = (isNegative, rest)) : ∃ sign, Sign sign isNegative ∧ t = sign ++ rest := by
  unfold splitSign at h
  split at h
  · cases h
    exact ⟨['-'], .minus, rfl⟩
  · cases h
    exact ⟨['+'], .plus, rfl⟩
  · cases h
    exact ⟨[], .absent, rfl⟩

/-- **A fraction is read** as its digits. -/
theorem fraction?_eq_some_iff {tail fraction : Text} :
    fraction? tail = some fraction ↔ Fraction tail fraction := by
  constructor
  · intro h
    unfold fraction? at h
    split at h
    · cases h
      exact .absent
    · split at h
      · rename_i hdigits
        cases h
        exact .digits hdigits.1 (all_isDecimalDigit_iff.1 hdigits.2)
      · cases h
    · cases h
  · intro h
    cases h with
    | absent => rfl
    | digits hne h => rw [fraction?, if_pos ⟨hne, all_isDecimalDigit_iff.2 h⟩]

/-- A clock is read as its pairs, **whatever stands behind it**. -/
theorem Clock.clock?_append {clock : Text} {pairs : Text × Text × Text} (h : Clock clock pairs)
    (rest : Text) : clock? (clock ++ rest) = some (pairs, rest) := by
  cases h with
  | mk h => exact if_pos (all_isDecimalDigit_iff.2 h)

/-- **A clock is read** as its pairs, with what stands behind it. -/
theorem clock?_eq_some_iff {t rest : Text} {pairs : Text × Text × Text} :
    clock? t = some (pairs, rest) ↔ ∃ clock, Clock clock pairs ∧ t = clock ++ rest := by
  constructor
  · intro h
    rw [clock?.eq_def] at h
    split at h
    · split at h
      · rename_i hdigits
        cases h
        exact ⟨_, .mk (all_isDecimalDigit_iff.1 hdigits), rfl⟩
      · cases h
    · cases h
  · rintro ⟨clock, hclock, rfl⟩
    exact hclock.clock?_append rest

/-- A clock begins with a digit. -/
theorem Clock.exists_cons {clock : Text} {pairs : Text × Text × Text} (h : Clock clock pairs) :
    ∃ c t, clock = c :: t ∧ isDecimalDigit c = true := by
  cases h with
  | mk h => exact ⟨_, _, rfl, h _ List.mem_cons_self⟩

/-- A clock has a colon. -/
theorem Clock.mem_colon {clock : Text} {pairs : Text × Text × Text} (h : Clock clock pairs) :
    ':' ∈ clock := by
  cases h
  simp

/-- No digit is a colon. -/
theorem IsDigits.notMem_colon {t : Text} (h : IsDigits t) : ':' ∉ t := fun hmem =>
  absurd (h ':' hmem) (by decide)

/-- A fraction has no colon. -/
theorem Fraction.notMem_colon {tail fraction : Text} (h : Fraction tail fraction) : ':' ∉ tail := by
  cases h with
  | absent => exact List.not_mem_nil
  | digits _ h => exact List.not_mem_cons_of_ne_of_not_mem (by decide) h.notMem_colon

/-- A text **ends a run of digits** in front of it when it does not begin with a digit itself. -/
def EndsDigits (t : Text) : Prop := ∀ c ∈ t.head?, isDecimalDigit c = false

theorem endsDigits_cons {c : Char} (hc : isDecimalDigit c = false) (t : Text) :
    EndsDigits (c :: t) := by
  simp [EndsDigits, hc]

/-- A fraction ends the digits in front of it. -/
theorem Fraction.endsDigits {tail fraction : Text} (h : Fraction tail fraction) :
    EndsDigits tail := by
  cases h with
  | absent => simp [EndsDigits]
  | digits => exact endsDigits_cons (by decide) _

/-- Digits are **taken off as a whole** in front of what ends them. -/
theorem IsDigits.takeWhile_append {digits rest : Text} (h : IsDigits digits)
    (hrest : EndsDigits rest) :
    (digits ++ rest).takeWhile isDecimalDigit = digits ∧
      (digits ++ rest).dropWhile isDecimalDigit = rest := by
  rw [List.takeWhile_append_of_pos h, List.dropWhile_append_of_pos h]
  cases rest with
  | nil => simp
  | cons c rest => simp [hrest c rfl]

/-! ## Reading the forms -/

/-- A text is taken apart by the full form **exactly when it has it**. -/
theorem full?_eq_some_iff {t : Text} {w : Writing} : full? t = some w ↔ FullForm t w := by
  constructor
  · intro h
    rw [full?] at h
    split at h
    · rename_i isNegative d₁ d₂ d₃ body hsplit
      obtain ⟨sign, hsign, rfl⟩ := sign_of_splitSign hsplit
      split at h
      · rename_i hdays
        obtain ⟨⟨⟨hours, minutes, seconds⟩, tail⟩, hread, hrest⟩ := Option.bind_eq_some_iff.1 h
        obtain ⟨fraction, htail, hw⟩ := Option.bind_eq_some_iff.1 hrest
        obtain ⟨clock, hclock, hbody⟩ := clock?_eq_some_iff.1 hread
        rw [← Option.some.inj hw, hbody]
        exact .mk hsign (all_isDecimalDigit_iff.1 hdays) hclock (fraction?_eq_some_iff.1 htail)
      · cases h
    · cases h
  · intro h
    cases h with
    | mk hsign hdays hclock htail =>
        rw [full?, hsign.splitSign_eq (hdays _ List.mem_cons_self)]
        simp only [if_pos (all_isDecimalDigit_iff.2 hdays), hclock.clock?_append,
          fraction?_eq_some_iff.2 htail, Option.bind_eq_bind, Option.bind_some,
          Option.pure_def]

/-- A text is taken apart by the simple form **exactly when it has it**. -/
theorem simple?_eq_some_iff {t : Text} {w : Writing} : simple? t = some w ↔ SimpleForm t w := by
  constructor
  · intro h
    rw [simple?] at h
    split at h
    rename_i isNegative body hsplit
    obtain ⟨sign, hsign, rfl⟩ := sign_of_splitSign hsplit
    split at h
    · rename_i hours minutes seconds tail hread
      obtain ⟨fraction, htail, rfl⟩ := Option.map_eq_some_iff.1 h
      obtain ⟨clock, hclock, hbody⟩ := clock?_eq_some_iff.1 hread
      rw [hbody]
      exact .clock hsign hclock (fraction?_eq_some_iff.1 htail)
    · split at h
      · cases h
      · rename_i hne
        obtain ⟨fraction, htail, rfl⟩ := Option.map_eq_some_iff.1 h
        have hform := SimpleForm.count hsign hne (all_isDecimalDigit_iff.1 List.all_takeWhile)
          (fraction?_eq_some_iff.1 htail)
        rwa [List.takeWhile_append_dropWhile] at hform
  · intro h
    cases h with
    | @clock sign clock tail hours minutes seconds fraction isNegative hsign hclock htail =>
        obtain ⟨c, rest, hcons, hc⟩ := hclock.exists_cons
        have hread := hclock.clock?_append tail
        rw [hcons, List.cons_append] at hread ⊢
        rw [simple?, hsign.splitSign_eq hc]
        simp only [hread, fraction?_eq_some_iff.2 htail, Option.map_some]
    | @count sign total tail fraction isNegative hsign hne htotal htail =>
        obtain ⟨htake, hdrop⟩ := htotal.takeWhile_append htail.endsDigits
        -- a clock has a colon, and there is none among digits or in a fraction
        have hclock : clock? (total ++ tail) = none := by
          rw [Option.eq_none_iff_forall_ne_some]
          rintro ⟨pairs, rest⟩ hread
          obtain ⟨clock, hclock, heq⟩ := clock?_eq_some_iff.1 hread
          have hcolon : ':' ∈ total ++ tail := by
            rw [heq]
            exact List.mem_append_left _ hclock.mem_colon
          exact (List.mem_append.1 hcolon).elim htotal.notMem_colon htail.notMem_colon
        obtain ⟨c, rest, hcons⟩ := List.exists_cons_of_ne_nil hne
        have hc : isDecimalDigit c = true := htotal c (hcons ▸ List.mem_cons_self)
        have hsplit : splitSign (sign ++ (total ++ tail)) = (isNegative, total ++ tail) := by
          rw [hcons, List.cons_append]
          exact hsign.splitSign_eq hc _
        rw [simple?, hsplit]
        simp only [hclock, htake, hdrop, if_neg hne, fraction?_eq_some_iff.2 htail, Option.map_some]

/-- A text **in either form**, with its pieces. -/
def Form (t : Text) (w : Writing) : Prop := FullForm t w ∨ SimpleForm t w

/-- **A text is taken apart into its pieces** when it has one of the forms. -/
theorem form_iff {t : Text} {w : Writing} : Form t w ↔ (full? t).or (simple? t) = some w := by
  rw [Form, ← full?_eq_some_iff, ← simple?_eq_some_iff, Option.or_eq_some_iff]
  constructor
  · rintro (hfull | hsimple)
    · exact .inl hfull
    · -- no text has both forms
      refine .inr ⟨?_, hsimple⟩
      cases hfull : full? t with
      | none => rfl
      | some v =>
          rw [simple?_eq_none_of_full? hfull] at hsimple
          cases hsimple
  · rintro (hfull | ⟨-, hsimple⟩)
    · exact .inl hfull
    · exact .inr hsimple

/-- A text has its form **in one way** only. -/
theorem Form.unique {t : Text} {v w : Writing} (hv : Form t v) (hw : Form t w) : v = w :=
  Option.some.inj ((form_iff.1 hv).symm.trans (form_iff.1 hw))

/-- A text in one of the forms **is read by its pieces**; when they denote no duration, a number is out
of range. -/
theorem Form.parse_eq {t : Text} {w : Writing} (h : Form t w) :
    parse t = w.duration?.elim (.error (.outOfRange t)) .ok := by
  rw [parse, Option.orElse_eq_orElse, Option.orElse_eq_or, form_iff.1 h]
  cases hd : w.duration? with
  | none => simp only [hd, Option.elim_none]
  | some d => simp only [hd, Option.elim_some]

/-- A text is **malformed** exactly when it has neither form. -/
theorem parse_eq_malformed_iff {t : Text} :
    parse t = .error (.malformed t) ↔ ∀ w, ¬ Form t w := by
  constructor
  · intro h w hw
    rw [hw.parse_eq] at h
    cases hd : w.duration? <;> simp [hd] at h
  · intro h
    have hnone : (full? t).or (simple? t) = none :=
      Option.eq_none_iff_forall_ne_some.2 fun w hw => h w (form_iff.2 hw)
    rw [parse, Option.orElse_eq_orElse, Option.orElse_eq_or, hnone]

/-- The pairs of a clock consist of digits. -/
theorem Clock.isDigits {clock hours minutes seconds : Text}
    (h : Clock clock (hours, minutes, seconds)) : IsDigits (hours ++ minutes ++ seconds) := by
  cases h with
  | mk h => exact h

/-- So does a fraction behind its point. -/
theorem Fraction.isDigits {tail fraction : Text} (h : Fraction tail fraction) :
    IsDigits fraction := by
  cases h with
  | absent => exact List.forall_mem_nil _
  | digits _ h => exact h

/-- The **digits of a written duration** in front of its fraction. -/
def Writing.wholeDigits (w : Writing) : Text := w.days ++ w.hours ++ w.minutes ++ w.seconds ++ w.total

/-- **The pieces of a form consist of digits**, and there are no seconds beside a bare count. -/
theorem Form.isDigits {t : Text} {w : Writing} (h : Form t w) :
    IsDigits w.wholeDigits ∧ IsDigits w.fraction ∧ (w.seconds = [] ∨ w.total = []) := by
  rcases h with ⟨-, hdays, hclock, htail⟩ | ⟨-, hclock, htail⟩ | ⟨-, -, htotal, htail⟩
  · refine ⟨?_, htail.isDigits, .inr rfl⟩
    have hboth := List.forall_mem_append.2 ⟨hdays, hclock.isDigits⟩
    simpa only [Writing.wholeDigits, IsDigits, List.append_assoc, List.append_nil] using hboth
  · refine ⟨?_, htail.isDigits, .inr rfl⟩
    simpa only [Writing.wholeDigits, List.nil_append, List.append_nil] using hclock.isDigits
  · exact ⟨htotal, htail.isDigits, .inl rfl⟩

end Duration

end SequenceBridge
