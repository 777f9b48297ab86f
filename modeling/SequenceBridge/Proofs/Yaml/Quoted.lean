import SequenceBridge.Proofs.Json.Tokens
import SequenceBridge.Yaml.Scalar

/-! # Strings of JSON as scalars of YAML
A string of JSON is a double-quoted scalar of YAML, escape by escape. It is read as the text that
was written as long as YAML takes each of its characters as it stands: controls come as escapes, but
some characters beyond ASCII are no part of any YAML text, or are line breaks there.

* **`Yaml.isCarried`** — the characters that come through.
* **`Yaml.Place.behind`** — the place behind a text without line breaks.
* **`Yaml.doubleFrom_quoteChar`** — one character between quotes.
* **`Yaml.doubleQuoted?_quote`** — a string.
-/

namespace SequenceBridge.Yaml

/-- The characters that come through YAML **as JSON writes them**: controls, which are escaped, and
characters that a YAML text may hold and that break no line. -/
def isCarried (c : Char) : Bool := c.toNat < 0x20 || (isAllowed c && c ≠ '\x85' && !isBreak c)

/-- ASCII comes through, except for the delete character. -/
theorem isCarried_of_ascii {c : Char} (h : c.toNat < 0x7F) : isCarried c = true := by
  by_cases hcontrol : c.toNat < 0x20
  · rw [isCarried, decide_eq_true hcontrol, Bool.true_or]
  have hallowed : isAllowed c = true := by
    have hprinted : (decide (0x20 ≤ c.toNat) && decide (c.toNat ≤ 0x7E)) = true := by
      rw [Bool.and_eq_true, decide_eq_true_eq, decide_eq_true_eq]
      omega
    simp only [isAllowed, hprinted, Bool.or_true, Bool.true_or]
  have hne : ∀ d : Char, 0x7F ≤ d.toNat → c ≠ d := by
    rintro d hd rfl
    omega
  have hbreak : isBreak c = false := by
    have hnewline : c ≠ '\n' := by
      rintro rfl
      exact hcontrol (by decide)
    simp only [isBreak, hnewline, hne '\u2028' (by decide), hne '\u2029' (by decide), decide_false,
      Bool.or_false]
  simp only [isCarried, hallowed, hbreak, hne '\x85' (by decide), decide_true, ne_eq,
    not_false_eq_true, Bool.not_false, Bool.and_true, Bool.or_true]

/-! ## Places -/

namespace Place

/-- The place **behind a text** without line breaks. -/
def behind (p : Place) (t : Text) : Place := p.along t.length

@[simp] theorem behind_behind (p : Place) (s t : Text) :
    (p.behind s).behind t = p.behind (s ++ t) := by
  simp only [behind, along, List.length_append, Nat.add_assoc]

@[simp] theorem line_behind (p : Place) (t : Text) : (p.behind t).line = p.line := rfl

@[simp] theorem index_behind (p : Place) (t : Text) : (p.behind t).index = p.index + t.length := rfl

theorem after_eq_behind (p : Place) {c : Char} (h : isBreak c = false) :
    p.after c = p.behind [c] := by
  rw [after, if_neg (Bool.eq_false_iff.1 h)]
  rfl

end Place

/-! ## Double quotes -/

theorem Pending.text_of_not_isBroken {g : Pending} (h : g.isBroken = false) :
    g.text = g.spaces := by
  rw [text, h]
  rfl

/-- Behind the opening quote there is no mark of a document. -/
theorem isMarked_of_column_pos (t : Text) {p : Place} (h : 0 < p.column) :
    isMarked t p = false := by
  rw [isMarked, decide_eq_false (Nat.ne_of_gt h), Bool.false_and]

/-- A character between quotes that is no blank is read **as the character it was**. -/
theorem doubleFrom_quoteChar {c : Char} (hcarried : isCarried c = true) (hspace : c ≠ ' ')
    (g : Pending) (t : Text) {p : Place} (hp : 0 < p.column) :
    doubleFrom g (Json.quoteChar c ++ t) p =
      ScalarReading.cons (g.text ++ [c]) (doubleFrom {} t (p.behind (Json.quoteChar c))) := by
  by_cases hletter : c ∈ ['\x22', '\\', '\x08', '\t', '\n', '\x0c', '\r']
  · -- the escapes of one letter
    simp only [List.mem_cons, List.not_mem_nil, or_false] at hletter
    rcases hletter with rfl | rfl | rfl | rfl | rfl | rfl | rfl <;> rfl
  simp only [List.mem_cons, List.not_mem_nil, or_false, not_or] at hletter
  obtain ⟨h1, h2, h3, h4, h5, h6, h7⟩ := hletter
  rw [Json.quoteChar, if_neg h1, if_neg h2, if_neg h3, if_neg h4, if_neg h5, if_neg h6, if_neg h7]
  by_cases h8 : c.toNat < 0x20
  · -- the escapes of four digits
    obtain ⟨hlength, hvalue⟩ := Token.valueIn?_fourDigits c.toNat h8
    obtain ⟨a, b, d, e, hdigits⟩ := List.length_eq_four.1 hlength
    have hvalid : c.toNat.isValidChar := c.valid
    have hchar : hexChar? [a, b, d, e] = some c := by
      rw [← hdigits, hexChar?, hvalue, Option.bind_some, if_pos hvalid, Char.ofNat_toNat]
    rw [if_pos h8, hdigits]
    simp only [List.cons_append, List.nil_append]
    rw [doubleFrom, hchar]
    rfl
  · -- the character itself
    rw [isCarried, decide_eq_false h8, Bool.false_or, Bool.and_eq_true,
      Bool.not_eq_true'] at hcarried
    have hspacing : isSpacing c = false := by
      simp only [isSpacing, hspace, h4, decide_false, Bool.or_false]
    rw [if_neg h8, List.singleton_append, doubleFrom]
    · simp only [hcarried.2, hspacing, isMarked_of_column_pos _ hp, h2, decide_false, Bool.or_false,
        Bool.false_eq_true, if_false, Place.after_eq_behind p hcarried.2]
    · exact fun h => h1 h
    · exact fun _ _ _ h => absurd h h2
    · exact fun _ _ _ _ _ h => absurd h h2
    · exact fun _ _ _ _ _ _ _ _ _ h => absurd h h2
    · exact fun _ _ h => absurd h h2

/-- A blank between quotes waits for what follows it. -/
theorem doubleFrom_space {g : Pending} (hg : g.isBroken = false) (t : Text) (p : Place) :
    doubleFrom g (Json.quoteChar ' ' ++ t) p =
      doubleFrom { g with spaces := g.spaces ++ [' '] } t (p.behind (Json.quoteChar ' ')) := by
  obtain ⟨spaces, breaks, isBroken, isEscaped⟩ := g
  cases hg
  rfl

/-- The **characters between the quotes** of a string are read up to the closing quote, as the text
that they were, behind the blanks in front of them. -/
theorem doubleFrom_flatMap_quoteChar {t : Text} (ht : t.all isCarried = true) (rest : Text)
    {g : Pending} (hg : g.isBroken = false) {p : Place} (hp : 0 < p.column) :
    doubleFrom g (t.flatMap Json.quoteChar ++ '\x22' :: rest) p =
      some (g.spaces ++ t, ⟨rest, p.behind (t.flatMap Json.quoteChar ++ ['\x22']), false⟩) := by
  induction t generalizing g p with
  | nil =>
      rw [List.flatMap_nil, List.nil_append, doubleFrom, Pending.text_of_not_isBroken hg,
        List.append_nil]
      rfl
  | cons c t ih =>
      rw [List.all_cons, Bool.and_eq_true] at ht
      have hcolumn : 0 < (p.behind (Json.quoteChar c)).column := Nat.add_pos_left hp _
      rw [List.flatMap_cons, List.append_assoc]
      by_cases hspace : c = ' '
      · subst hspace
        have hmore : ({ g with spaces := g.spaces ++ [' '] } : Pending).isBroken = false := hg
        rw [doubleFrom_space hg, ih ht.2 hmore hcolumn, Place.behind_behind]
        simp only [List.append_assoc, List.singleton_append]
      · rw [doubleFrom_quoteChar ht.1 hspace g _ hp, ih ht.2 rfl hcolumn, Place.behind_behind,
          Pending.text_of_not_isBroken hg]
        simp only [ScalarReading.cons, Option.map_some, List.append_assoc, List.nil_append,
          List.singleton_append]

/-- A **string of JSON** is a double-quoted scalar with the text of the string. -/
theorem doubleQuoted?_quote {t : Text} (ht : t.all isCarried = true) (rest : Text) (p : Place)
    (allowed : Bool) :
    doubleQuoted? ⟨Json.quote t ++ rest, p, allowed⟩ =
      some (t, ⟨rest, p.behind (Json.quote t), false⟩) := by
  have hread := doubleFrom_flatMap_quoteChar ht rest (g := {}) rfl
    (p := p.behind ['\x22']) (Nat.succ_pos _)
  rw [Place.behind_behind] at hread
  rw [doubleQuoted?, Json.quote]
  simp only [Cursor.next, List.cons_append, List.append_assoc, List.nil_append,
    Place.after_eq_behind p (c := '\x22') rfl]
  exact hread

end SequenceBridge.Yaml
