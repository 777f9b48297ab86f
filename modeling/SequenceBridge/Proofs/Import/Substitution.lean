import SequenceBridge.Proofs.Import.Steps
import SequenceBridge.Text.Blank

/-! # Taking over position by position
FPrime text is taken over line by line, and each line up to its comment. The same text comes out of
one pass over all characters that only remembers whether a comment has begun on the line, and so every
character is replaced by itself, seen with the next one and what stands before it on its line.

* **`Text.InComment`** — a comment marker stands before a position on the same line.
* **`Text.importedChar`** — what becomes of the character at a position.
* **`importScan`** — the single pass; **`importText_eq_importScan`** says that it agrees.
* **`importText_by_position`** — the text that comes out, position by position and line by line.
-/

namespace SequenceBridge

/-! ## The rule for a position -/

/-- A position is **in a comment** when a comment marker stands before it on the same line. -/
def Text.InComment (t : Text) (i : Nat) : Prop :=
  ∃ j < i, t[j]? = some ';' ∧ ∀ k < i, j < k → t[k]? ≠ some '\n'

instance (t : Text) (i : Nat) : Decidable (t.InComment i) :=
  inferInstanceAs (Decidable (∃ j < i, t[j]? = some ';' ∧ ∀ k < i, j < k → t[k]? ≠ some '\n'))

/-- **What becomes of a character** at a position of a text. In a comment it stays. Elsewhere a comment
marker, a comma, and a period directly before an ASCII letter have their counterparts, and any other
character stays. -/
def Text.importedChar (t : Text) (i : Nat) (c : Char) : Char :=
  if t.InComment i then c
  else if c = ';' then '#'
  else if c = ',' then ' '
  else if c = '.' ∧ t[i + 1]?.any isAsciiLetter = true then '_'
  else c

namespace Text

/-- Nothing stands before the first position. -/
theorem not_inComment_zero (t : Text) : ¬ t.InComment 0 := by
  rintro ⟨j, hj, -⟩
  exact Nat.not_lt_zero j hj

/-- Behind a character, a comment is open when the character is a marker, or one was open before it;
a newline closes it. -/
theorem inComment_succ_iff {t : Text} {i : Nat} {c : Char} (hc : t[i]? = some c) :
    t.InComment (i + 1) ↔ c ≠ '\n' ∧ (t.InComment i ∨ c = ';') := by
  constructor
  · rintro ⟨j, hj, hmarker, hline⟩
    rcases Nat.lt_succ_iff_lt_or_eq.1 hj with hj | rfl
    · -- the marker stands before the character, which then is no newline
      have hnewline : c ≠ '\n' := by
        rintro rfl
        exact hline i (Nat.lt_succ_self i) hj hc
      exact ⟨hnewline, .inl ⟨j, hj, hmarker, fun k hk => hline k (Nat.lt_succ_of_lt hk)⟩⟩
    · -- the character is the marker
      obtain rfl : c = ';' := Option.some.inj (hc.symm.trans hmarker)
      exact ⟨by decide, .inr rfl⟩
  · rintro ⟨hnewline, ⟨j, hj, hmarker, hline⟩ | rfl⟩
    · refine ⟨j, Nat.lt_succ_of_lt hj, hmarker, fun k hk hjk => ?_⟩
      rcases Nat.lt_succ_iff_lt_or_eq.1 hk with hk | rfl
      · exact hline k hk hjk
      · rw [hc]
        exact fun h => hnewline (Option.some.inj h)
    · exact ⟨i, Nat.lt_succ_self i, hc, fun k hk hik => absurd hk (Nat.not_lt.2 hik)⟩

end Text

/-! ## A single pass -/

/-- Whether a comment is open behind a character, given whether one was open before it. -/
def commentAfter (inComment : Bool) (c : Char) : Bool := c ≠ '\n' && (inComment || c = ';')

/-- What becomes of a character, given whether a comment is open and the character after it. -/
def importStep (inComment : Bool) (c : Char) (next : Option Char) : Char :=
  if inComment then c else if c = ';' then '#' else importChar c next

/-- FPrime text taken over **in a single pass** that remembers whether a comment is open. -/
def importScan : Bool → Text → Text
  | _, [] => []
  | inComment, c :: rest =>
    importStep inComment c rest.head? :: importScan (commentAfter inComment c) rest

/-- A newline as the next character is as good as none: neither is a letter. -/
theorem importChar_filter (c : Char) (next : Option Char) :
    importChar c (next.filter (· ≠ '\n')) = importChar c next := by
  cases next with
  | none => rfl
  | some d =>
      by_cases hd : d = '\n'
      · subst hd
        rfl
      · rw [Option.filter_some, if_pos (decide_eq_true hd)]

/-- A newline stays, wherever it stands. -/
theorem importStep_newline (inComment : Bool) (next : Option Char) :
    importStep inComment '\n' next = '\n' := by
  cases inComment <;> rfl

/-- The pass goes **through the lines**: the rest of an open comment stays, every line behind it is
taken over by itself. -/
theorem importScan_of_lines {t l : Text} {ls : List Text} (h : t.lines = l :: ls)
    (inComment : Bool) :
    importScan inComment t =
      Text.unlines ((if inComment then l else importLine l) :: ls.map importLine) := by
  induction t generalizing l ls inComment with
  | nil =>
      obtain ⟨rfl, rfl⟩ := List.cons.inj h
      cases inComment <;> rfl
  | cons c t ih =>
      obtain ⟨m, ms, hm⟩ := List.exists_cons_of_ne_nil (Text.lines_ne_nil t)
      by_cases hc : c = '\n'
      · -- the newline ends an empty rest of a line, and any comment
        subst hc
        rw [Text.lines_newline, hm] at h
        obtain ⟨rfl, rfl⟩ := List.cons.inj h
        rw [importScan, importStep_newline, commentAfter, ih hm]
        cases inComment <;> rfl
      · rw [Text.lines_cons hc, hm, Text.consFirst_cons] at h
        obtain ⟨rfl, rfl⟩ := List.cons.inj h
        have hafter : commentAfter inComment c = (inComment || decide (c = ';')) := by
          rw [commentAfter, decide_eq_true hc, Bool.true_and]
        rw [importScan, hafter, ih hm]
        cases inComment with
        | true => exact (Text.unlines_cons_head c m _).symm
        | false =>
            by_cases hmarker : c = ';'
            · subst hmarker
              exact (Text.unlines_cons_head '#' m _).symm
            · -- the next character on the line decides, and it is the next one of the text
              have hnext : importStep false c t.head? = importChar c m.head? := by
                rw [Text.head?_of_lines hm, importChar_filter, importStep,
                  if_neg Bool.false_ne_true, if_neg hmarker]
              rw [hnext, decide_eq_false hmarker, Bool.or_false, if_neg Bool.false_ne_true,
                if_neg Bool.false_ne_true, importLine_cons hmarker, Text.unlines_cons_head]

/-- **The single pass agrees** with taking over line by line. -/
theorem importText_eq_importScan (t : Text) : importText t = importScan false t := by
  obtain ⟨l, ls, h⟩ := List.exists_cons_of_ne_nil (Text.lines_ne_nil t)
  rw [importText, h, importScan_of_lines h, if_neg Bool.false_ne_true, List.map_cons]

/-! ## Position by position -/

/-- Behind a position, the pass remembers whether the next one is in a comment. -/
theorem commentAfter_eq {t : Text} {i : Nat} {c : Char} (hc : t[i]? = some c) :
    commentAfter (decide (t.InComment i)) c = decide (t.InComment (i + 1)) := by
  rw [decide_eq_decide.2 (Text.inComment_succ_iff hc), commentAfter, Bool.decide_and,
    Bool.decide_or]

/-- At a position, the pass does what the rule says. -/
theorem importStep_eq (t : Text) (i : Nat) (c : Char) :
    importStep (decide (t.InComment i)) c t[i + 1]? = t.importedChar i c := by
  rw [importStep, Text.importedChar, importChar]
  simp only [decide_eq_true_eq]

/-- **One step of the pass**: the character at a position becomes what the rule says, and the pass goes
on behind it. -/
theorem importScan_drop {t : Text} {k : Nat} {c : Char} (hc : t[k]? = some c) :
    importScan (decide (t.InComment k)) (t.drop k) =
      t.importedChar k c :: importScan (decide (t.InComment (k + 1))) (t.drop (k + 1)) := by
  rw [List.drop_eq_getElem?_toList_append, hc, Option.toList_some, List.singleton_append, importScan,
    List.head?_drop, importStep_eq, commentAfter_eq hc]

/-- **The pass from a position on**, when it remembers whether that position is in a comment. -/
theorem getElem?_importScan (t : Text) (i k : Nat) :
    (importScan (decide (t.InComment k)) (t.drop k))[i]? =
      t[k + i]?.map (t.importedChar (k + i)) := by
  induction i generalizing k with
  | zero =>
      rw [Nat.add_zero]
      cases hk : t[k]? with
      | none =>
          rw [List.drop_eq_nil_of_le (List.getElem?_eq_none_iff.1 hk)]
          rfl
      | some c => rw [importScan_drop hk, List.getElem?_cons_zero, Option.map_some]
  | succ i ih =>
      cases hk : t[k]? with
      | none =>
          have hlength := List.getElem?_eq_none_iff.1 hk
          rw [List.drop_eq_nil_of_le hlength,
            List.getElem?_eq_none (show t.length ≤ k + (i + 1) by omega)]
          rfl
      | some c =>
          rw [importScan_drop hk, List.getElem?_cons_succ, ih, Nat.add_right_comm, Nat.add_assoc]

/-- **Every character is replaced at its place**, by the rule for its position. -/
theorem getElem?_importText (t : Text) (i : Nat) :
    (importText t)[i]? = t[i]?.map (t.importedChar i) := by
  have hscan := getElem?_importScan t i 0
  rw [decide_eq_false t.not_inComment_zero, List.drop_zero, Nat.zero_add] at hscan
  rw [importText_eq_importScan, hscan]

/-- A text keeps its length. -/
theorem length_importText (t : Text) : (importText t).length = t.length := by
  have hnone : ∀ i, (importText t)[i]? = none ↔ t[i]? = none := fun i => by
    rw [getElem?_importText, Option.map_eq_none_iff]
  simp only [List.getElem?_eq_none_iff] at hnone
  exact Nat.le_antisymm ((hnone t.length).2 (Nat.le_refl _)) ((hnone _).1 (Nat.le_refl _))

/-- A newline comes from a newline only. -/
theorem importedChar_eq_newline_iff {t : Text} {i : Nat} {c : Char} :
    t.importedChar i c = '\n' ↔ c = '\n' := by
  constructor
  · intro h
    rw [Text.importedChar] at h
    split at h
    · exact h
    split at h
    · exact absurd h (by decide)
    split at h
    · exact absurd h (by decide)
    split at h
    · exact absurd h (by decide)
    · exact h
  · rintro rfl
    simp [Text.importedChar]

/-- **Newlines stay where they are.** -/
theorem getElem?_importText_eq_newline_iff (t : Text) (i : Nat) :
    (importText t)[i]? = some '\n' ↔ t[i]? = some '\n' := by
  rw [getElem?_importText, Option.map_eq_some_iff]
  constructor
  · rintro ⟨c, hc, hnewline⟩
    rw [hc, importedChar_eq_newline_iff.1 hnewline]
  · intro hc
    exact ⟨'\n', hc, importedChar_eq_newline_iff.2 rfl⟩

/-! ## Line by line -/

/-- A text without newlines has none when it was taken over. -/
theorem newline_notMem_importText {t : Text} (h : '\n' ∉ t) : '\n' ∉ importText t := by
  intro hmem
  obtain ⟨i, hi⟩ := List.mem_iff_getElem?.1 hmem
  exact h (List.mem_of_getElem? ((getElem?_importText_eq_newline_iff t i).1 hi))

/-- A single line is taken over as a text. -/
theorem importText_of_notMem {l : Text} (h : '\n' ∉ l) : importText l = importLine l := by
  rw [importText, Text.lines_of_notMem h, List.map_singleton, Text.unlines_singleton]

/-- **The lines that come out** are the lines that went in, each taken over by itself. -/
theorem lines_importText (t : Text) : (importText t).lines = t.lines.map importText := by
  have hline : t.lines.map importLine = t.lines.map importText :=
    List.map_congr_left fun l hl =>
      (importText_of_notMem (Text.newline_notMem_of_mem_lines hl)).symm
  have hnewline : ∀ l ∈ t.lines.map importText, '\n' ∉ l :=
    List.forall_mem_map.2 fun l hl =>
      newline_notMem_importText (Text.newline_notMem_of_mem_lines hl)
  have hne : t.lines.map importText ≠ [] := fun h => Text.lines_ne_nil t (List.map_eq_nil_iff.1 h)
  rw [importText, hline, Text.lines_unlines hne hnewline]

/-- **A newline parts what is taken over**: what stands behind it does not depend on what stands
before it. -/
theorem importText_append (a b : Text) :
    importText (a ++ '\n' :: b) = importText a ++ '\n' :: importText b := by
  have hne : ∀ t : Text, t.lines.map importLine ≠ [] := fun t h =>
    Text.lines_ne_nil t (List.map_eq_nil_iff.1 h)
  rw [importText, Text.lines_append, List.map_append, Text.unlines_append (hne a) (hne b)]
  rfl

/-- No mark is blank, so a blank line is plain. -/
theorem isPlain_of_isBlank {l : Text} (hblank : l.isBlank = true) (h : '\n' ∉ l) : l.IsPlain := by
  have hall : ∀ c ∈ l, isBlank c = true := List.all_eq_true.1 hblank
  refine ⟨⟨h, fun hc => absurd (hall _ hc) (by decide), ?_⟩,
    fun hc => absurd (hall _ hc) (by decide)⟩
  refine List.Pairwise.isChain (List.pairwise_of_forall_mem_list fun a ha b _ hab => ?_)
  exact absurd (hab.1 ▸ hall a ha) (by decide)

/-- **A blank line stays** as it is. -/
theorem importText_of_isBlank {l : Text} (hblank : l.isBlank = true) (h : '\n' ∉ l) :
    importText l = l := by
  rw [importText_of_notMem h, importLine_of_isPlain (isPlain_of_isBlank hblank h)]

/-- Only the empty text is taken over as the empty text. -/
theorem importText_eq_nil_iff {t : Text} : importText t = [] ↔ t = [] := by
  rw [← List.length_eq_zero_iff, length_importText, List.length_eq_zero_iff]

/-- A text is taken over by the **steps for each of its lines**. -/
theorem importText_eq_importLineInSteps (t : Text) :
    importText t = Text.unlines (t.lines.map importLineInSteps) := by
  rw [importText, funext importLine_eq_importLineInSteps]

/-- **Taking over is a substitution by position.** What comes out of the steps for each line is a text of
the same length, in which the character at each position is replaced by the rule for that position. So
newlines stay where they are; the lines are taken over one by one, as many as there were and in their
order; a blank line stays, and no other line becomes empty; and a newline parts what is taken over before
and behind it. -/
theorem importText_by_position (t : Text) :
    importText t = Text.unlines (t.lines.map importLineInSteps) ∧
      (importText t).length = t.length ∧
      (∀ i : Nat, (importText t)[i]? = t[i]?.map (t.importedChar i)) ∧
      (∀ i : Nat, (importText t)[i]? = some '\n' ↔ t[i]? = some '\n') ∧
      (importText t).lines = t.lines.map importText ∧
      (∀ (i : Nat) (l : Text), t.lines[i]? = some l → l.isBlank = true →
        (importText t).lines[i]? = some l) ∧
      (∀ i : Nat, (importText t).lines[i]? = some [] ↔ t.lines[i]? = some []) ∧
      ∀ a b : Text, importText (a ++ '\n' :: b) = importText a ++ '\n' :: importText b := by
  have hline : ∀ i : Nat, (importText t).lines[i]? = t.lines[i]?.map importText := fun i => by
    rw [lines_importText, List.getElem?_map]
  refine ⟨importText_eq_importLineInSteps t, length_importText t, getElem?_importText t,
    getElem?_importText_eq_newline_iff t, lines_importText t, fun i l hl hblank => ?_, fun i => ?_,
    importText_append⟩
  · have hnewline := Text.newline_notMem_of_mem_lines (List.mem_of_getElem? hl)
    rw [hline, hl, Option.map_some, importText_of_isBlank hblank hnewline]
  · rw [hline, Option.map_eq_some_iff]
    constructor
    · rintro ⟨l, hl, hnil⟩
      rw [hl, importText_eq_nil_iff.1 hnil]
    · intro hl
      exact ⟨[], hl, importText_eq_nil_iff.2 rfl⟩

/-- A blank line between two lines that change. The first has periods in a row and two markers, the
second a letter that is not ASCII. -/
def blankBetween : Text := "R1 a.b,..c;x,y.z;\n \t\nd.é,e.".toList

/-- The blank line stays, and the others change up to their comments. -/
theorem importText_by_position_blankBetween :
    importText blankBetween = "R1 a_b ._c#x,y.z;\n \t\nd.é e.".toList ∧
      blankBetween.lines[1]? = some [' ', '\t'] ∧
      (importText blankBetween).lines[1]? = some [' ', '\t'] := by
  have hline : blankBetween.lines[1]? = some [' ', '\t'] := by decide +kernel
  exact ⟨by decide +kernel, hline,
    (importText_by_position blankBetween).2.2.2.2.2.1 1 [' ', '\t'] hline (by decide)⟩

end SequenceBridge
