import SequenceBridge.Environment.Settings
import SequenceBridge.Proofs.Text.Utf8

/-! # Variables of a settings file
A settings file adds variables to the environment, line by line. It never replaces one that is set to a
text. A value may refer to another variable behind a dollar sign; a file in which nothing refers to a
variable makes the same of all others, whatever that variable is set to.

* **`Environment.assign?_cases`** — the three ways in which an assignment can end.
* **`Environment.get?_load_of_isSome`** — a variable that is set to a text keeps its value.
* **`Environment.Apart`** — two environments that differ in one variable at most.
* **`Environment.Ahead`** — one of them has that variable set, which the other may get from the file.
* **`Environment.Ahead.load`** — a settings file that does not refer to the variable, and that sets it in
  the other, ends in the same way in both, and leaves them the same apart from it.
* **`IgnoresValueOf.of_not_mem`** — a line without a dollar sign refers to no variable.
-/

namespace SequenceBridge

/-! ## Lines that refer to no variable -/

/-- A line of a settings file **ignores the value** of a variable when it holds the same assignment
whatever that value is. -/
def IgnoresValueOf (name : Text) (line : Text) : Prop :=
  ∀ f g : Text → Text, (∀ n, n ≠ name → f n = g n) →
    Assignment.ofLine? f line = Assignment.ofLine? g line

/-- A value is read **outside the name** of a variable. -/
def ValueState.IsOutsideName : ValueState → Prop
  | .name .. | .braced .. => False
  | _ => True

theorem ValueState.isOutsideName_outside (inQuotes : Bool) :
    (ValueState.outside inQuotes).IsOutsideName := by
  cases inQuotes <;> simp [ValueState.outside, ValueState.IsOutsideName]

/-- Outside names, what a text without dollar signs stands for depends on no variable. -/
theorem valueFrom?_of_not_mem {f g : Text → Text} {s : ValueState} (hs : s.IsOutsideName) {t : Text}
    (ht : '$' ∉ t) : valueFrom? f s t = valueFrom? g s t := by
  induction t generalizing s with
  | nil =>
      cases s with
      | name => exact hs.elim
      | braced => exact hs.elim
      | escaped inQuotes => cases inQuotes <;> simp [valueFrom?]
      | _ => simp [valueFrom?]
  | cons c t ih =>
      obtain ⟨hc, ht⟩ : '$' ≠ c ∧ '$' ∉ t := by simpa using ht
      have hbare : valueFrom? f .bare t = valueFrom? g .bare t := ih trivial ht
      have hstrong : valueFrom? f .strong t = valueFrom? g .strong t := ih trivial ht
      have hweak : valueFrom? f .weak t = valueFrom? g .weak t := ih trivial ht
      have hended : valueFrom? f .ended t = valueFrom? g .ended t := ih trivial ht
      have hescaped (b : Bool) : valueFrom? f (.escaped b) t = valueFrom? g (.escaped b) t :=
        ih trivial ht
      cases s with
      | name => exact hs.elim
      | braced => exact hs.elim
      | escaped inQuotes =>
          simp [valueFrom?, ih (ValueState.isOutsideName_outside inQuotes) ht]
      | _ => simp [valueFrom?, Ne.symm hc, hbare, hstrong, hweak, hended, hescaped]

theorem assignedValue?_of_not_mem (f g : Text → Text) {t : Text} (ht : '$' ∉ t) :
    assignedValue? f t = assignedValue? g t := by
  have hfront : '$' ∉ t.trimFront := fun h => ht ((List.dropWhile_sublist _).subset h)
  unfold assignedValue?
  split
  · rfl
  · rename_i c t heq
    rw [heq] at hfront
    simp [valueFrom?_of_not_mem (f := f) (g := g) (s := .bare) trivial hfront]

/-- What follows a name is part of the text. -/
theorem mem_of_takeName? {t : Text} {found : Text × Text} (h : takeName? t = some found) {c : Char}
    (hc : c ∈ found.2) : c ∈ t := by
  cases t with
  | nil => cases h
  | cons d t =>
      rw [takeName?] at h
      split at h
      · cases h
        exact (List.dropWhile_sublist _).subset ((List.dropWhile_sublist _).subset hc)
      · cases h

/-- What is assigned to a name is part of the text. -/
theorem Assignment.mem_of_target? {t : Text} {target : Text × Text} (h : target? t = some target)
    {c : Char} (hc : c ∈ target.2) : c ∈ t := by
  rw [target?, Option.bind_eq_some_iff] at h
  obtain ⟨first, hfirst, h⟩ := h
  split at h
  · rename_i hbehind
    cases h
    exact mem_of_takeName? hfirst (hbehind ▸ List.mem_cons_of_mem _ hc)
  · -- the word in front of the name may only be `export`
    split at h
    · rw [Option.bind_eq_some_iff] at h
      obtain ⟨second, hsecond, h⟩ := h
      split at h
      · rename_i hbehind
        cases h
        exact mem_of_takeName? hfirst
          (mem_of_takeName? hsecond (hbehind ▸ List.mem_cons_of_mem _ hc))
      · exact nomatch h
    · exact nomatch h

/-- What is left of a line without the blanks at its ends is part of the line. -/
theorem mem_of_mem_trimmed {line : Text} {c : Char} (h : c ∈ Text.trimFront line.trimEnd) :
    c ∈ line := by
  have hend : c ∈ line.trimEnd := (List.dropWhile_sublist _).subset h
  rw [Text.trimEnd, List.mem_reverse] at hend
  exact List.mem_reverse.1 ((List.dropWhile_sublist _).subset hend)

/-- **A line without a dollar sign** ignores the value of every variable. -/
theorem IgnoresValueOf.of_not_mem {line : Text} (h : '$' ∉ line) (name : Text) :
    IgnoresValueOf name line := by
  intro f g _
  have htrim : '$' ∉ Text.trimFront line.trimEnd := fun hmem => h (mem_of_mem_trimmed hmem)
  unfold Assignment.ofLine?
  split
  · rfl
  · rename_i c t heq
    rw [heq] at htrim
    split
    · rfl
    · cases htarget : Assignment.target? (c :: t) with
      | none => rfl
      | some target =>
          have hbehind : '$' ∉ target.2 := fun hmem =>
            htrim (Assignment.mem_of_target? htarget hmem)
          simp [assignedValue?_of_not_mem f g hbehind]

namespace Environment

variable {env other : Environment} {name : Text}

@[simp] theorem text?_set_self (env : Environment) (name : Text) (v : Text) :
    (env.set name v.toBytes).text? name = some v := by
  simp [text?, Bytes.text?_toBytes]

/-! ## Assignments -/

/-- **What an assignment can do.** A variable that is set to a text keeps its value; otherwise a value with
a zero in it cannot be set, and any other is. -/
theorem assign?_cases (env : Environment) (a : Assignment) :
    (env.text? a.name).isSome ∧ env.assign? a = some env ∨
      env.text? a.name = none ∧ '\x00' ∈ a.value ∧ env.assign? a = none ∨
      env.text? a.name = none ∧ '\x00' ∉ a.value ∧
        env.assign? a = some (env.set a.name a.value.toBytes) := by
  unfold assign?
  by_cases hset : (env.text? a.name).isSome
  · exact .inl ⟨hset, if_pos hset⟩
  · have hunset : env.text? a.name = none := Option.not_isSome_iff_eq_none.1 hset
    rw [if_neg hset]
    by_cases hzero : '\x00' ∈ a.value
    · exact .inr (.inl ⟨hunset, hzero, if_pos hzero⟩)
    · exact .inr (.inr ⟨hunset, hzero, if_neg hzero⟩)

/-- **What cannot be assigned** is a value with a zero in it, to a variable that is not set to a text. -/
theorem assign?_eq_none_iff {a : Assignment} :
    env.assign? a = none ↔ env.text? a.name = none ∧ '\x00' ∈ a.value := by
  rcases env.assign?_cases a with ⟨hset, hsame⟩ | ⟨hunset, hzero, hnone⟩ | ⟨-, hno, hset⟩
  · rw [hsame]
    refine iff_of_false (Option.some_ne_none env) fun h => ?_
    rw [h.1] at hset
    cases hset
  · exact iff_of_true hnone ⟨hunset, hzero⟩
  · rw [hset]
    exact iff_of_false (Option.some_ne_none _) fun h => hno h.2

/-! ## A variable that is set -/

/-- An assignment leaves a variable alone that is **set to a text**. -/
theorem get?_assign?_of_isSome {a : Assignment} {next : Environment}
    (hnext : env.assign? a = some next) (h : (env.text? name).isSome) :
    next.get? name = env.get? name := by
  rcases env.assign?_cases a with ⟨-, hsame⟩ | ⟨-, -, hnone⟩ | ⟨hunset, -, hset⟩
  · rw [Option.some.inj (hnext.symm.trans hsame)]
  · exact nomatch hnext.symm.trans hnone
  · have hne : a.name ≠ name := by
      rintro rfl
      rw [hunset] at h
      cases h
    rw [Option.some.inj (hnext.symm.trans hset), get?_set, if_neg hne]

/-- The lines of a file leave a variable alone that is **set to a text**. -/
theorem get?_loadLines_of_isSome (assigned : List Assignment) (lines : List (Option Text))
    (h : (env.text? name).isSome) :
    (env.loadLines assigned lines).environment.get? name = env.get? name := by
  induction lines generalizing env assigned with
  | nil => rfl
  | cons line lines ih =>
      cases line with
      | none => rfl
      | some line =>
          rw [loadLines]
          split
          · rfl
          · exact ih assigned h
          · split
            · rfl
            · rename_i a _ _ next hnext
              have hsame := get?_assign?_of_isSome hnext h
              rw [ih (a :: assigned) (by rwa [text?, hsame]), hsame]

/-- **A settings file leaves a variable alone** that is set to a text. -/
theorem get?_load_of_isSome (file : Option Bytes) (h : (env.text? name).isSome) :
    (env.load file).environment.get? name = env.get? name := by
  cases file with
  | none => rfl
  | some content => exact get?_loadLines_of_isSome [] _ h

/-! ## All other variables -/

/-- Two environments are the same **apart from a variable** when every other one has the same value
in both. -/
def Apart (name : Text) (env other : Environment) : Prop :=
  ∀ n, n ≠ name → env.get? n = other.get? n

/-- Setting a variable changes no other. -/
theorem apart_set (name : Text) (env : Environment) (value : Bytes) :
    Apart name (env.set name value) env := by
  intro n hn
  simp [Ne.symm hn]

namespace Apart

theorem text?_eq (h : Apart name env other) {n : Text} (hn : n ≠ name) :
    env.text? n = other.text? n := by
  rw [text?, text?, h n hn]

/-- Names stand for the same in both environments, apart from the variable. -/
theorem lookup_eq (h : Apart name env other) (assigned : List Assignment) {n : Text}
    (hn : n ≠ name) : env.lookup assigned n = other.lookup assigned n := by
  rw [lookup, lookup, h.text?_eq hn]

/-- Setting any variable in both keeps two environments the same apart from one. -/
theorem set (h : Apart name env other) (n : Text) (value : Bytes) :
    Apart name (env.set n value) (other.set n value) := by
  intro m hm
  rw [get?_set, get?_set, h m hm]

end Apart

/-- One environment is **ahead of another in a variable** when it has the variable set to a text. The other
one may have it set to a text too, or not at all; all other variables are the same. -/
structure Ahead (name : Text) (env other : Environment) : Prop where
  apart : Apart name env other
  isSet : (env.text? name).isSome
  isSetOrUnset : (other.text? name).isSome ∨ other.get? name = none

namespace Ahead

/-- An assignment that can be made in the environment behind can be made **in both**, and one stays ahead
of the other. -/
theorem assign? (h : Ahead name env other) {a : Assignment} {next : Environment}
    (hnext : other.assign? a = some next) :
    ∃ ahead, env.assign? a = some ahead ∧ Ahead name ahead next := by
  by_cases ha : a.name = name
  · -- the environment ahead has the variable already
    have hahead : env.assign? a = some env := if_pos (ha ▸ h.isSet)
    refine ⟨env, hahead, ?_⟩
    rcases other.assign?_cases a with ⟨-, hsame⟩ | ⟨-, -, hnone⟩ | ⟨-, -, hset⟩
    · exact Option.some.inj (hsame.symm.trans hnext) ▸ h
    · exact nomatch hnext.symm.trans hnone
    · obtain rfl := Option.some.inj (hset.symm.trans hnext)
      refine ⟨fun n hn => ?_, h.isSet, .inl (by simp [ha])⟩
      rw [get?_set, if_neg fun hname => hn (hname.symm.trans ha), h.apart n hn]
  · have htext := h.apart.text?_eq ha
    rcases other.assign?_cases a with ⟨hset, hsame⟩ | ⟨-, -, hnone⟩ | ⟨hunset, hzero, hset⟩
    · exact ⟨env, if_pos (htext ▸ hset), Option.some.inj (hsame.symm.trans hnext) ▸ h⟩
    · exact nomatch hnext.symm.trans hnone
    · obtain rfl := Option.some.inj (hset.symm.trans hnext)
      have hahead : env.assign? a = some (env.set a.name a.value.toBytes) := by
        rw [Environment.assign?, htext, hunset, Option.isSome_none, if_neg Bool.false_ne_true,
          if_neg hzero]
      refine ⟨_, hahead, h.apart.set a.name _, ?_, ?_⟩
      · rw [text?, get?_set, if_neg ha]
        exact h.isSet
      · rw [text?, get?_set, if_neg ha]
        exact h.isSetOrUnset

/-- An assignment that cannot be made in the environment behind cannot be made in the other, **unless it is
to the variable**, which then is not set behind. -/
theorem assign?_eq_none (h : Ahead name env other) {a : Assignment} (hnone : other.assign? a = none) :
    env.assign? a = none ∨ other.get? name = none := by
  obtain ⟨hunset, hzero⟩ := assign?_eq_none_iff.1 hnone
  by_cases ha : a.name = name
  · refine .inr (h.isSetOrUnset.resolve_left fun hset => ?_)
    rw [← ha, hunset] at hset
    cases hset
  · exact .inl (assign?_eq_none_iff.2 ⟨(h.apart.text?_eq ha).trans hunset, hzero⟩)

/-- Lines that ignore the value of a variable, and that leave it set in the environment behind, end **in the
same way in both**, and keep them the same apart from it. -/
theorem loadLines (h : Ahead name env other) (assigned : List Assignment)
    {lines : List (Option Text)} (hlines : ∀ line, some line ∈ lines → IgnoresValueOf name line)
    (hbound : (other.loadLines assigned lines).environment.get? name ≠ none) :
    Apart name (env.loadLines assigned lines).environment
        (other.loadLines assigned lines).environment ∧
      (env.loadLines assigned lines).refused = (other.loadLines assigned lines).refused := by
  induction lines generalizing env other assigned with
  | nil => exact ⟨h.apart, rfl⟩
  | cons line lines ih =>
      cases line with
      | none => exact ⟨h.apart, rfl⟩
      | some line =>
          have hbehind : ∀ line, some line ∈ lines → IgnoresValueOf name line :=
            fun line hline => hlines line (List.mem_cons_of_mem _ hline)
          have hsame : Assignment.ofLine? (env.lookup assigned) line =
              Assignment.ofLine? (other.lookup assigned) line :=
            hlines line List.mem_cons_self _ _ fun n hn => h.apart.lookup_eq assigned hn
          rw [Environment.loadLines, Environment.loadLines, hsame]
          rw [Environment.loadLines] at hbound
          cases hfound : Assignment.ofLine? (other.lookup assigned) line with
          | none => exact ⟨h.apart, rfl⟩
          | some found =>
          rw [hfound] at hbound
          cases found with
          | none => exact ih h assigned hbehind hbound
          | some a =>
          cases hother : other.assign? a with
          | none =>
              simp only [hother] at hbound ⊢
              rw [(h.assign?_eq_none hother).resolve_right hbound]
              exact ⟨h.apart, rfl⟩
          | some next =>
              obtain ⟨ahead, hahead, hnext⟩ := h.assign? hother
              simp only [hother, hahead] at hbound ⊢
              exact ih hnext (a :: assigned) hbehind hbound

/-- **A settings file whose lines ignore the value of a variable**, and that sets it in the environment
behind, ends in the same way in both, and keeps them the same apart from it. -/
theorem load (h : Ahead name env other) {content : Bytes}
    (hlines : ∀ line, some line ∈ settingsLines content → IgnoresValueOf name line)
    (hbound : (other.load (some content)).environment.get? name ≠ none) :
    Apart name (env.load (some content)).environment (other.load (some content)).environment ∧
      (env.load (some content)).refused = (other.load (some content)).refused :=
  h.loadLines [] hlines hbound

end Ahead

end Environment

end SequenceBridge
