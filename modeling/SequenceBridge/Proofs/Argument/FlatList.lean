import SequenceBridge.Proofs.Argument.Ungrouping

/-! # Repeated arguments as one flat list
The groups of a repeated argument are joined one by one, and their texts are joined again. What comes
out is the flat list of all members, as long as no group is empty. An empty group has no text, but it
has a comma to its neighbour, so every empty group beside another one makes the list longer.

* **`bracketed`** — some arguments as one flat list in brackets.
* **`joinArguments_append`** — two lists of arguments join to their joins with a comma between.
* **`surplusCommas_of_exists`**, **`surplusCommas_of_forall`** — how many commas are left over when some
  group has members, and when none has.
* **`text_repeated_flat_iff`** — which repeated arguments are one flat list, and how much longer the
  others are.
-/

namespace SequenceBridge

/-- Some arguments as **one flat list** in brackets. -/
def bracketed (as : List Argument) : Text := '[' :: joinArguments as ++ [']']

@[simp] theorem length_bracketed (as : List Argument) :
    (bracketed as).length = (joinArguments as).length + 2 := by
  simp [bracketed]

/-- **Two lists of arguments**, neither of them empty, join to their joins with a comma between. -/
theorem joinArguments_append {as bs : List Argument} (ha : as ≠ []) (hb : bs ≠ []) :
    joinArguments (as ++ bs) = joinArguments as ++ ',' :: joinArguments bs := by
  rw [joinArguments_eq, joinArguments_eq, joinArguments_eq, List.map_append]
  apply Text.commas_append
  · simpa using ha
  · simpa using hb

/-! ## Surplus commas, counted -/

section

variable {α : Type} {groups : List (List α)}

/-- When **some group has members**, each empty group leaves a comma. -/
theorem surplusCommas_of_exists (h : ∃ g ∈ groups, g ≠ []) :
    surplusCommas groups = groups.countP List.isEmpty := by
  obtain ⟨g, hg, hne⟩ := h
  have hflat : groups.flatten ≠ [] := by
    intro hnil
    exact hne (List.flatten_eq_nil_iff.1 hnil g hg)
  simp [surplusCommas, hflat]

/-- When **no group has members**, there is a comma between any two neighbours. -/
theorem surplusCommas_of_forall (h : ∀ g ∈ groups, g = []) :
    surplusCommas groups = groups.length - 1 := by
  have hflat : groups.flatten = [] := List.flatten_eq_nil_iff.2 h
  simp [surplusCommas, hflat]

end

/-! ## The text of a repeated argument -/

/-- A repeated argument is **longer than the flat list** by its surplus commas. -/
theorem length_text_repeated (groups : List (List Argument)) :
    (Argument.repeated groups).text.length =
      (bracketed groups.flatten).length + surplusCommas groups := by
  have hlength := length_commas_joinArguments groups
  rw [text_repeated, length_bracketed]
  simp only [List.length_append, List.length_cons, List.length_nil]
  omega

/-- All of the flat list stands in the text of the repeated argument, in order. -/
theorem bracketed_sublist (groups : List (List Argument)) :
    (bracketed groups.flatten).Sublist (Argument.repeated groups).text := by
  rw [text_repeated, bracketed]
  exact ((joinArguments_flatten_sublist groups).cons_cons '[').append_right [']']

/-- A repeated argument **is the flat list** exactly when no comma is left over. -/
theorem text_repeated_eq_bracketed_iff (groups : List (List Argument)) :
    (Argument.repeated groups).text = bracketed groups.flatten ↔ surplusCommas groups = 0 := by
  have hlength := length_text_repeated groups
  constructor
  · intro h
    rw [h] at hlength
    omega
  · -- nothing is left out of the flat list, so equal lengths are enough
    intro h
    apply ((bracketed_sublist groups).eq_of_length _).symm
    omega

/-- **When a repeated argument is one flat list.** It is the list of all members of its groups, in
brackets, exactly when there is at most one group or no group is empty. In every other case it is
longer: by the number of empty groups when some group has members, and by one less than the number of
groups when none has. Joining itself puts one comma between any two lists with members. -/
theorem text_repeated_flat_iff (groups : List (List Argument)) :
    ((Argument.repeated groups).text = bracketed groups.flatten ↔
        groups.length ≤ 1 ∨ [] ∉ groups) ∧
      (1 < groups.length → [] ∈ groups →
        (bracketed groups.flatten).length < (Argument.repeated groups).text.length) ∧
      ((∃ g ∈ groups, g ≠ []) → (Argument.repeated groups).text.length =
        (bracketed groups.flatten).length + groups.countP List.isEmpty) ∧
      ((∀ g ∈ groups, g = []) → (Argument.repeated groups).text.length =
        (bracketed groups.flatten).length + (groups.length - 1)) ∧
      ∀ as bs : List Argument, as ≠ [] → bs ≠ [] →
        joinArguments (as ++ bs) = joinArguments as ++ ',' :: joinArguments bs := by
  have hlength := length_text_repeated groups
  refine ⟨?_, ?_, ?_, ?_, ?_⟩
  · rw [text_repeated_eq_bracketed_iff, surplusCommas_eq_zero_iff]
  · intro hmany hnil
    have hpos : surplusCommas groups ≠ 0 := by
      rw [Ne, surplusCommas_eq_zero_iff, not_or]
      exact ⟨Nat.not_le.2 hmany, not_not_intro hnil⟩
    omega
  · intro h
    rw [hlength, surplusCommas_of_exists h]
  · intro h
    rw [hlength, surplusCommas_of_forall h]
  · intro as bs ha hb
    exact joinArguments_append ha hb

/-- Three groups: a value with a comma in it, no value, and an empty value beside a repeated argument
whose two groups are empty. -/
def gappedGroups : List (List Argument) :=
  [[.scalar "a,".toList], [], [.scalar [], .repeated [[], []]]]

/-- One comma is left over between these groups, two between three empty ones; and the members of the
first and of the last join with a comma. -/
theorem text_repeated_flat_iff_gappedGroups :
    (Argument.repeated gappedGroups).text = "[a,,,,[,]]".toList ∧
      (bracketed gappedGroups.flatten).length < (Argument.repeated gappedGroups).text.length ∧
      (Argument.repeated gappedGroups).text.length = (bracketed gappedGroups.flatten).length + 1 ∧
      (Argument.repeated [[], [], []]).text.length = (bracketed []).length + 2 ∧
      joinArguments ([.scalar "a,".toList] ++ [.scalar [], .repeated [[], []]]) =
        joinArguments [.scalar "a,".toList] ++
          ',' :: joinArguments [.scalar [], .repeated [[], []]] := by
  obtain ⟨-, hlonger, hcount, -, hjoin⟩ := text_repeated_flat_iff gappedGroups
  obtain ⟨-, -, -, hempty, -⟩ := text_repeated_flat_iff [[], [], []]
  refine ⟨by decide +kernel, ?_, ?_, ?_, ?_⟩
  · exact hlonger (by decide) (by simp [gappedGroups])
  · exact hcount ⟨[.scalar "a,".toList], by simp [gappedGroups], List.cons_ne_nil _ _⟩
  · exact hempty (by simp)
  · exact hjoin _ _ (List.cons_ne_nil _ _) (List.cons_ne_nil _ _)

end SequenceBridge
