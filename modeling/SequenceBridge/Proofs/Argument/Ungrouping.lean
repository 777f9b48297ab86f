import SequenceBridge.Argument.Basic
import SequenceBridge.Proofs.Text.Commas

/-! # Arguments without their groups
The groups of a repeated argument leave no brackets in the written text, but an empty group leaves a
comma. An argument is **ungrouped** by putting the members of its groups into a single one, at every
depth; what its text then loses are the commas of empty groups.

* **`Argument.ungroup`** — an argument with one group in place of several, at every depth.
* **`Argument.surplus`** — the number of surplus commas in the text of an argument.
* **`Argument.Gapless`** — no repeated argument inside has an empty group beside another group.
* **`surplus_eq_zero_iff`** — gapless arguments are those without surplus commas.
* **`text_ungroup_sublist`**, **`length_text`** — grouping only adds to the text of an argument, and
  what it adds are the surplus commas.
-/

namespace SequenceBridge

/-- **Induction on arguments**: what holds of all members of some groups may be used for the repeated
argument that they make up. -/
theorem Argument.induction {motive : Argument → Prop}
    (scalar : ∀ value, motive (.scalar value))
    (repeated : ∀ groups, (∀ a ∈ groups.flatten, motive a) → motive (.repeated groups)) :
    ∀ a, motive a
  | .scalar value => scalar value
  | .repeated groups => repeated groups fun a _ha => Argument.induction scalar repeated a
termination_by a => sizeOf a
decreasing_by
  obtain ⟨g, hg, ha⟩ := List.mem_flatten.1 _ha
  have h₁ := List.sizeOf_lt_of_mem ha
  have h₂ := List.sizeOf_lt_of_mem hg
  rw [Argument.repeated.sizeOf_spec]
  omega

/-! ## The texts of groups -/

/-- Joined arguments are their texts with commas between them. -/
theorem joinArguments_eq (as : List Argument) :
    joinArguments as = Text.commas (as.map Argument.text) := by
  rw [joinArguments, argumentTexts_eq_map]

theorem text_repeated (groups : List (List Argument)) :
    (Argument.repeated groups).text = '[' :: Text.commas (groups.map joinArguments) ++ [']'] := by
  rw [Argument.text, groupTexts_eq_map]

/-- Groups are joined one by one. -/
theorem map_joinArguments (groups : List (List Argument)) :
    groups.map joinArguments = (groups.map (List.map Argument.text)).map Text.commas := by
  rw [List.map_map]
  exact List.map_congr_left fun g _ => joinArguments_eq g

/-- The text of a repeated argument has the **surplus commas of its groups** beyond the text of their
members. -/
theorem length_commas_joinArguments (groups : List (List Argument)) :
    (Text.commas (groups.map joinArguments)).length =
      (joinArguments groups.flatten).length + surplusCommas groups := by
  rw [map_joinArguments, Text.length_commas_map_commas, surplusCommas_map, ← List.map_flatten,
    joinArguments_eq]

/-- The text of a repeated argument holds all of the text of the members of its groups. -/
theorem joinArguments_flatten_sublist (groups : List (List Argument)) :
    (joinArguments groups.flatten).Sublist (Text.commas (groups.map joinArguments)) := by
  rw [map_joinArguments, joinArguments_eq, List.map_flatten]
  exact Text.commas_flatten_sublist _

/-! ## Ungrouping -/

mutual

/-- An argument **without its groups**: the members of all groups in a single one, at every depth. -/
def Argument.ungroup : Argument → Argument
  | .scalar value => .scalar value
  | .repeated groups => .repeated [ungroupGroups groups]

/-- Some arguments without their groups. -/
def ungroupArguments : List Argument → List Argument
  | [] => []
  | a :: as => a.ungroup :: ungroupArguments as

/-- The members of some groups, without their own groups. -/
def ungroupGroups : List (List Argument) → List Argument
  | [] => []
  | g :: gs => ungroupArguments g ++ ungroupGroups gs

end

theorem ungroupArguments_eq_map (as : List Argument) :
    ungroupArguments as = as.map Argument.ungroup := by
  induction as with
  | nil => rw [ungroupArguments, List.map_nil]
  | cons a as ih => rw [ungroupArguments, ih, List.map_cons]

theorem ungroupGroups_eq (groups : List (List Argument)) :
    ungroupGroups groups = groups.flatten.map Argument.ungroup := by
  induction groups with
  | nil => rw [ungroupGroups, List.flatten_nil, List.map_nil]
  | cons g gs ih =>
      rw [ungroupGroups, ih, ungroupArguments_eq_map, List.flatten_cons, List.map_append]

/-- Ungrouping a repeated argument forgets where its groups begin and end. -/
theorem ungroup_repeated (groups : List (List Argument)) :
    (Argument.repeated groups).ungroup = .repeated [groups.flatten.map Argument.ungroup] := by
  rw [Argument.ungroup, ungroupGroups_eq]

theorem text_ungroup_repeated (groups : List (List Argument)) :
    (Argument.repeated groups).ungroup.text =
      '[' :: joinArguments (groups.flatten.map Argument.ungroup) ++ [']'] := by
  rw [ungroup_repeated, text_repeated, List.map_singleton, Text.commas_singleton]

/-! ## Surplus commas -/

mutual

/-- The **surplus commas** in the text of an argument: those of its groups, and those of their
members. -/
def Argument.surplus : Argument → Nat
  | .scalar _ => 0
  | .repeated groups => surplusCommas groups + groupsSurplus groups

/-- The surplus commas in the texts of some arguments. -/
def argumentsSurplus : List Argument → Nat
  | [] => 0
  | a :: as => a.surplus + argumentsSurplus as

/-- The surplus commas in the texts of the members of some groups. -/
def groupsSurplus : List (List Argument) → Nat
  | [] => 0
  | g :: gs => argumentsSurplus g + groupsSurplus gs

end

theorem argumentsSurplus_append (as bs : List Argument) :
    argumentsSurplus (as ++ bs) = argumentsSurplus as + argumentsSurplus bs := by
  induction as with
  | nil => rw [List.nil_append, argumentsSurplus, Nat.zero_add]
  | cons a as ih => rw [List.cons_append, argumentsSurplus, argumentsSurplus, ih, Nat.add_assoc]

theorem groupsSurplus_eq (groups : List (List Argument)) :
    groupsSurplus groups = argumentsSurplus groups.flatten := by
  induction groups with
  | nil => rw [groupsSurplus, List.flatten_nil, argumentsSurplus]
  | cons g gs ih => rw [groupsSurplus, ih, List.flatten_cons, argumentsSurplus_append]

theorem surplus_repeated (groups : List (List Argument)) :
    (Argument.repeated groups).surplus = surplusCommas groups + argumentsSurplus groups.flatten := by
  rw [Argument.surplus, groupsSurplus_eq]

theorem argumentsSurplus_eq_zero_iff {as : List Argument} :
    argumentsSurplus as = 0 ↔ ∀ a ∈ as, a.surplus = 0 := by
  induction as with
  | nil => simp [argumentsSurplus]
  | cons a as ih => rw [argumentsSurplus, Nat.add_eq_zero_iff, ih, List.forall_mem_cons]

/-- An argument is **gapless** when no repeated argument in it has an empty group beside another
group. -/
inductive Argument.Gapless : Argument → Prop
  | scalar (value : Text) : Gapless (.scalar value)
  | repeated {groups : List (List Argument)} (here : groups.length ≤ 1 ∨ [] ∉ groups)
      (inside : ∀ a ∈ groups.flatten, Gapless a) : Gapless (.repeated groups)

/-- Gapless arguments are those without surplus commas. -/
theorem surplus_eq_zero_iff (a : Argument) : a.surplus = 0 ↔ a.Gapless := by
  induction a using Argument.induction with
  | scalar value => exact ⟨fun _ => .scalar value, fun _ => rfl⟩
  | repeated groups ih =>
      rw [surplus_repeated, Nat.add_eq_zero_iff, surplusCommas_eq_zero_iff,
        argumentsSurplus_eq_zero_iff]
      constructor
      · rintro ⟨here, inside⟩
        exact .repeated here fun a ha => (ih a ha).1 (inside a ha)
      · intro h
        cases h with
        | repeated here inside => exact ⟨here, fun a ha => (ih a ha).2 (inside a ha)⟩

/-! ## Texts with and without groups -/

/-- Lengths of joined arguments, from the lengths of their members. -/
theorem length_joinArguments_of {as : List Argument}
    (h : ∀ a ∈ as, a.text.length = a.ungroup.text.length + a.surplus) :
    (joinArguments as).length =
      (joinArguments (as.map Argument.ungroup)).length + argumentsSurplus as := by
  rw [joinArguments_eq, joinArguments_eq, Text.length_commas, Text.length_commas]
  simp only [List.length_map]
  have hsum : ((as.map Argument.text).map List.length).sum =
      (((as.map Argument.ungroup).map Argument.text).map List.length).sum + argumentsSurplus as := by
    induction as with
    | nil => rfl
    | cons a as ih =>
        have ha := h a List.mem_cons_self
        have has := ih fun b hb => h b (List.mem_cons_of_mem a hb)
        simp only [List.map_cons, List.sum_cons, argumentsSurplus]
        omega
  omega

/-- The text of an argument **is longer by its surplus commas** than the text without groups. -/
theorem length_text (a : Argument) : a.text.length = a.ungroup.text.length + a.surplus := by
  induction a using Argument.induction with
  | scalar value => rfl
  | repeated groups ih =>
      -- commas of groups inside the members, and those between the groups themselves
      have hin := length_joinArguments_of ih
      have hout := length_commas_joinArguments groups
      rw [text_repeated, text_ungroup_repeated, surplus_repeated]
      simp only [List.length_append, List.length_cons]
      omega

theorem length_joinArguments (as : List Argument) :
    (joinArguments as).length =
      (joinArguments (as.map Argument.ungroup)).length + argumentsSurplus as :=
  length_joinArguments_of fun a _ => length_text a

/-- Joined arguments hold the joined arguments without groups, when their members do. -/
theorem joinArguments_ungroup_sublist_of {as : List Argument}
    (h : ∀ a ∈ as, a.ungroup.text.Sublist a.text) :
    (joinArguments (as.map Argument.ungroup)).Sublist (joinArguments as) := by
  rw [joinArguments_eq, joinArguments_eq]
  refine Text.intercalate_sublist ',' ?_
  rw [List.forall₂_map_right_iff, List.map_map, List.forall₂_map_left_iff, List.forall₂_same]
  exact h

/-- **Grouping only adds** to the text of an argument. -/
theorem text_ungroup_sublist (a : Argument) : a.ungroup.text.Sublist a.text := by
  induction a using Argument.induction with
  | scalar value => exact List.Sublist.refl _
  | repeated groups ih =>
      rw [text_repeated, text_ungroup_repeated]
      have hin := joinArguments_ungroup_sublist_of ih
      have hout := joinArguments_flatten_sublist groups
      exact ((hin.trans hout).cons_cons '[').append_right [']']

theorem joinArguments_ungroup_sublist (as : List Argument) :
    (joinArguments (as.map Argument.ungroup)).Sublist (joinArguments as) :=
  joinArguments_ungroup_sublist_of fun a _ => text_ungroup_sublist a

/-- Arguments without surplus commas are written as if they had no groups. -/
theorem joinArguments_ungroup_of_surplus {as : List Argument} (h : argumentsSurplus as = 0) :
    joinArguments (as.map Argument.ungroup) = joinArguments as := by
  refine (joinArguments_ungroup_sublist as).eq_of_length ?_
  rw [length_joinArguments as, h, Nat.add_zero]

end SequenceBridge
