import Mathlib.Algebra.Ring.Nat
import Mathlib.Data.List.Forall2
import SequenceBridge.Text.Basic

/-! # Joined pieces
Pieces of text are joined by a separator, lines by newlines and arguments by commas. Arguments are
joined at once, or in groups that are joined in turn. The second way may leave more commas: an empty
group has no piece, and still has a comma to its neighbour.

* **`Text.length_intercalate`** — the length of joined pieces.
* **`Text.intercalate_append`** — two lists of pieces join to their joins with a separator between.
* **`Text.mem_intercalate`** — joined pieces hold nothing but what the pieces hold, and separators.
* **`Text.intercalate_sublist`** — shorter pieces join to a shorter text.
* **`Text.commas_cons`** — every piece behind the first stands behind a comma.
* **`surplusCommas`** — the number of commas that joining in groups leaves beyond joining at once.
* **`Text.commas_flatten_sublist`** — joining in groups only adds characters.
* **`Text.length_commas_map_commas`** — it adds as many as there are surplus commas.
-/

namespace SequenceBridge

/-! ## Groups and their surplus -/

/-- The number of **surplus commas** of some groups: one for each empty group, and one less when there
is nothing but empty groups. -/
def surplusCommas {α : Type} (groups : List (List α)) : Nat :=
  if groups.flatten.isEmpty then groups.length - 1 else groups.countP List.isEmpty

/-- What stands in the groups does not matter, only how much. -/
theorem surplusCommas_map {α β : Type} (f : α → β) (groups : List (List α)) :
    surplusCommas (groups.map (List.map f)) = surplusCommas groups := by
  have hp : List.isEmpty ∘ List.map f = List.isEmpty := funext fun l => List.isEmpty_map
  rw [surplusCommas, surplusCommas, ← List.map_flatten, List.isEmpty_map, List.length_map,
    List.countP_map, hp]

/-- **Nothing is left over** exactly when there is at most one group or no group is empty. -/
theorem surplusCommas_eq_zero_iff {α : Type} {groups : List (List α)} :
    surplusCommas groups = 0 ↔ groups.length ≤ 1 ∨ [] ∉ groups := by
  rw [surplusCommas]
  by_cases hflat : groups.flatten = []
  · rw [if_pos (List.isEmpty_iff.2 hflat)]
    have hall := List.flatten_eq_nil_iff.1 hflat
    constructor
    · intro h
      exact .inl (by omega)
    · rintro (h | h)
      · omega
      · -- groups that are all empty, and none is: there is no group
        cases groups with
        | nil => rfl
        | cons g gs => exact absurd (hall g List.mem_cons_self ▸ List.mem_cons_self) h
  · rw [if_neg fun h => hflat (List.isEmpty_iff.1 h), List.countP_eq_zero]
    have hmem : (∀ g ∈ groups, ¬ g.isEmpty = true) ↔ [] ∉ groups :=
      ⟨fun h hnil => h [] hnil rfl, fun h g hg he => h (List.isEmpty_iff.1 he ▸ hg)⟩
    rw [hmem]
    refine ⟨.inr, ?_⟩
    rintro (h | h)
    · match groups, h with
      | [], _ => exact List.not_mem_nil
      | [g], _ =>
          intro hnil
          rw [← List.mem_singleton.1 hnil] at hflat
          exact hflat rfl
    · exact h

namespace Text

/-! ## Any separator -/

/-- Joined pieces are as long as the pieces and the separators between them. -/
theorem length_intercalate (separator : Char) (ts : List Text) :
    (List.intercalate [separator] ts).length = (ts.map List.length).sum + (ts.length - 1) := by
  induction ts with
  | nil => rfl
  | cons t ts ih =>
      cases ts with
      | nil => rw [List.intercalate_singleton]; rfl
      | cons u us =>
          rw [List.intercalate_cons_cons, List.length_append, List.length_append, ih]
          simp only [List.map_cons, List.sum_cons, List.length_cons, List.length_nil]
          omega

/-- Two lists of pieces, neither of them empty, **join to their joins** with a separator between. -/
theorem intercalate_append (separator : Char) {ss ts : List Text} (hs : ss ≠ []) (ht : ts ≠ []) :
    List.intercalate [separator] (ss ++ ts) =
      List.intercalate [separator] ss ++ separator :: List.intercalate [separator] ts := by
  induction ss with
  | nil => exact absurd rfl hs
  | cons s ss ih =>
      cases ss with
      | nil =>
          obtain ⟨t, ts, rfl⟩ := List.exists_cons_of_ne_nil ht
          rw [List.singleton_append, List.intercalate_cons_cons, List.intercalate_singleton,
            List.append_assoc, List.singleton_append]
      | cons r rs =>
          have ih := ih (List.cons_ne_nil r rs)
          rw [List.cons_append] at ih
          rw [List.cons_append, List.cons_append, List.intercalate_cons_cons, ih,
            List.intercalate_cons_cons]
          simp only [List.append_assoc]

/-- **Shorter pieces join to a shorter text**, whatever the separator. -/
theorem intercalate_sublist (separator : Char) {ss ts : List Text}
    (h : List.Forall₂ List.Sublist ss ts) :
    (List.intercalate [separator] ss).Sublist (List.intercalate [separator] ts) := by
  induction h with
  | nil => exact List.Sublist.refl _
  | cons hs hss ih =>
      cases hss with
      | nil => rw [List.intercalate_singleton, List.intercalate_singleton]; exact hs
      | cons =>
          rw [List.intercalate_cons_cons, List.intercalate_cons_cons]
          exact (hs.append (List.Sublist.refl _)).append ih

/-- What stands in joined pieces stands in one of them, or is the separator. -/
theorem mem_intercalate {separator c : Char} {ts : List Text}
    (h : c ∈ List.intercalate [separator] ts) : c = separator ∨ ∃ t ∈ ts, c ∈ t := by
  induction ts with
  | nil => exact absurd h List.not_mem_nil
  | cons t ts ih =>
      cases ts with
      | nil =>
          rw [List.intercalate_singleton] at h
          exact .inr ⟨t, List.mem_cons_self, h⟩
      | cons u us =>
          rw [List.intercalate_cons_cons, List.mem_append, List.mem_append, List.mem_singleton] at h
          rcases h with (h | h) | h
          · exact .inr ⟨t, List.mem_cons_self, h⟩
          · exact .inl h
          · exact (ih h).imp_right fun ⟨v, hv, hc⟩ => ⟨v, List.mem_cons_of_mem t hv, hc⟩

/-! ## Lengths of groups -/

theorem length_commas (ts : List Text) :
    (commas ts).length = (ts.map List.length).sum + (ts.length - 1) :=
  length_intercalate ',' ts

/-- The lengths of joined groups, each with room for a comma behind it. -/
theorem sum_length_map_commas (tss : List (List Text)) :
    ((tss.map commas).map List.length).sum + tss.length =
      (tss.flatten.map List.length).sum + tss.flatten.length + tss.countP List.isEmpty := by
  induction tss with
  | nil => rfl
  | cons ts tss ih =>
      rw [List.map_cons, List.map_cons, List.sum_cons, List.length_cons, List.flatten_cons,
        List.map_append, List.sum_append, List.length_append, length_commas, List.countP_cons]
      cases ts with
      | nil =>
          rw [List.isEmpty_nil, if_pos rfl, List.map_nil, List.sum_nil, List.length_nil]
          omega
      | cons t ts =>
          rw [List.isEmpty_cons, if_neg Bool.false_ne_true, List.length_cons]
          omega

/-- **Joining in groups adds the surplus commas** to joining at once. -/
theorem length_commas_map_commas (tss : List (List Text)) :
    (commas (tss.map commas)).length = (commas tss.flatten).length + surplusCommas tss := by
  have hsum := sum_length_map_commas tss
  rw [length_commas, length_commas, List.length_map, surplusCommas]
  by_cases hflat : tss.flatten = []
  · have hcount : tss.countP List.isEmpty = tss.length :=
      List.countP_eq_length.2 fun ts hts =>
        List.isEmpty_iff.2 (List.flatten_eq_nil_iff.1 hflat ts hts)
    rw [if_pos (List.isEmpty_iff.2 hflat)]
    rw [hflat, hcount] at hsum
    rw [hflat]
    simp only [List.map_nil, List.sum_nil, List.length_nil] at hsum ⊢
    omega
  · have hpos : 0 < tss.flatten.length := List.length_pos_iff.2 hflat
    have htss : 0 < tss.length := by
      refine List.length_pos_iff.2 fun h => hflat ?_
      rw [h, List.flatten_nil]
    rw [if_neg fun h => hflat (List.isEmpty_iff.1 h)]
    omega

/-! ## Order -/

/-- Every piece behind the first stands behind a comma. -/
theorem commas_cons (t : Text) (ts : List Text) :
    commas (t :: ts) = t ++ ts.flatMap (',' :: ·) := by
  induction ts generalizing t with
  | nil => rw [commas_singleton, List.flatMap_nil, List.append_nil]
  | cons u us ih => rw [commas_cons_cons, ih, List.flatMap_cons, List.cons_append]

/-- Two lists of pieces, neither of them empty, join to their joins with a comma between. -/
theorem commas_append {ss ts : List Text} (hs : ss ≠ []) (ht : ts ≠ []) :
    commas (ss ++ ts) = commas ss ++ ',' :: commas ts :=
  intercalate_append ',' hs ht

/-- Joining two lists of pieces apart, with a comma between, only adds characters. -/
theorem commas_append_sublist (ss ts : List Text) :
    (commas (ss ++ ts)).Sublist (commas ss ++ ',' :: commas ts) := by
  by_cases hs : ss = []
  · rw [hs]
    exact (List.Sublist.refl _).cons ','
  · by_cases ht : ts = []
    · rw [ht, List.append_nil]
      exact List.sublist_append_left _ _
    · rw [commas_append hs ht]

/-- **Joining in groups only adds** characters. -/
theorem commas_flatten_sublist (tss : List (List Text)) :
    (commas tss.flatten).Sublist (commas (tss.map commas)) := by
  induction tss with
  | nil => exact List.Sublist.refl _
  | cons ts tss ih =>
      cases tss with
      | nil =>
          rw [List.flatten_cons, List.flatten_nil, List.append_nil, List.map_cons, List.map_nil,
            commas_singleton]
      | cons us uss =>
          rw [List.flatten_cons, List.map_cons, List.map_cons, commas_cons_cons, ← List.map_cons]
          exact (commas_append_sublist ts _).trans ((List.Sublist.refl _).append (ih.cons_cons ','))

end Text

end SequenceBridge
