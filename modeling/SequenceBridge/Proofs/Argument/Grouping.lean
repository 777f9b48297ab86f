import SequenceBridge.Argument.Conversion

/-! # The groups of a repeated argument
How the nodes of a repeated argument fall into groups, whatever becomes of each of them.

* **`flatten_chunks`** — cutting a list into pieces loses nothing and keeps the order.
* **`flatten_groupsOf`** — the groups hold what was converted, in order, under any arity.
* **`groupsOf_one`** — under arity one every node has a group of its own, dropped or not.
* **`groupTurn`** — what one node does to the groups so far: it may begin one, and goes to the last.
* **`groupTurn_groupsOf`** — node by node, the groups are those of the nodes so far.
* **`nil_notMem_groupsOf`** — when no node is dropped, no group under an arity is empty.
-/

namespace SequenceBridge

/-! ## Pieces of a list -/

section Chunks

variable {α : Type}

@[simp] theorem chunks_nil (n : Nat) : chunks n ([] : List α) = [] := by
  rw [chunks]

theorem chunks_cons (n : Nat) (x : α) (xs : List α) :
    chunks n (x :: xs) = (x :: xs.take (n - 1)) :: chunks n (xs.drop (n - 1)) := by
  rw [chunks]

/-- **Cutting a list loses nothing**: its pieces in order are the list. -/
theorem flatten_chunks (n : Nat) (xs : List α) : (chunks n xs).flatten = xs := by
  induction xs using chunks.induct (n := n) with
  | case1 => rw [chunks_nil, List.flatten_nil]
  | case2 x xs ih =>
      rw [chunks_cons, List.flatten_cons, ih, List.cons_append, List.take_append_drop]

/-- No piece is empty. -/
theorem nil_notMem_chunks (n : Nat) (xs : List α) : [] ∉ chunks n xs := by
  induction xs using chunks.induct (n := n) with
  | case1 => rw [chunks_nil]; exact List.not_mem_nil
  | case2 x xs ih =>
      rw [chunks_cons, List.mem_cons, not_or]
      exact ⟨(List.cons_ne_nil _ _).symm, ih⟩

/-- There are at most as many pieces as members. -/
theorem length_chunks_le (n : Nat) (xs : List α) : (chunks n xs).length ≤ xs.length := by
  induction xs using chunks.induct (n := n) with
  | case1 => rw [chunks_nil]; exact Nat.le_refl _
  | case2 x xs ih =>
      rw [List.length_drop] at ih
      rw [chunks_cons, List.length_cons, List.length_cons]
      omega

/-- In pieces of length one every member stands alone. -/
theorem chunks_one (xs : List α) : chunks 1 xs = xs.map ([·]) := by
  induction xs with
  | nil => rw [chunks_nil, List.map_nil]
  | cons x xs ih => rw [chunks_cons, Nat.sub_self, List.take_zero, List.drop_zero, ih, List.map_cons]

/-- Put a member behind those of the **last group**. Where there is no group it has no place. -/
def pushLast (a : α) : List (List α) → List (List α)
  | [] => []
  | [group] => [group ++ [a]]
  | group :: next :: rest => group :: pushLast a (next :: rest)

theorem pushLast_cons (a : α) (group : List α) {rest : List (List α)} (h : rest ≠ []) :
    pushLast a (group :: rest) = group :: pushLast a rest := by
  cases rest with
  | nil => exact absurd rfl h
  | cons next rest => rw [pushLast]

/-- The last group of some is the one that was put behind the others. -/
theorem pushLast_append_singleton (a : α) (groups : List (List α)) (group : List α) :
    pushLast a (groups ++ [group]) = groups ++ [group ++ [a]] := by
  induction groups with
  | nil => rfl
  | cons first groups ih =>
      rw [List.cons_append, pushLast_cons a first (by simp), ih, List.cons_append]

/-- A piece that is full is followed by a new one, and a piece that is not **takes one more member**. -/
theorem chunks_concat {n : Nat} (hn : 0 < n) (xs : List α) (a : α) :
    chunks n (xs ++ [a]) =
      if xs.length % n = 0 then chunks n xs ++ [[a]] else pushLast a (chunks n xs) := by
  induction xs using chunks.induct (n := n) with
  | case1 => simp [chunks_cons]
  | case2 x xs ih =>
      rw [List.cons_append, chunks_cons, chunks_cons, List.length_cons]
      by_cases hfull : n - 1 ≤ xs.length
      · -- the first piece is full, and the member goes behind it
        have hlength : (xs.length + 1) % n = (xs.drop (n - 1)).length % n := by
          rw [List.length_drop, show xs.length + 1 = xs.length - (n - 1) + n by omega,
            Nat.add_mod_right]
        rw [List.take_append_of_le_length hfull, List.drop_append_of_le_length hfull, ih, hlength]
        split
        · rfl
        · next hopen =>
            have hne : chunks n (xs.drop (n - 1)) ≠ [] := by
              intro hnil
              have hflat := flatten_chunks n (xs.drop (n - 1))
              rw [hnil] at hflat
              rw [← hflat] at hopen
              exact hopen (Nat.zero_mod n)
            rw [pushLast_cons a _ hne]
      · -- the first piece is all there is, and takes the member
        have hshort : xs.length < n - 1 := Nat.not_le.1 hfull
        have hopen : (xs.length + 1) % n ≠ 0 := by
          rw [Nat.mod_eq_of_lt (by omega)]
          exact Nat.succ_ne_zero _
        have hfits : (xs ++ [a]).length ≤ n - 1 := by
          rw [List.length_append, List.length_singleton]
          exact hshort
        have hbefore : xs.length ≤ n - 1 := Nat.le_of_lt hshort
        rw [if_neg hopen, List.take_of_length_le hfits, List.drop_eq_nil_of_le hfits,
          List.take_of_length_le hbefore, List.drop_eq_nil_of_le hbefore, chunks_nil, pushLast,
          List.cons_append]

end Chunks

/-! ## Groups -/

@[simp] theorem filterMap_id_cons {α : Type} (o : Option α) (os : List (Option α)) :
    (o :: os).filterMap id = o.toList ++ os.filterMap id := by
  cases o <;> rfl

@[simp] theorem groupsOf_nil (arity : Option Nat) : groupsOf arity [] = [] := by
  cases arity <;> simp [groupsOf]

/-- **The groups hold what was converted**, in order, under any arity. -/
theorem flatten_groupsOf (arity : Option Nat) (converted : List (Option Argument)) :
    (groupsOf arity converted).flatten = converted.filterMap id := by
  cases arity with
  | none => cases converted <;> simp [groupsOf]
  | some n =>
      rw [groupsOf, ← List.filterMap_flatten, flatten_chunks]

/-- Without an arity there is at most one group. -/
theorem length_groupsOf_none_le (converted : List (Option Argument)) :
    (groupsOf none converted).length ≤ 1 := by
  rw [groupsOf]
  split <;> simp

/-- There are at most as many groups as nodes. -/
theorem length_groupsOf_le (arity : Option Nat) (converted : List (Option Argument)) :
    (groupsOf arity converted).length ≤ converted.length := by
  cases arity with
  | none => cases converted <;> simp [groupsOf]
  | some n =>
      rw [groupsOf, List.length_map]
      exact length_chunks_le n converted

/-- Under arity one **every node has a group of its own**, also when it was dropped. -/
theorem groupsOf_one (converted : List (Option Argument)) :
    groupsOf (some 1) converted = converted.map Option.toList := by
  rw [groupsOf, chunks_one, List.map_map]
  refine List.map_congr_left fun o _ => ?_
  cases o <;> rfl

/-- When no node was dropped, **no group under an arity is empty**. -/
theorem nil_notMem_groupsOf (n : Nat) {converted : List (Option Argument)}
    (h : none ∉ converted) : [] ∉ groupsOf (some n) converted := by
  intro hmem
  obtain ⟨group, hgroup, hnil⟩ := List.mem_map.1 hmem
  cases group with
  | nil => exact nil_notMem_chunks n converted hgroup
  | cons o os =>
      -- a group is empty when its piece is, or when all of its nodes were dropped
      have ho : o ∈ converted := by
        rw [← flatten_chunks n converted]
        exact List.mem_flatten.2 ⟨o :: os, hgroup, List.mem_cons_self⟩
      cases o with
      | none => exact h ho
      | some a => simp at hnil

/-! ## Groups in turn -/

/-- Whether a group **begins** at the index of a node. -/
def beginsGroup (arity : Option Nat) (index : Nat) : Bool :=
  match arity with
  | some n => index % n = 0
  | none => index = 0

/-- **One turn of grouping**: a group is begun if one begins at the index, and then the node goes to the
last group, unless it was dropped. -/
def groupTurn (arity : Option Nat) (index : Nat) (groups : List (List Argument)) :
    Option Argument → List (List Argument)
  | none => if beginsGroup arity index then groups ++ [[]] else groups
  | some a => pushLast a (if beginsGroup arity index then groups ++ [[]] else groups)

/-- Groups that lost members are pushed to like those that did not. -/
theorem map_filterMap_pushLast (o : Option Argument) (pieces : List (List (Option Argument))) :
    (pushLast o pieces).map (·.filterMap id) =
      match o with
      | none => pieces.map (·.filterMap id)
      | some a => pushLast a (pieces.map (·.filterMap id)) := by
  induction pieces with
  | nil => cases o <;> rfl
  | cons piece pieces ih =>
      by_cases hne : pieces = []
      · subst hne
        cases o <;> simp [pushLast]
      · rw [pushLast_cons o piece hne, List.map_cons, ih]
        cases o with
        | none => rfl
        | some a =>
            have hmap : pieces.map (·.filterMap id) ≠ [] := fun h => hne (List.map_eq_nil_iff.1 h)
            exact (pushLast_cons a (piece.filterMap id) hmap).symm

/-- **One turn keeps the groups**: those of some nodes become those of one node more. -/
theorem groupTurn_groupsOf {arity : Option Nat} (harity : ∀ n ∈ arity, 0 < n)
    (done : List (Option Argument)) (o : Option Argument) :
    groupTurn arity done.length (groupsOf arity done) o = groupsOf arity (done ++ [o]) := by
  cases arity with
  | none =>
      cases done with
      | nil => cases o <;> rfl
      | cons first done => cases o <;> simp [groupTurn, groupsOf, beginsGroup, pushLast]
  | some n =>
      rw [groupsOf, groupsOf, chunks_concat (harity n rfl)]
      by_cases hbegins : done.length % n = 0
      · rw [if_pos hbegins, List.map_append]
        cases o <;> simp [groupTurn, beginsGroup, hbegins, pushLast_append_singleton]
      · rw [if_neg hbegins, map_filterMap_pushLast]
        cases o <;> simp [groupTurn, beginsGroup, hbegins]

end SequenceBridge
