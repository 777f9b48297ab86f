import SequenceBridge.Proofs.Argument.Ungrouping
import SequenceBridge.Proofs.Argument.Visit

/-! # What a definition decides
The definition of an argument decides where the groups of repeated arguments begin and end, and
nothing else. Its groups show in the written text only when one of them lost all its members.

* **`ungroup_convert`** — without groups, the converted argument does not depend on its definition.
* **`Visit.KeepsPlaces`** — a repeated argument whose groups cannot run empty, because it has at most
  one node or drops none.
* **`surplus_convert`** — where all repeated arguments keep their places, no definition leaves surplus
  commas; without a definition there are none at all.
* **`unitDefinition`** — the definition that gives every node a group of its own, at every depth.
* **`keepsPlaces_of_surplus`** — where it leaves no surplus commas, all repeated arguments keep their
  places.
-/

namespace SequenceBridge

/-! ## Converted nodes one by one -/

/-- Conversion gives one result for each node. -/
theorem length_convertAll (source : Text) (definitionAt : Nat → Option ArgumentDefinition)
    (depth index : Nat) (ns : List Node) :
    (Node.convertAll source definitionAt depth index ns).value.length = ns.length := by
  induction ns generalizing index with
  | nil => rw [Node.convertAll]; rfl
  | cons n ns ih => rw [Node.convertAll, List.length_cons, List.length_cons, ih]

/-- A node has no value exactly when it is dropped. -/
theorem value_convert_eq_none_iff (source : Text) (definition : Option ArgumentDefinition)
    (depth : Nat) (n : Node) :
    (n.convert source definition depth).value = none ↔
      ((Visit.mk depth n).contribution source).isDropped = true := by
  rw [convert_eq]
  cases (Visit.mk depth n).contribution source <;> simp [Contribution.isDropped, Contribution.warning?]

/-- Some value is missing exactly when some node is dropped, under any definitions. -/
theorem none_mem_convertAll_iff (source : Text) (definitionAt : Nat → Option ArgumentDefinition)
    (depth index : Nat) (ns : List Node) :
    none ∈ (Node.convertAll source definitionAt depth index ns).value ↔
      ∃ n ∈ ns, ((Visit.mk depth n).contribution source).isDropped = true := by
  induction ns generalizing index with
  | nil => rw [Node.convertAll]; simp
  | cons n ns ih =>
      rw [Node.convertAll, List.mem_cons, ih, eq_comm, value_convert_eq_none_iff]
      simp only [List.mem_cons, exists_eq_or_imp]

/-! ## Without groups -/

mutual

/-- **The definition does not matter** for a converted node once its groups are forgotten. -/
theorem ungroup_convert (source : Text) (d₁ d₂ : Option ArgumentDefinition) (depth : Nat) :
    ∀ n : Node, (n.convert source d₁ depth).value.map Argument.ungroup =
      (n.convert source d₂ depth).value.map Argument.ungroup
  | ⟨kind, span, children⟩ => by
      rw [convert_eq, convert_eq]
      cases (Visit.mk depth ⟨kind, span, children⟩).contribution source with
      | scalar value => rfl
      | dropped w => rfl
      | repeated =>
          -- under either arity the groups flatten to the same children
          have ih := ungroup_convertAll source (groupDefinition? d₁) (groupDefinition? d₂)
            (depth + 1) 0 children
          rw [Option.map_some, Option.map_some, ungroup_repeated, ungroup_repeated,
            flatten_groupsOf, flatten_groupsOf, ih]

/-- Nor does it matter for some converted nodes. -/
theorem ungroup_convertAll (source : Text) (f₁ f₂ : Nat → Option ArgumentDefinition)
    (depth index : Nat) :
    ∀ ns : List Node,
      ((Node.convertAll source f₁ depth index ns).value.filterMap id).map Argument.ungroup =
        ((Node.convertAll source f₂ depth index ns).value.filterMap id).map Argument.ungroup
  | [] => by rw [Node.convertAll, Node.convertAll]
  | n :: ns => by
      have hn := ungroup_convert source (f₁ index) (f₂ index) depth n
      have hns := ungroup_convertAll source f₁ f₂ depth (index + 1) ns
      rw [Node.convertAll, Node.convertAll, filterMap_id_cons, filterMap_id_cons, List.map_append,
        List.map_append, hns, ← Option.toList_map, ← Option.toList_map, hn]

end

/-! ## Places that are kept -/

/-- A repeated argument **keeps the places** of its nodes: it has at most one, or drops none. -/
def Visit.KeepsPlaces (source : Text) (v : Visit) : Prop :=
  v.contribution source = .repeated →
    v.node.children.length ≤ 1 ∨
      ∀ n ∈ v.node.children, ¬ ((Visit.mk (v.depth + 1) n).contribution source).isDropped = true

/-- Groups leave no surplus comma when there is no arity, at most one node, or none that was
dropped. -/
theorem surplusCommas_groupsOf {arity : Option Nat} {converted : List (Option Argument)}
    (h : arity = none ∨ converted.length ≤ 1 ∨ none ∉ converted) :
    surplusCommas (groupsOf arity converted) = 0 := by
  rw [surplusCommas_eq_zero_iff]
  rcases h with rfl | h | h
  · exact .inl (length_groupsOf_none_le converted)
  · exact .inl (Nat.le_trans (length_groupsOf_le arity converted) h)
  · cases arity with
    | none => exact .inl (length_groupsOf_none_le converted)
    | some n => exact .inr (nil_notMem_groupsOf n h)

mutual

/-- A node has **no surplus commas** when it has no definition or keeps all places in it. -/
theorem surplus_convert (source : Text) (definition : Option ArgumentDefinition) (depth : Nat) :
    ∀ n : Node, (definition = none ∨ ∀ v ∈ n.visits depth, v.KeepsPlaces source) →
      argumentsSurplus (n.convert source definition depth).value.toList = 0
  | ⟨kind, span, children⟩ => by
      intro h
      rw [visits_eq source, List.forall_mem_cons, Visit.KeepsPlaces] at h
      rw [convert_eq]
      cases hc : (Visit.mk depth ⟨kind, span, children⟩).contribution source with
      | scalar value => rfl
      | dropped w => rfl
      | repeated =>
          -- its own groups leave no comma, and neither do those inside by induction
          rw [hc] at h
          have hgroups : surplusCommas (groupsOf (definition.bind ArgumentDefinition.arity?)
              (Node.convertAll source (groupDefinition? definition) (depth + 1) 0
                children).value) = 0 := by
            refine surplusCommas_groupsOf (h.imp (fun hd => ?_) fun hv => ?_)
            · rw [hd, Option.bind_none]
            · rw [length_convertAll, none_mem_convertAll_iff]
              refine (hv.1 rfl).imp_right fun hdrop => ?_
              rintro ⟨n, hn, hdropped⟩
              exact hdrop n hn hdropped
          have hinside := surplus_convertAll source (groupDefinition? definition) (depth + 1) 0
            children (h.imp (fun hd i => by rw [hd]; rfl) And.right)
          rw [Option.toList_some, argumentsSurplus, argumentsSurplus, surplus_repeated, hgroups,
            flatten_groupsOf, hinside]

/-- Some nodes have no surplus commas when they have no definitions or keep all places in them. -/
theorem surplus_convertAll (source : Text) (definitionAt : Nat → Option ArgumentDefinition)
    (depth index : Nat) :
    ∀ ns : List Node,
      ((∀ i, definitionAt i = none) ∨ ∀ v ∈ Node.visitsAll depth ns, v.KeepsPlaces source) →
      argumentsSurplus
        ((Node.convertAll source definitionAt depth index ns).value.filterMap id) = 0
  | [] => by
      intro _
      rw [Node.convertAll]
      rfl
  | n :: ns => by
      intro h
      rw [Node.visitsAll, List.forall_mem_append] at h
      have hn := surplus_convert source (definitionAt index) depth n
        (h.imp (fun hd => hd index) And.left)
      have hns := surplus_convertAll source definitionAt depth (index + 1) ns
        (h.imp_right And.right)
      rw [Node.convertAll, filterMap_id_cons, argumentsSurplus_append, hn, hns]

end

/-! ## A definition that tells -/

/-- The definition of a repeated argument with **groups of one**, whose members are such arguments
again, down to a given depth. -/
def unitDefinition : Nat → ArgumentDefinition
  | 0 => ⟨[], .repeated, none, none⟩
  | k + 1 => ⟨[], .repeated, none, some ⟨[unitDefinition k], none, none⟩⟩

theorem arity?_unitDefinition (k : Nat) :
    (some (unitDefinition (k + 1))).bind ArgumentDefinition.arity? = some 1 := rfl

/-- Every member of such an argument has the same definition. -/
theorem groupDefinition?_unitDefinition (k index : Nat) :
    groupDefinition? (some (unitDefinition (k + 1))) index = some (unitDefinition k) := by
  have harity : (unitDefinition (k + 1)).arity? = some 1 := rfl
  have hgroup : (unitDefinition (k + 1)).groupArguments? = some [unitDefinition k] := rfl
  rw [groupDefinition?, Option.bind_eq_bind, Option.bind_some, harity, Option.bind_eq_bind,
    Option.bind_some, hgroup, Option.getD_some, Nat.mod_one, List.getElem?_cons_zero]

/-- Groups of one leave no surplus comma only when there is at most one node, or none that was
dropped. -/
theorem keeps_of_surplusCommas_groupsOf_one {converted : List (Option Argument)}
    (h : surplusCommas (groupsOf (some 1) converted) = 0) :
    converted.length ≤ 1 ∨ none ∉ converted := by
  rw [surplusCommas_eq_zero_iff, groupsOf_one, List.length_map] at h
  refine h.imp_right fun hnil hnone => hnil ?_
  exact List.mem_map.2 ⟨none, hnone, rfl⟩

mutual

/-- Where groups of one leave no surplus commas, a node **keeps all places** in it. -/
theorem keepsPlaces_of_surplus (source : Text) {k depth : Nat} (hk : depth + k = maxRepeatDepth) :
    ∀ n : Node,
      argumentsSurplus (n.convert source (some (unitDefinition k)) depth).value.toList = 0 →
      ∀ v ∈ n.visits depth, v.KeepsPlaces source
  | ⟨kind, span, children⟩ => by
      intro h
      rw [convert_eq] at h
      rw [visits_eq source, List.forall_mem_cons, Visit.KeepsPlaces]
      cases hc : (Visit.mk depth ⟨kind, span, children⟩).contribution source with
      | scalar value => exact ⟨fun hr => (nomatch hr), List.forall_mem_nil _⟩
      | dropped w => exact ⟨fun hr => (nomatch hr), List.forall_mem_nil _⟩
      | repeated =>
          -- the node is a repeated argument of a level that is allowed, so `k` is not zero
          cases k with
          | zero =>
              have hd : depth + 1 ≤ maxRepeatDepth := (contribution_eq_repeated_iff.1 hc).2
              omega
          | succ k =>
              rw [hc, arity?_unitDefinition, Option.toList_some, argumentsSurplus,
                argumentsSurplus, Nat.add_zero, surplus_repeated, Nat.add_eq_zero_iff,
                flatten_groupsOf] at h
              have hplaces := keeps_of_surplusCommas_groupsOf_one h.1
              rw [length_convertAll, none_mem_convertAll_iff] at hplaces
              refine ⟨fun _ => hplaces.imp_right fun hd n hn hdropped => hd ⟨n, hn, hdropped⟩, ?_⟩
              exact keepsPlaces_of_surplusAll source (by omega) _ 0 children
                (fun i _ => groupDefinition?_unitDefinition k i) h.2

/-- Where groups of one leave no surplus commas, some nodes keep all places in them. -/
theorem keepsPlaces_of_surplusAll (source : Text) {k depth : Nat}
    (hk : depth + k = maxRepeatDepth) (definitionAt : Nat → Option ArgumentDefinition)
    (index : Nat) :
    ∀ ns : List Node,
      (∀ i < index + ns.length, definitionAt i = some (unitDefinition k)) →
      argumentsSurplus
        ((Node.convertAll source definitionAt depth index ns).value.filterMap id) = 0 →
      ∀ v ∈ Node.visitsAll depth ns, v.KeepsPlaces source
  | [] => by
      intro _ _
      rw [Node.visitsAll]
      exact List.forall_mem_nil _
  | n :: ns => by
      intro hf h
      rw [List.length_cons] at hf
      rw [Node.convertAll, filterMap_id_cons, argumentsSurplus_append, Nat.add_eq_zero_iff,
        hf index (by omega)] at h
      rw [Node.visitsAll, List.forall_mem_append]
      exact ⟨keepsPlaces_of_surplus source hk n h.1,
        keepsPlaces_of_surplusAll source hk definitionAt (index + 1) ns
          (fun i hi => hf i (by omega)) h.2⟩

end

end SequenceBridge
