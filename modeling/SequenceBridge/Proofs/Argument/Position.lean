import Mathlib.Data.List.Basic
import SequenceBridge.Proofs.Argument.Definition
import SequenceBridge.Proofs.Argument.Sequence

/-! # Groups by position
The groups of a repeated argument are cut by the positions of its nodes. A node that is dropped leaves
its place empty, so no node behind it moves to another group, and none is converted under the definition
of another place.

* **`length_chunks`**, **`getElem?_chunks`** — how many pieces a list is cut into, and which.
* **`convertedAt`** — what becomes of the node at an index.
* **`ArgumentDefinition.HasGroups`** — a definition that says what one group consists of;
  **`Unbounded`** — the ways in which a definition does not.
* **`getElem?_groupsOf`** — the members of one group, by their indices.
* **`groups_by_position`** — the groups of a repeated argument.
-/

namespace SequenceBridge

/-! ## Pieces by position -/

section Chunks

variable {α : Type}

/-- A list is cut into **as many pieces as it takes** to hold its members. -/
theorem length_chunks {n : Nat} (hn : 0 < n) (xs : List α) :
    (chunks n xs).length = (xs.length + n - 1) / n := by
  induction xs using chunks.induct (n := n) with
  | case1 =>
      rw [chunks_nil, List.length_nil, List.length_nil, Nat.zero_add]
      exact (Nat.div_eq_of_lt (by omega)).symm
  | case2 x xs ih =>
      -- the members behind the first piece fall short of the whole list by `n`, or are none
      have hstep : (x :: xs).length + n - 1 = xs.length + n := by
        rw [List.length_cons]
        omega
      rw [chunks_cons, List.length_cons, ih, List.length_drop, hstep, Nat.add_div_right _ hn]
      by_cases hlong : n - 1 ≤ xs.length
      · have hrest : xs.length - (n - 1) + n - 1 = xs.length := by omega
        rw [hrest]
      · have hrest : xs.length - (n - 1) + n - 1 = n - 1 := by omega
        rw [hrest, Nat.div_eq_of_lt (by omega), Nat.div_eq_of_lt (by omega)]

/-- **The piece at an index** begins where as many pieces of full length end. -/
theorem getElem?_chunks {n : Nat} (hn : 0 < n) (xs : List α) (g : Nat) :
    (chunks n xs)[g]? = if g * n < xs.length then some ((xs.drop (g * n)).take n) else none := by
  induction xs using chunks.induct (n := n) generalizing g with
  | case1 => simp
  | case2 x xs ih =>
      rw [chunks_cons]
      cases g with
      | zero =>
          obtain ⟨m, rfl⟩ := Nat.exists_eq_succ_of_ne_zero (Nat.pos_iff_ne_zero.1 hn)
          simp
      | succ g =>
          have hindex : (g + 1) * n = n - 1 + g * n + 1 := by
            rw [Nat.succ_mul]
            omega
          rw [List.getElem?_cons_succ, ih, List.length_drop, List.drop_drop, hindex,
            List.drop_succ_cons, List.length_cons]
          by_cases hlt : g * n < xs.length - (n - 1)
          · rw [if_pos hlt, if_pos (by omega)]
          · rw [if_neg hlt, if_neg (by omega)]

/-- A stretch of a list holds the members **with the indices of that stretch**. -/
theorem take_drop_eq_filterMap (xs : List α) (start count : Nat) :
    (xs.drop start).take count = (List.range' start count).filterMap (xs[·]?) := by
  induction count generalizing start with
  | zero => simp
  | succ count ih =>
      rw [List.range'_succ, List.filterMap_cons, ← ih (start + 1)]
      by_cases hlt : start < xs.length
      · rw [List.drop_eq_getElem_cons hlt, List.take_succ_cons, List.getElem?_eq_getElem hlt]
      · have hle : xs.length ≤ start := Nat.le_of_not_lt hlt
        rw [List.drop_eq_nil_of_le hle, List.drop_eq_nil_of_le (Nat.le_succ_of_le hle),
          List.getElem?_eq_none hle, List.take_nil, List.take_nil]

end Chunks

/-! ## Converted nodes by position -/

/-- **What becomes of the node at an index**; none when there is no such node or it is dropped. -/
def convertedAt (source : Text) (definitionAt : Nat → Option ArgumentDefinition) (depth : Nat)
    (ns : List Node) (i : Nat) : Option Argument :=
  ns[i]?.bind fun n => (n.convert source (definitionAt i) depth).value

/-- Converted one by one, the node at an index is converted **with the definition for its index**. -/
theorem getElem?_convertAll (source : Text) (definitionAt : Nat → Option ArgumentDefinition)
    (depth index : Nat) (ns : List Node) (i : Nat) :
    (Node.convertAll source definitionAt depth index ns).value[i]? =
      ns[i]?.map fun n => (n.convert source (definitionAt (index + i)) depth).value := by
  induction ns generalizing index i with
  | nil => rw [Node.convertAll]; rfl
  | cons n ns ih =>
      rw [Node.convertAll]
      cases i with
      | zero => rfl
      | succ i => rw [List.getElem?_cons_succ, List.getElem?_cons_succ, ih, Nat.add_right_comm,
          Nat.add_assoc]

/-- Nodes without definitions are converted **one like the other**. -/
theorem value_convertAll_none (source : Text) (depth index : Nat) (ns : List Node) :
    (Node.convertAll source (fun _ => none) depth index ns).value =
      ns.map fun n => (n.convert source none depth).value := by
  induction ns generalizing index with
  | nil => rw [Node.convertAll]; rfl
  | cons n ns ih => rw [Node.convertAll, ih, List.map_cons]

/-- **The members of a group** are what became of the nodes at its indices. -/
theorem getElem?_groupsOf {a : Nat} (ha : 0 < a) (source : Text)
    (definitionAt : Nat → Option ArgumentDefinition) (depth : Nat) (ns : List Node) {g : Nat}
    (hg : g * a < ns.length) :
    (groupsOf (some a) (Node.convertAll source definitionAt depth 0 ns).value)[g]? =
      some ((List.range' (g * a) a).filterMap (convertedAt source definitionAt depth ns)) := by
  rw [groupsOf, List.getElem?_map, getElem?_chunks ha, length_convertAll, if_pos hg,
    Option.map_some, take_drop_eq_filterMap, List.filterMap_filterMap]
  congr 2
  funext i
  rw [getElem?_convertAll, Nat.zero_add, Option.bind_map, convertedAt]
  rfl

/-! ## Definitions with and without groups -/

/-- A definition **says what one group consists of**: it is of type `repeated`, and its repetition
lists at least one member. -/
def ArgumentDefinition.HasGroups (d : ArgumentDefinition) (members : List ArgumentDefinition) :
    Prop :=
  d.type = .repeated ∧ (∃ r, d.repetition = some r ∧ r.arguments = members) ∧ members ≠ []

/-- Groups are **unbounded** for one of four reasons. -/
inductive Unbounded : Option ArgumentDefinition → Prop
  /-- There is no definition. -/
  | undefined : Unbounded none
  /-- The argument takes no groups. -/
  | notRepeated {d : ArgumentDefinition} (h : d.type ≠ .repeated) : Unbounded (some d)
  /-- Nothing is said about its groups. -/
  | noRepetition {d : ArgumentDefinition} (h : d.repetition = none) : Unbounded (some d)
  /-- Its groups have no members. -/
  | noMembers {d : ArgumentDefinition} {r : Repetition ArgumentDefinition}
      (h : d.repetition = some r) (hmembers : r.arguments = []) : Unbounded (some d)

/-- Every definition **either says what a group consists of or leaves groups unbounded**. -/
theorem unbounded_or_hasGroups (definition : Option ArgumentDefinition) :
    Unbounded definition ∨ ∃ d members, definition = some d ∧ d.HasGroups members := by
  cases definition with
  | none => exact .inl .undefined
  | some d =>
      by_cases htype : d.type = .repeated
      · cases hrepetition : d.repetition with
        | none => exact .inl (.noRepetition hrepetition)
        | some r =>
            by_cases hmembers : r.arguments = []
            · exact .inl (.noMembers hrepetition hmembers)
            · exact .inr ⟨d, r.arguments, rfl, htype, ⟨r, hrepetition, rfl⟩, hmembers⟩
      · exact .inl (.notRepeated htype)

namespace ArgumentDefinition.HasGroups

variable {d : ArgumentDefinition} {members : List ArgumentDefinition}

theorem length_pos (h : d.HasGroups members) : 0 < members.length :=
  List.length_pos_iff.2 h.2.2

theorem groupArguments?_eq (h : d.HasGroups members) : d.groupArguments? = some members := by
  obtain ⟨htype, ⟨r, hrepetition, hmembers⟩, -⟩ := h
  have hrepeated : d.isRepeated = true := decide_eq_true htype
  rw [groupArguments?, if_pos hrepeated, hrepetition, Option.map_some, hmembers]

/-- The arity is **the number of members**. -/
theorem arity?_eq (h : d.HasGroups members) : d.arity? = some members.length := by
  rw [arity?, h.groupArguments?_eq, Option.map_some]
  exact Option.filter_some_pos (decide_eq_true h.length_pos)

/-- The members **take turns**. -/
theorem groupDefinition?_eq (h : d.HasGroups members) (i : Nat) :
    groupDefinition? (some d) i = members[i % members.length]? := by
  rw [groupDefinition?, Option.bind_eq_bind, Option.bind_some, h.arity?_eq, Option.bind_eq_bind,
    Option.bind_some, h.groupArguments?_eq, Option.getD_some]

/-- There is **always a member whose turn it is**. -/
theorem exists_member (h : d.HasGroups members) (i : Nat) :
    ∃ member, members[i % members.length]? = some member :=
  ⟨_, List.getElem?_eq_getElem (Nat.mod_lt i h.length_pos)⟩

end ArgumentDefinition.HasGroups

/-- Where groups are unbounded there is **no arity**. -/
theorem Unbounded.arity?_eq {definition : Option ArgumentDefinition} (h : Unbounded definition) :
    definition.bind ArgumentDefinition.arity? = none := by
  cases h with
  | undefined => rfl
  | @notRepeated d h =>
      have hnot : d.isRepeated = false := decide_eq_false h
      rw [Option.bind_some, ArgumentDefinition.arity?, ArgumentDefinition.groupArguments?, hnot]
      rfl
  | noRepetition h =>
      rw [Option.bind_some, ArgumentDefinition.arity?, ArgumentDefinition.groupArguments?, h,
        Option.map_none, ite_self]
      rfl
  | noMembers h hmembers =>
      rw [Option.bind_some, ArgumentDefinition.arity?, ArgumentDefinition.groupArguments?, h,
        Option.map_some, hmembers]
      split <;> rfl

/-- Where groups are unbounded **no node has a definition**. -/
theorem Unbounded.groupDefinition?_eq {definition : Option ArgumentDefinition}
    (h : Unbounded definition) : groupDefinition? definition = fun _ => none := by
  funext i
  cases definition with
  | none => rfl
  | some d =>
      have harity : d.arity? = none := h.arity?_eq
      rw [groupDefinition?, Option.bind_eq_bind, Option.bind_some, harity]
      rfl

/-! ## The groups of a repeated argument -/

/-- The groups that the nodes below a repeated argument fall into, at a depth. -/
def groupsBelow (source : Text) (definition : Option ArgumentDefinition) (depth : Nat)
    (children : List Node) : List (List Argument) :=
  groupsOf (definition.bind ArgumentDefinition.arity?)
    (Node.convertAll source (groupDefinition? definition) (depth + 1) 0 children).value

/-- A repeated argument of a level that is allowed **is converted to its groups**. -/
theorem value_convert_repeatArg (source : Text) (definition : Option ArgumentDefinition)
    {depth : Nat} (hdepth : depth < maxRepeatDepth) (span : Span) (children : List Node) :
    (Node.convert source definition depth ⟨.repeatArg, span, children⟩).value =
      some (.repeated (groupsBelow source definition depth children)) := by
  rw [Node.convert, if_pos rfl, if_pos hdepth]
  rfl

section Groups

variable {d : ArgumentDefinition} {members : List ArgumentDefinition}

/-- **How many groups there are**, and which nodes each of them holds. -/
theorem groupsBelow_of_hasGroups (h : d.HasGroups members) (source : Text) (depth : Nat)
    (children : List Node) :
    (groupsBelow source (some d) depth children).length =
        (children.length + members.length - 1) / members.length ∧
      ∀ g < (groupsBelow source (some d) depth children).length,
        (groupsBelow source (some d) depth children)[g]? =
          some ((List.range' (g * members.length) members.length).filterMap
            (convertedAt source (fun i => members[i % members.length]?) (depth + 1) children)) := by
  have hpos := h.length_pos
  have hgroups : groupsBelow source (some d) depth children =
      groupsOf (some members.length) (Node.convertAll source
        (fun i => members[i % members.length]?) (depth + 1) 0 children).value := by
    rw [groupsBelow, Option.bind_some, h.arity?_eq, funext h.groupDefinition?_eq]
  have hlength : (groupsBelow source (some d) depth children).length =
      (children.length + members.length - 1) / members.length := by
    rw [hgroups, groupsOf, List.length_map, length_chunks hpos, length_convertAll]
  refine ⟨hlength, fun g hg => ?_⟩
  -- a group that is there begins at a node
  have hbegins : g * members.length < children.length := by
    rw [hlength, Nat.lt_div_iff_mul_lt hpos] at hg
    omega
  rw [hgroups]
  exact getElem?_groupsOf hpos source _ (depth + 1) children hbegins

/-- When no node is dropped and the groups come out even, **all groups are full**. -/
theorem groupsBelow_of_full (h : d.HasGroups members) (source : Text) (depth : Nat)
    {children : List Node} {k : Nat} (hlength : children.length = k * members.length)
    (hkept : ∀ i < children.length,
      convertedAt source (fun i => members[i % members.length]?) (depth + 1) children i ≠ none) :
    (groupsBelow source (some d) depth children).length = k ∧
      ∀ group ∈ groupsBelow source (some d) depth children, group.length = members.length := by
  have hpos := h.length_pos
  obtain ⟨hcount, hgroup⟩ := groupsBelow_of_hasGroups h source depth children
  have hk : (groupsBelow source (some d) depth children).length = k := by
    rw [hcount, hlength, Nat.add_sub_assoc hpos, Nat.add_comm, Nat.add_mul_div_right _ _ hpos,
      Nat.div_eq_of_lt (by omega), Nat.zero_add]
  refine ⟨hk, fun group hmem => ?_⟩
  obtain ⟨g, hg⟩ := List.getElem?_of_mem hmem
  have hlt : g < (groupsBelow source (some d) depth children).length :=
    (List.getElem?_eq_some_iff.1 hg).1
  rw [hgroup g hlt, Option.some.injEq] at hg
  rw [hk] at hlt
  -- every index of the group is that of a node which was kept
  have hend : (g + 1) * members.length ≤ k * members.length := Nat.mul_le_mul_right _ hlt
  rw [Nat.succ_mul] at hend
  rw [← hg, List.length_filterMap_eq_countP, List.countP_eq_length.2, List.length_range']
  intro i hi
  rw [List.mem_range'_1] at hi
  exact Option.isSome_iff_ne_none.2 (hkept i (by omega))

end Groups

/-- Where groups are unbounded **all nodes are in one group**, and no nodes in none. -/
theorem groupsBelow_of_unbounded {definition : Option ArgumentDefinition}
    (h : Unbounded definition) (source : Text) (depth : Nat) (children : List Node) :
    groupsBelow source definition depth children =
      if children = [] then []
      else [children.filterMap fun n => (n.convert source none (depth + 1)).value] := by
  rw [groupsBelow, h.arity?_eq, h.groupDefinition?_eq, groupsOf, value_convertAll_none]
  cases children with
  | nil => rfl
  | cons n ns =>
      rw [if_neg (List.cons_ne_nil n ns), List.filterMap_map]
      rfl

/-- **The groups of a repeated argument are cut by position.** At a level that is allowed, as an
argument of its own or within others, it is converted to groups, the same that a converter begins and
fills node by node. When its definition lists the members of a group, there are as many groups as it takes
to hold all nodes; each holds what became of the nodes at its own indices, in order and without the dropped
ones, and the node at an index is converted with the member whose turn it is. When the definition leaves
groups unbounded, all nodes are in one group, each converted without a definition, and no nodes are in
none. -/
theorem groups_by_position (source : Text) (definition : Option ArgumentDefinition) {depth : Nat}
    (hdepth : depth < maxRepeatDepth) (children : List Node) :
    (Unbounded definition ∨ ∃ d members, definition = some d ∧ d.HasGroups members) ∧
    ∃ groups : List (List Argument),
      (∀ span, (Node.convert source definition depth ⟨.repeatArg, span, children⟩).value =
        some (.repeated groups)) ∧
      (depth = 0 → ∀ kind span,
        (Node.repeatedArgument source definition ⟨kind, span, children⟩).value =
          .repeated groups) ∧
      (∀ c : Converter, c.source = source →
        (c.walkGroups definition (depth + 1) 0 [] children).1 = groups) ∧
      (∀ d members, definition = some d → d.HasGroups members →
        d.arity? = some members.length ∧ 0 < members.length ∧
        (∀ i : Nat, ∃ member, members[i % members.length]? = some member) ∧
        groups.length = (children.length + members.length - 1) / members.length ∧
        (∀ g < groups.length,
          groups[g]? = some ((List.range' (g * members.length) members.length).filterMap
            (convertedAt source (fun i => members[i % members.length]?) (depth + 1) children))) ∧
        ∀ k, children.length = k * members.length →
          (∀ i < children.length,
            convertedAt source (fun i => members[i % members.length]?) (depth + 1) children i ≠
              none) →
          groups.length = k ∧ ∀ group ∈ groups, group.length = members.length) ∧
      (Unbounded definition →
        definition.bind ArgumentDefinition.arity? = none ∧
        groups = if children = [] then []
          else [children.filterMap fun n => (n.convert source none (depth + 1)).value]) := by
  refine ⟨unbounded_or_hasGroups definition, groupsBelow source definition depth children,
    fun span => value_convert_repeatArg source definition hdepth span children, ?_, ?_, ?_, ?_⟩
  · rintro rfl kind span
    rfl
  · rintro c rfl
    rw [Converter.walkGroups_eq_groupsOf]
    rfl
  · rintro d members rfl h
    obtain ⟨hlength, hgroup⟩ := groupsBelow_of_hasGroups h source depth children
    exact ⟨h.arity?_eq, h.length_pos, h.exists_member, hlength, hgroup,
      fun k hk hkept => groupsBelow_of_full h source depth hk hkept⟩
  · intro h
    exact ⟨h.arity?_eq, groupsBelow_of_unbounded h source depth children⟩

/-- The definition of a repeated argument with groups of two: a number, and a repeated argument about
which nothing is said. -/
def pairDefinition : ArgumentDefinition :=
  ⟨[], .repeated, none,
    some ⟨[⟨[], .integer, none, none⟩, ⟨[], .repeated, none, none⟩], none, none⟩⟩

/-- The nodes of `1 ? 3 [4]`, of which the second is an error of the grammar. -/
def mixedNodes : List Node :=
  [⟨.number, ⟨0, 1⟩, []⟩, ⟨.error, ⟨2, 3⟩, []⟩, ⟨.number, ⟨4, 5⟩, []⟩,
    ⟨.repeatArg, ⟨6, 9⟩, [⟨.number, ⟨7, 8⟩, []⟩]⟩]

/-- **A dropped node leaves its place empty**: the first group is short, and the second begins where it
would have begun. The last two nodes alone make one full group, and without a definition all nodes are
in one. -/
theorem groups_by_position_droppedMember :
    (∃ groups, (Node.convert "1 ? 3 [4]".toList (some pairDefinition) 0
          ⟨.repeatArg, ⟨0, 9⟩, mixedNodes⟩).value = some (.repeated groups) ∧
        groups.length = 2 ∧ groups[0]? = some [.scalar ['1']] ∧
          groups[1]? = some [.scalar ['3'], .repeated [[.scalar ['4']]]]) ∧
      (∃ groups, (Node.convert "1 ? 3 [4]".toList (some pairDefinition) 6
          ⟨.repeatArg, ⟨0, 9⟩, mixedNodes.drop 2⟩).value = some (.repeated groups) ∧
        groups.length = 1 ∧ ∀ group ∈ groups, group.length = 2) ∧
      ∃ groups, (Node.repeatedArgument "1 ? 3 [4]".toList none
          ⟨.args, ⟨0, 9⟩, mixedNodes⟩).value = .repeated groups ∧
        groups = [[.scalar ['1'], .scalar ['3'], .repeated [[.scalar ['4']]]]] := by
  have hgroups : pairDefinition.HasGroups
      [⟨[], .integer, none, none⟩, ⟨[], .repeated, none, none⟩] :=
    ⟨rfl, ⟨_, rfl, rfl⟩, List.cons_ne_nil _ _⟩
  refine ⟨?_, ?_, ?_⟩
  · obtain ⟨-, groups, hvalue, -, -, hpositions, -⟩ := groups_by_position "1 ? 3 [4]".toList
      (some pairDefinition) (show 0 < maxRepeatDepth by decide) mixedNodes
    obtain ⟨-, -, -, hlength, hgroup, -⟩ := hpositions _ _ rfl hgroups
    refine ⟨groups, hvalue _, hlength, ?_, ?_⟩
    · rw [hgroup 0 (by rw [hlength]; decide)]
      rfl
    · rw [hgroup 1 (by rw [hlength]; decide)]
      rfl
  · obtain ⟨-, groups, hvalue, -, -, hpositions, -⟩ := groups_by_position "1 ? 3 [4]".toList
      (some pairDefinition) (show 6 < maxRepeatDepth by decide) (mixedNodes.drop 2)
    obtain ⟨-, -, -, -, -, hfull⟩ := hpositions _ _ rfl hgroups
    refine ⟨groups, hvalue _, hfull 1 rfl fun i hi => ?_⟩
    -- both nodes are kept, the inner one at the deepest level that is allowed
    match i, hi with
    | 0, _ => exact Option.some_ne_none _
    | 1, _ => exact Option.some_ne_none _
  · obtain ⟨-, groups, -, hvalue, -, -, hunbounded⟩ := groups_by_position "1 ? 3 [4]".toList
      none (show 0 < maxRepeatDepth by decide) mixedNodes
    exact ⟨groups, hvalue rfl _ _, (hunbounded .undefined).2⟩

end SequenceBridge
