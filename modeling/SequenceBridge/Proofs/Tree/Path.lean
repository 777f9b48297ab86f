import SequenceBridge.Tree.Basic

/-! # Paths through a syntax tree
A path goes from a node down to a leaf, one child after another. The height of a node is the length of
its longest path; it is computed over the tree, the paths are not listed for it.

* **`Node.IsPath`** — the nodes on a way from a node to a leaf.
* **`Node.height`** — the number of nodes on the longest path.
* **`Node.height_le_iff`** — a bound on the height is a bound on every path.
-/

namespace SequenceBridge

namespace Node

/-- A **path** from a node to a leaf, both of them on it. -/
inductive IsPath : Node → List Node → Prop
  /-- A leaf is a path of its own. -/
  | leaf {n : Node} (h : n.children = []) : IsPath n [n]
  /-- From any other node the path goes on at one of its children. -/
  | step {n child : Node} {below : List Node} (hchild : child ∈ n.children)
      (hbelow : IsPath child below) : IsPath n (n :: below)

mutual

/-- The **height** of a node, the number of nodes on its longest path. -/
def height : Node → Nat
  | ⟨_, _, children⟩ => heightAll children + 1

/-- The height of the highest of some nodes, zero when there is none. -/
def heightAll : List Node → Nat
  | [] => 0
  | n :: ns => max n.height (heightAll ns)

end

theorem height_eq (n : Node) : n.height = heightAll n.children + 1 := by
  cases n
  rw [height]

/-- No node of some is higher than the highest. -/
theorem height_le_heightAll {n : Node} {ns : List Node} (h : n ∈ ns) :
    n.height ≤ heightAll ns := by
  induction ns with
  | nil => cases h
  | cons m ms ih =>
      rw [heightAll]
      rcases List.mem_cons.1 h with rfl | h
      · exact Nat.le_max_left ..
      · exact Nat.le_trans (ih h) (Nat.le_max_right ..)

/-- One of some nodes is the highest. -/
theorem exists_height_eq_heightAll (n : Node) (ns : List Node) :
    ∃ highest ∈ n :: ns, highest.height = heightAll (n :: ns) := by
  induction ns generalizing n with
  | nil => exact ⟨n, List.mem_cons_self, by rw [heightAll, heightAll, Nat.max_zero]⟩
  | cons m ms ih =>
      obtain ⟨highest, hmem, hheight⟩ := ih m
      rw [heightAll, ← hheight]
      rcases Nat.le_total n.height highest.height with hle | hle
      · exact ⟨highest, List.mem_cons_of_mem n hmem, (Nat.max_eq_right hle).symm⟩
      · exact ⟨n, List.mem_cons_self, (Nat.max_eq_left hle).symm⟩

/-- **No path** has more nodes than the height. -/
theorem IsPath.length_le_height {n : Node} {p : List Node} (h : n.IsPath p) :
    p.length ≤ n.height := by
  induction h with
  | leaf => rw [height_eq]; exact Nat.succ_le_succ (Nat.zero_le _)
  | step hchild _ ih =>
      rw [height_eq, List.length_cons]
      exact Nat.succ_le_succ (Nat.le_trans ih (height_le_heightAll hchild))

mutual

/-- **Some path** has as many nodes as the height. -/
theorem exists_isPath : ∀ n : Node, ∃ p, n.IsPath p ∧ p.length = n.height
  | ⟨kind, span, []⟩ => ⟨[⟨kind, span, []⟩], .leaf rfl, by rw [height_eq]; rfl⟩
  | ⟨kind, span, child :: children⟩ => by
      obtain ⟨highest, hmem, hheight⟩ := exists_height_eq_heightAll child children
      obtain ⟨p, hp, hlength⟩ := exists_isPath_of_mem (child :: children) highest hmem
      refine ⟨⟨kind, span, child :: children⟩ :: p, .step hmem hp, ?_⟩
      rw [height_eq, List.length_cons, hlength, hheight]

/-- So it is for each of some nodes. -/
theorem exists_isPath_of_mem :
    ∀ (ns : List Node), ∀ n ∈ ns, ∃ p, n.IsPath p ∧ p.length = n.height
  | [], _, h => absurd h List.not_mem_nil
  | m :: ms, n, h => by
      have hm := exists_isPath m
      rcases List.mem_cons.1 h with rfl | h
      · exact hm
      · exact exists_isPath_of_mem ms n h

end

/-- A bound on the height is a **bound on every path**. -/
theorem height_le_iff {n : Node} {most : Nat} :
    n.height ≤ most ↔ ∀ p, n.IsPath p → p.length ≤ most := by
  constructor
  · exact fun h p hp => Nat.le_trans hp.length_le_height h
  · intro h
    obtain ⟨p, hp, hlength⟩ := exists_isPath n
    exact hlength ▸ h p hp

end Node

end SequenceBridge
