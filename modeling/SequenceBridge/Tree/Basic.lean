import SequenceBridge.Text.Slice
import SequenceBridge.Tree.Kind

/-! # Syntax trees
A SeqN document comes with its syntax tree: nodes with a kind, the span of source text they cover,
and their children in document order. The root of the tree stands for the whole document.

* **`Node`** — a node with everything below it.
* **`Node.text?`** — the source text that a node covers.
* **`Node.child?`** — the first direct child of a kind.
* **`Node.preorder`** — a node and everything below it, parents first.
-/

namespace SequenceBridge

/-- A **node** of a syntax tree. -/
structure Node where
  kind : Kind
  span : Span
  children : List Node
  deriving Repr

namespace Node

/-- The **source text** that a node covers; none when its span has no slice. -/
def text? (n : Node) (source : Text) : Option Text := source.slice? n.span

/-- The first direct child of a kind. -/
def child? (n : Node) (k : Kind) : Option Node := n.children.find? (·.kind = k)

/-- All direct children of a kind. -/
def childrenOf (n : Node) (k : Kind) : List Node := n.children.filter (·.kind = k)

/-- The `Commands` block directly below the root, if there is one. -/
def commandBlock? (root : Node) : Option Node := root.child? .commands

mutual

/-- A node and everything below it, parents first. -/
def preorder : Node → List Node
  | ⟨kind, span, children⟩ => ⟨kind, span, children⟩ :: preorderAll children

/-- Some nodes and everything below them, parents first. -/
def preorderAll : List Node → List Node
  | [] => []
  | n :: ns => n.preorder ++ preorderAll ns

end

end Node

end SequenceBridge
