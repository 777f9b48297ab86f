import SequenceBridge.Proofs.Text.Slice
import SequenceBridge.Proofs.Tree.Child

/-! # Trees with other spans
A tree whose nodes lie elsewhere is still the same tree as far as kinds and children go: what is found
in it are the same nodes, with their new spans. What they cover may be the same as well, in another
source; so it is for a tree that is moved by the bytes of a text in front.

* **`Node.mapSpan`** — a tree with a change made to the span of every node.
* **`Node.EverySpan`** — a property of the spans of all nodes of a tree.
* **`child?_mapSpan`**, **`steps_mapSpan`**, **`commands_mapSpan`** — what is found in such a tree.
* **`Node.KeepsSlices`** — every node covers in another source what it covered before.
* **`Node.keepsSlices_moved`** — a tree behind a text does.
-/

namespace SequenceBridge

/-! ## Other spans -/

namespace Node

mutual

/-- A tree with a **change made to the span** of every node. -/
def mapSpan (f : Span → Span) : Node → Node
  | ⟨kind, span, children⟩ => ⟨kind, f span, mapSpans f children⟩

/-- Some trees with a change made to the span of every node. -/
def mapSpans (f : Span → Span) : List Node → List Node
  | [] => []
  | n :: ns => n.mapSpan f :: mapSpans f ns

end

variable (f : Span → Span) (n : Node)

@[simp] theorem mapSpan_kind : (n.mapSpan f).kind = n.kind := by
  cases n
  rw [mapSpan]

@[simp] theorem mapSpan_span : (n.mapSpan f).span = f n.span := by
  cases n
  rw [mapSpan]

theorem mapSpans_eq_map (ns : List Node) : mapSpans f ns = ns.map (mapSpan f) := by
  induction ns with
  | nil => simp [mapSpans]
  | cons n ns ih => simp [mapSpans, ih]

@[simp] theorem mapSpan_children : (n.mapSpan f).children = n.children.map (mapSpan f) := by
  cases n
  rw [mapSpan, mapSpans_eq_map]

/-- A property of **the spans of all nodes** of a tree. -/
def EverySpan (p : Span → Prop) (n : Node) : Prop := ∀ m ∈ n.preorder, p m.span

theorem mem_preorderAll {m : Node} {ns : List Node} :
    m ∈ preorderAll ns ↔ ∃ n ∈ ns, m ∈ n.preorder := by
  induction ns with
  | nil => simp [preorderAll]
  | cons n ns ih => simp [preorderAll, ih]

/-- The nodes of a tree are the node itself and the nodes of its children. -/
theorem mem_preorder_iff {m n : Node} :
    m ∈ n.preorder ↔ m = n ∨ ∃ child ∈ n.children, m ∈ child.preorder := by
  cases n
  rw [preorder, List.mem_cons, mem_preorderAll]

theorem everySpan_iff {p : Span → Prop} {n : Node} :
    n.EverySpan p ↔ p n.span ∧ ∀ child ∈ n.children, child.EverySpan p := by
  constructor
  · intro h
    exact ⟨h n (mem_preorder_iff.2 (.inl rfl)), fun child hchild m hm =>
      h m (mem_preorder_iff.2 (.inr ⟨child, hchild, hm⟩))⟩
  · rintro ⟨hself, hchildren⟩ m hm
    rcases mem_preorder_iff.1 hm with rfl | ⟨child, hchild, hm⟩
    · exact hself
    · exact hchildren child hchild m hm

namespace EverySpan

variable {p : Span → Prop} {n : Node}

theorem self (h : n.EverySpan p) : p n.span := (everySpan_iff.1 h).1

theorem of_mem (h : n.EverySpan p) {child : Node} (hchild : child ∈ n.children) :
    child.EverySpan p :=
  (everySpan_iff.1 h).2 child hchild

theorem child (h : n.EverySpan p) {k : Kind} {m : Node} (hm : n.child? k = some m) :
    m.EverySpan p :=
  h.of_mem (child?_eq_some_iff.1 hm).mem

/-- The steps of a document stand two levels below its root. -/
theorem step (h : n.EverySpan p) {m : Node} (hm : m ∈ n.steps) : m.EverySpan p := by
  rw [steps, commandBlock?] at hm
  cases hblock : n.child? .commands with
  | none => rw [hblock] at hm; exact absurd hm List.not_mem_nil
  | some block => rw [hblock] at hm; exact (h.child hblock).of_mem hm

theorem command (h : n.EverySpan p) {c : Command} (hc : c ∈ n.commands) : c.node.EverySpan p := by
  obtain ⟨m, hm, hstep⟩ := List.mem_filterMap.1 hc
  exact asCommand?_eq_some_iff.1 hstep ▸ h.step hm

/-- The node of a form of time stands below its tag. -/
theorem timeForm (h : n.EverySpan p) {form : TimeForm} (hform : TimeForm.ofTag? n = some form) :
    form.node.EverySpan p := by
  simp only [TimeForm.ofTag?, Option.orElse_eq_orElse, Option.orElse_eq_or, Option.or_eq_some_iff,
    Option.map_eq_some_iff] at hform
  -- whichever form it is, its node was found among the children of the tag
  rcases hform with ⟨m, hm, rfl⟩ | ⟨-, ⟨m, hm, rfl⟩ | ⟨-, ⟨m, hm, rfl⟩ | ⟨-, m, hm, rfl⟩⟩⟩
  · exact h.child hm
  · exact h.child hm
  · exact h.child hm
  · exact h.child hm

end EverySpan

end Node

/-! ## What is found in such a tree -/

/-- A command with a change made to all its spans. -/
def Command.mapSpan (f : Span → Span) (c : Command) : Command :=
  ⟨c.node.mapSpan f, (Node.mapSpan_kind f c.node).trans c.isCommand⟩

@[simp] theorem mapSpan_node (f : Span → Span) (c : Command) :
    (c.mapSpan f).node = c.node.mapSpan f := rfl

/-- A form of time with a change made to all spans of its node. -/
def TimeForm.mapSpan (f : Span → Span) : TimeForm → TimeForm
  | .absolute n => .absolute (n.mapSpan f)
  | .relative n => .relative (n.mapSpan f)
  | .complete n => .complete (n.mapSpan f)
  | .epoch n => .epoch (n.mapSpan f)

section

variable (f : Span → Span)

/-- **The first child of a kind** is the same one. -/
theorem child?_mapSpan (n : Node) (k : Kind) :
    (n.mapSpan f).child? k = (n.child? k).map (Node.mapSpan f) := by
  rw [Node.child?, Node.child?, Node.mapSpan_children, List.find?_map]
  simp only [Function.comp_def, Node.mapSpan_kind]

@[simp] theorem timeTag?_mapSpan (c : Command) :
    (c.mapSpan f).timeTag? = c.timeTag?.map (Node.mapSpan f) :=
  child?_mapSpan f c.node .timeTag

@[simp] theorem stem?_mapSpan (c : Command) :
    (c.mapSpan f).stem? = c.stem?.map (Node.mapSpan f) :=
  child?_mapSpan f c.node .stem

@[simp] theorem args?_mapSpan (c : Command) :
    (c.mapSpan f).args? = c.args?.map (Node.mapSpan f) :=
  child?_mapSpan f c.node .args

@[simp] theorem comment?_mapSpan (c : Command) :
    (c.mapSpan f).comment? = c.comment?.map (Node.mapSpan f) :=
  child?_mapSpan f c.node .lineComment

theorem asCommand?_mapSpan (n : Node) :
    (n.mapSpan f).asCommand? = n.asCommand?.map (Command.mapSpan f) := by
  by_cases hk : n.kind = .command <;> simp [Node.asCommand?, hk, Command.mapSpan]

/-- **The steps of a document** are the same ones. -/
theorem steps_mapSpan (root : Node) :
    (root.mapSpan f).steps = root.steps.map (Node.mapSpan f) := by
  rw [Node.steps, Node.steps, Node.commandBlock?, Node.commandBlock?, child?_mapSpan]
  cases root.child? .commands <;> simp

/-- **The commands of a document** are the same ones. -/
theorem commands_mapSpan (root : Node) :
    (root.mapSpan f).commands = root.commands.map (Command.mapSpan f) := by
  rw [Node.commands, Node.commands, steps_mapSpan, List.filterMap_map, List.map_filterMap]
  exact congrArg (root.steps.filterMap ·) (funext (asCommand?_mapSpan f))

theorem ofTag?_mapSpan (tag : Node) :
    TimeForm.ofTag? (tag.mapSpan f) = (TimeForm.ofTag? tag).map (TimeForm.mapSpan f) := by
  simp only [TimeForm.ofTag?, child?_mapSpan]
  cases tag.child? .timeAbsolute <;> cases tag.child? .timeRelative <;>
    cases tag.child? .timeComplete <;> cases tag.child? .timeEpoch <;> rfl

theorem unsupported?_mapSpan (tag : Node) :
    TimeForm.unsupported? (tag.mapSpan f) =
      (TimeForm.unsupported? tag).map (Node.mapSpan f) := by
  simp only [TimeForm.unsupported?, child?_mapSpan]
  cases tag.child? .timeComplete <;> cases tag.child? .timeEpoch <;> rfl

end

/-! ## Sources in which trees cover the same -/

/-- A change of spans **keeps the slices** of a tree, from one source to another, when every node covers
the same text in both, or none in either. -/
def Node.KeepsSlices (f : Span → Span) (source other : Text) (n : Node) : Prop :=
  n.EverySpan fun span => other.slice? (f span) = source.slice? span

theorem text?_mapSpan {f : Span → Span} {source other : Text} {n : Node}
    (h : n.KeepsSlices f source other) : (n.mapSpan f).text? other = n.text? source := by
  rw [Node.text?, Node.text?, Node.mapSpan_span]
  exact h.self

/-- Moving a tree by the bytes of a text in front **keeps its slices**. -/
theorem Node.keepsSlices_moved {before source : Text} {n : Node}
    (h : n.EverySpan (Span.CanMove before.byteLength)) :
    n.KeepsSlices (Span.moved before.byteLength) source (before ++ source) :=
  fun m hm => Text.slice?_append before source (h m hm)

end SequenceBridge
