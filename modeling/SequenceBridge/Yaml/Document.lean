import SequenceBridge.Yaml.Block
import SequenceBridge.Yaml.Directive

/-! # YAML documents
A text holds one document, with marks at its beginning and its end or without. An alias stands for
the node that its anchor names; an anchor that comes again names another node from there on.

* **`Yaml.ofText?`** — the node that a text says, anchors and aliases by name.
* **`Yaml.number?`** — a node with its anchors and aliases numbered.
* **`Yaml.Document`** — a numbered node with everything that aliases can name.
* **`Yaml.Document.ofText?`** — the document that a text holds.
-/

namespace SequenceBridge

namespace Yaml

/-- Whether nothing comes behind a document but marks of its end. There are no more of them than
steps. -/
def isOver : Nat → Cursor → Bool
  | 0, _ => false
  | n + 1, before =>
    let c := before.skipGap false
    c.rest.isEmpty ||
      (c.column = 0 && closesDocument c.rest && isOver n ((c.skip 3).withKeys false))

/-- The node of a document from behind its directives on. A document that begins with its mark may
be empty; where there are directives the mark is needed. -/
def content? (steps : Nat) (d : Directives) (c : Cursor) : NodeReading :=
  let ctx : Context := ⟨d.handles ++ defaultHandles, 0⟩
  if c.column = 0 && opensDocument c.rest then
    blockNode steps ctx false {} ((c.skip 3).withKeys false)
  else if d.isAny || (c.column = 0 && closesDocument c.rest) then none
  else blockNode steps ctx false {} c

/-- The node that a **text** says. A byte order mark in front of it takes up a column. -/
def ofText? (t : Text) : Option (Yaml Text) :=
  if t.all isAllowed then
    let steps := 4 * t.length + 16
    let start := Cursor.ofText (unified t)
    let first := if start.sees '\ufeff' then start.next else start
    (directives? steps {} (first.skipGap false)).bind fun directives =>
      (content? steps directives.1 directives.2).bind fun node =>
        if isOver steps node.2 then some node.1 else none
  else none

/-! ## Anchors -/

/-- The **anchors** that have been read, each name with the number of its last node. -/
abbrev Anchors := List (Text × Nat)

namespace Anchors

/-- The number of the node that a name stands for. -/
def get? (anchors : Anchors) (name : Text) : Option Nat :=
  (anchors.find? fun a => a.1 = name).map (·.2)

/-- The anchors with one more node. Its number is the number of names so far, so that a name that
comes again may take the number of another one. -/
def add (anchors : Anchors) (name : Text) : Anchors :=
  (name, anchors.length) :: anchors.filter fun a => a.1 ≠ name

end Anchors

/-- The anchors behind the properties of a node. -/
def Properties.register (p : Properties Text) (anchors : Anchors) : Anchors :=
  match p.anchor with
  | none => anchors
  | some name => anchors.add name

/-- The properties of a node with its anchor numbered, given the anchors before it. -/
def Properties.number (p : Properties Text) (anchors : Anchors) : Properties Nat :=
  ⟨p.anchor.map fun _ => anchors.length, p.tag⟩

mutual

/-- A node with its anchors and aliases **numbered**, from the outside in and from left to right;
none when an alias names nothing in front of it. -/
def number? : Yaml Text → Anchors → Option (Yaml Nat × Anchors)
  | .scalar p isPlain t, anchors => some (.scalar (p.number anchors) isPlain t, p.register anchors)
  | .alias name, anchors => (anchors.get? name).map fun k => (.alias k, anchors)
  | .sequence p items, anchors =>
    (numberItems? items (p.register anchors)).map fun found =>
      (.sequence (p.number anchors) found.1, found.2)
  | .mapping p entries, anchors =>
    (numberEntries? entries (p.register anchors)).map fun found =>
      (.mapping (p.number anchors) found.1, found.2)

/-- Some nodes with their anchors and aliases numbered. -/
def numberItems? : List (Yaml Text) → Anchors → Option (List (Yaml Nat) × Anchors)
  | [], anchors => some ([], anchors)
  | y :: ys, anchors =>
    (number? y anchors).bind fun first =>
      (numberItems? ys first.2).map fun rest => (first.1 :: rest.1, rest.2)

/-- Some entries with their anchors and aliases numbered, each key before its value. -/
def numberEntries? :
    List (Yaml Text × Yaml Text) → Anchors → Option (List (Yaml Nat × Yaml Nat) × Anchors)
  | [], anchors => some ([], anchors)
  | (key, value) :: entries, anchors =>
    (number? key anchors).bind fun key =>
      (number? value key.2).bind fun value =>
        (numberEntries? entries value.2).map fun rest => ((key.1, value.1) :: rest.1, rest.2)

end

mutual

/-- The **nodes with an anchor**, each with its number, from the outside in and from left to
right. -/
def anchored : Yaml Nat → List (Nat × Yaml Nat)
  | .scalar p isPlain t => p.anchor.toList.map fun k => (k, .scalar p isPlain t)
  | .alias _ => []
  | .sequence p items =>
    (p.anchor.toList.map fun k => (k, .sequence p items)) ++ anchoredItems items
  | .mapping p entries =>
    (p.anchor.toList.map fun k => (k, .mapping p entries)) ++ anchoredEntries entries

/-- The nodes with an anchor in some nodes. -/
def anchoredItems : List (Yaml Nat) → List (Nat × Yaml Nat)
  | [] => []
  | y :: ys => anchored y ++ anchoredItems ys

/-- The nodes with an anchor in some entries. -/
def anchoredEntries : List (Yaml Nat × Yaml Nat) → List (Nat × Yaml Nat)
  | [] => []
  | (key, value) :: entries => anchored key ++ anchored value ++ anchoredEntries entries

end

mutual

/-- The **size** of a node: one for a scalar or an alias, two for a collection, with the sizes of all
nodes in it. -/
def size {ref : Type} : Yaml ref → Nat
  | .scalar _ _ _ => 1
  | .alias _ => 1
  | .sequence _ items => 2 + sizeItems items
  | .mapping _ entries => 2 + sizeEntries entries

/-- The sizes of some nodes. -/
def sizeItems {ref : Type} : List (Yaml ref) → Nat
  | [] => 0
  | y :: ys => size y + sizeItems ys

/-- The sizes of some entries. -/
def sizeEntries {ref : Type} : List (Yaml ref × Yaml ref) → Nat
  | [] => 0
  | (key, value) :: entries => size key + size value + sizeEntries entries

end

/-- A **document**: its node, and the nodes that aliases can name, later ones first. -/
structure Document where
  root : Yaml Nat
  targets : List (Nat × Yaml Nat)
  deriving Repr

namespace Document

/-- The document that a text holds. -/
def ofText? (t : Text) : Option Document :=
  (Yaml.ofText? t).bind fun node =>
    (number? node []).map fun numbered => ⟨numbered.1, (anchored numbered.1).reverse⟩

/-- The node that an alias stands for. Of several nodes with one number it is the last. -/
def target? (d : Document) (k : Nat) : Option (Yaml Nat) :=
  (d.targets.find? fun target => target.1 = k).map (·.2)

end Document

end Yaml

end SequenceBridge
