import SequenceBridge.Text.Basic

/-! # YAML nodes
What a YAML text says is a node: a scalar, a sequence, a mapping, or an alias for a node that is
named elsewhere.

* **`Yaml`** — a node; anchors and aliases refer to each other by values of some type.
* **`Yaml.Properties`** — the anchor and the tag of a node.
-/

namespace SequenceBridge

/-- The **properties** of a node: the anchor by which aliases name it, and its tag. -/
structure Yaml.Properties (ref : Type) where
  anchor : Option ref := none
  tag : Option Text := none
  deriving DecidableEq, Repr

/-- A **YAML node**. A scalar knows whether it is plain, which means that it stands there without
quotes. -/
inductive Yaml (ref : Type)
  | scalar (properties : Yaml.Properties ref) (isPlain : Bool) (text : Text)
  | sequence (properties : Yaml.Properties ref) (items : List (Yaml ref))
  | mapping (properties : Yaml.Properties ref) (entries : List (Yaml ref × Yaml ref))
  | alias (target : ref)
  deriving Repr

namespace Yaml

namespace Properties

/-- Whether a node has no properties. -/
def isEmpty {ref : Type} (p : Properties ref) : Bool := p.anchor.isNone && p.tag.isNone

/-- Properties from two places together; none when both have an anchor, or both a tag. -/
def merge? {ref : Type} (p q : Properties ref) : Option (Properties ref) :=
  if (p.anchor.isSome && q.anchor.isSome) || (p.tag.isSome && q.tag.isSome) then none
  else some ⟨p.anchor.or q.anchor, p.tag.or q.tag⟩

end Properties

/-- A plain scalar without any text, which stands for a missing node. -/
def missing {ref : Type} (p : Properties ref) : Yaml ref := .scalar p true []

end Yaml

end SequenceBridge
