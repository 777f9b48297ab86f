import SequenceBridge.Tree.Basic

/-! # Commands and their parts
A command node holds its parts as children: a time tag, a stem, arguments and a trailing comment.
Of several children of one kind only the first counts.

* **`Command`** — a node whose kind says that it is a command.
* **`Node.commands`** — the commands of a document, in order.
* **`TimeForm`** — the form of time that a time tag carries.
-/

namespace SequenceBridge

/-- A **command**: a node of that kind. -/
structure Command where
  node : Node
  isCommand : node.kind = .command

/-- A node as a command, when it is one. -/
def Node.asCommand? (n : Node) : Option Command :=
  if h : n.kind = .command then some ⟨n, h⟩ else none

/-- The **steps** of a document: what stands in its `Commands` block, nothing when it has none. -/
def Node.steps (root : Node) : List Node := (root.commandBlock?.map Node.children).getD []

/-- The **commands** of a document, in order: those among its steps. -/
def Node.commands (root : Node) : List Command := root.steps.filterMap Node.asCommand?

namespace Command

/-- The time tag of a command. -/
def timeTag? (c : Command) : Option Node := c.node.child? .timeTag

/-- The stem of a command: the name under which the dictionary knows it. -/
def stem? (c : Command) : Option Node := c.node.child? .stem

/-- The node that holds the arguments of a command. -/
def args? (c : Command) : Option Node := c.node.child? .args

/-- The comment at the end of a command. -/
def comment? (c : Command) : Option Node := c.node.child? .lineComment

end Command

/-- The **form of time** that a time tag carries, with the node that holds it. -/
inductive TimeForm
  | absolute (node : Node)
  | relative (node : Node)
  | complete (node : Node)
  | epoch (node : Node)

namespace TimeForm

/-- The node that holds the time. -/
def node : TimeForm → Node
  | .absolute n | .relative n | .complete n | .epoch n => n

/-- The form of a time tag. Absolute goes before relative, relative before complete, and complete
before epoch, wherever they stand in the tag. -/
def ofTag? (tag : Node) : Option TimeForm :=
  (tag.child? .timeAbsolute).map absolute
    <|> (tag.child? .timeRelative).map relative
    <|> (tag.child? .timeComplete).map complete
    <|> (tag.child? .timeEpoch).map epoch

/-- The form that FPrime cannot express, when a time tag holds one: complete before epoch, whatever
other forms stand beside it. -/
def unsupported? (tag : Node) : Option Node :=
  tag.child? .timeComplete <|> tag.child? .timeEpoch

end TimeForm

end SequenceBridge
