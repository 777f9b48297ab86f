import SequenceBridge.Export

/-! # Steps and their lines
Of the steps of a document only commands and comments have a line. Seen as a list of those steps, a
document is exported by writing one line for each.

* **`Step`** — a step that has a line.
* **`Node.writtenSteps`** — the steps of a document that have one, in order.
* **`exportTree_text`** — the exported text is their lines.
* **`commands_eq`** — the commands of a document are those among its written steps.
-/

namespace SequenceBridge

/-- A **step that has a line**: a command, or a comment that stands by itself. -/
inductive Step
  | command (c : Command)
  | comment (n : Node)

namespace Step

/-- The command of a step. -/
def command? : Step → Option Command
  | .command c => some c
  | .comment _ => none

/-- The line of a step, with its warnings. -/
def line (source : Text) (dictionary : Option Dictionary) : Step → Noted Text
  | .command c => exportCommand c source dictionary
  | .comment n => ⟨';' :: exportComment n source, []⟩

end Step

/-- A node as a step that has a line, when it is one. -/
def Node.step? (n : Node) : Option Step :=
  match n.asCommand? with
  | some c => some (.command c)
  | none => if n.kind = .lineComment then some (.comment n) else none

/-- The **steps of a document that have a line**, in order. -/
def Node.writtenSteps (root : Node) : List Step := root.steps.filterMap Node.step?

theorem exportStep_eq (source : Text) (dictionary : Option Dictionary) (n : Node) :
    exportStep source dictionary n = n.step?.map (Step.line source dictionary) := by
  rw [exportStep, Node.step?]
  cases n.asCommand? with
  | some c => rfl
  | none => by_cases hk : n.kind = .lineComment <;> simp [hk, Step.line]

/-- The lines of some steps are written one by one. -/
theorem exportSteps_eq (source : Text) (dictionary : Option Dictionary) (ns : List Node) :
    exportSteps source dictionary ns =
      (ns.filterMap Node.step?).map (Step.line source dictionary) := by
  rw [exportSteps, List.map_filterMap]
  exact congrArg (ns.filterMap ·) (funext fun n => exportStep_eq source dictionary n)

/-- **The exported text** is the lines of the written steps. -/
theorem exportTree_text (root : Node) (source : Text) (dictionary : Option Dictionary) :
    (exportTree root source dictionary).text =
      Text.unlines (root.writtenSteps.map fun s => (s.line source dictionary).value) := by
  rw [exportTree, exportSteps_eq, List.map_map]
  rfl

/-- The warnings of a document are those of its written steps. -/
theorem exportTree_warnings (root : Node) (source : Text) (dictionary : Option Dictionary) :
    (exportTree root source dictionary).warnings =
      root.writtenSteps.flatMap fun s => (s.line source dictionary).warnings := by
  rw [exportTree, exportSteps_eq, List.flatMap_map]
  rfl

theorem asCommand?_eq (n : Node) : n.asCommand? = n.step?.bind Step.command? := by
  rw [Node.step?]
  cases n.asCommand? with
  | some c => rfl
  | none => by_cases hk : n.kind = .lineComment <;> simp [hk, Step.command?]

/-- **The commands of a document** are those among its written steps. -/
theorem commands_eq (root : Node) : root.commands = root.writtenSteps.filterMap Step.command? := by
  rw [Node.commands, Node.writtenSteps, List.filterMap_filterMap]
  exact congrArg (root.steps.filterMap ·) (funext asCommand?_eq)

/-- A written command is a command of the document. -/
theorem mem_commands_iff {root : Node} {c : Command} :
    c ∈ root.commands ↔ Step.command c ∈ root.writtenSteps := by
  rw [commands_eq, List.mem_filterMap]
  constructor
  · rintro ⟨s, hs, hc⟩
    cases s with
    | command c' => cases hc; exact hs
    | comment n => exact nomatch hc
  · intro h
    exact ⟨.command c, h, rfl⟩

end SequenceBridge
