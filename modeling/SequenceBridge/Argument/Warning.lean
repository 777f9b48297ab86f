import SequenceBridge.Tree.Basic

/-! # Warnings
An argument node that cannot be converted is dropped with a warning.

* **`Warning`** — a node that was dropped, and why.
* **`Noted`** — a result together with the warnings that came up on the way.
-/

namespace SequenceBridge

/-- Why an argument node was dropped. -/
inductive WarningReason
  /-- The node covers no text, or the grammar could not place it. -/
  | malformedArgument
  /-- The node is a repeated argument inside too many others. -/
  | repeatTooDeep
  deriving DecidableEq, Repr

/-- A **warning**: an argument node that was dropped. -/
structure Warning where
  span : Span
  kind : Kind
  reason : WarningReason
  deriving DecidableEq, Repr

/-- The wording of a warning. -/
def Warning.message (w : Warning) : String :=
  match w.reason with
  | .malformedArgument => "Could not parse arg for node with name " ++ w.kind.label
  | .repeatTooDeep =>
    "Could not parse repeat arg for node with name " ++ w.kind.label ++ ": nested too deeply"

/-- A result with the **warnings** that came up on the way, in the order of the document. -/
structure Noted (α : Type) where
  value : α
  warnings : List Warning

end SequenceBridge
