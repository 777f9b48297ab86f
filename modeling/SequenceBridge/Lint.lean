import SequenceBridge.Diagnostic
import SequenceBridge.Dictionary.Basic
import SequenceBridge.Tree.Command

/-! # Checks on time tags
FPrime wants a time tag on every command, and knows no tags that wait for the completion of a command
or count from an epoch. Rules report the commands at fault.

* **`LintRule`** — a check on one command.
* **`LintRule.check`** — what a rule reports of a command.
* **`lint`** — the reports of some rules on a document, added to earlier diagnostics.
* **`LintRequest.answer`** — the same as an editor asks for it.
-/

namespace SequenceBridge

/-- A **rule**: a check on one command. -/
inductive LintRule
  /-- Every command needs a time tag. -/
  | missingTimeTag
  /-- A time tag must not hold a complete time or an epoch time. -/
  | unsupportedTimeTag
  deriving DecidableEq, Repr

namespace LintRule

/-- All rules, in the order in which a check applies them. -/
def all : List LintRule := [.missingTimeTag, .unsupportedTimeTag]

/-- The name of a rule. -/
def label : LintRule → String
  | .missingTimeTag => "missing_time_tag"
  | .unsupportedTimeTag => "unsupported_time_tag"

/-- The rule with a given name. -/
def ofLabel? (s : String) : Option LintRule := all.find? fun rule => rule.label = s

/-- What a rule says of a command at fault. -/
def message : LintRule → String
  | .missingTimeTag => "Missing 'Time Tag' for command"
  | .unsupportedTimeTag => "Time Complete and Time Epoch are not supported in FPrime"

/-- The **report of a rule** on a command, none when there is nothing to report. -/
def check (rule : LintRule) (c : Command) : Option Diagnostic :=
  match rule with
  | .missingTimeTag =>
    if c.timeTag?.isNone then some (.errorAt c.node rule.message) else none
  | .unsupportedTimeTag =>
    (c.timeTag?.bind TimeForm.unsupported?).map fun n => .errorAt n rule.message

end LintRule

/-- The reports of some rules on a document: command by command, and rule by rule for each. -/
def violations (rules : List LintRule) (root : Node) : List Diagnostic :=
  root.commands.flatMap fun c => rules.filterMap (·.check c)

/-- Earlier diagnostics with the **reports of some rules** added behind them. -/
def lint (rules : List LintRule) (root : Node) (earlier : List Diagnostic) : List Diagnostic :=
  earlier ++ violations rules root

/-- What an editor **hands to a linter**: a document with its source, the dictionary if there is one,
and the diagnostics so far. -/
structure LintRequest where
  root : Node
  source : Text
  dictionary : Option Dictionary
  earlier : List Diagnostic

/-- The diagnostics that some rules hand back. They look at the syntax tree alone. -/
def LintRequest.answer (rules : List LintRule) (request : LintRequest) : List Diagnostic :=
  lint rules request.root request.earlier

end SequenceBridge
