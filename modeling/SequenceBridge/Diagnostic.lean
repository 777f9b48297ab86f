import SequenceBridge.Argument.Warning

/-! # Diagnostics
A diagnostic is a remark on a span of the source, of one of four severities.

* **`Diagnostic`** — a remark on a span.
* **`Warning.diagnostic`** — the diagnostic for a dropped argument node.
-/

namespace SequenceBridge

/-- How grave a remark is. -/
inductive Severity
  | hint
  | info
  | warning
  | error
  deriving DecidableEq, Repr

namespace Severity

/-- The name of a severity in a report. -/
def label : Severity → String
  | .hint => "hint"
  | .info => "info"
  | .warning => "warning"
  | .error => "error"

/-- The severity with a given name. -/
def ofLabel? (s : String) : Option Severity :=
  [hint, info, warning, error].find? fun severity => severity.label = s

end Severity

/-- A **remark** on a span of the source. -/
structure Diagnostic where
  span : Span
  message : String
  severity : Severity
  deriving DecidableEq, Repr

namespace Diagnostic

/-- An error on the span of a node. -/
def errorAt (n : Node) (message : String) : Diagnostic := ⟨n.span, message, .error⟩

/-- Whether a remark is an error. -/
def isError (d : Diagnostic) : Bool := d.severity = .error

end Diagnostic

/-- The diagnostic for a dropped node, a warning on its span. -/
def Warning.diagnostic (w : Warning) : Diagnostic := ⟨w.span, w.message, .warning⟩

end SequenceBridge
