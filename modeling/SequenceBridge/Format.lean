import SequenceBridge.Export
import SequenceBridge.Import
import SequenceBridge.Lint

/-! # Formats
An editor for SeqN sequences takes other formats in when it opens a file, and puts sequences out in
other formats. A format has a name under which the editor knows it, and a linter.

* **`InputFormat`**, **`OutputFormat`** — a format to take in, and one to put out.
* **`Exchange`** — the formats that an editor is offered.
* **`Exchange.fprime`** — FPrime text in, FPrime text out.
-/

namespace SequenceBridge

/-- What a linter makes of the diagnostics of a document so far. -/
abbrev Linter := Node → List Diagnostic → List Diagnostic

/-- A format that is **taken in**: its text becomes SeqN text. -/
structure InputFormat where
  name : String
  toSequence : Text → Text
  linter : Linter

/-- A format that is **put out**: a document with its source becomes text. -/
structure OutputFormat where
  name : String
  ofTree : Node → Text → Option Dictionary → Text
  linter : Linter

/-- The formats that an editor is offered. -/
structure Exchange where
  input : InputFormat
  outputs : List OutputFormat

namespace Exchange

/-- The format to put out with a given name. -/
def output? (e : Exchange) (name : String) : Option OutputFormat :=
  e.outputs.find? (·.name = name)

/-- The format in which FPrime text is taken in. Documents are checked for FPrime's time tags. -/
def sequenceOverrides : InputFormat where
  name := "SeqN Overrides"
  toSequence := importText
  linter := lint LintRule.all

/-- The format in which FPrime text is put out. Its linter reports nothing, and drops what was
reported before. -/
def fppOutput : OutputFormat where
  name := "FPP Output"
  ofTree := fun root source dictionary => (exportTree root source dictionary).text
  linter := fun _ _ => []

/-- **FPrime text in, FPrime text out.** -/
def fprime : Exchange := ⟨sequenceOverrides, [fppOutput]⟩

end Exchange

end SequenceBridge
