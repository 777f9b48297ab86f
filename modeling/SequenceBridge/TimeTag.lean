import SequenceBridge.Duration.Parser
import SequenceBridge.Text.Blank
import SequenceBridge.Tree.Command

/-! # Time tags
FPrime knows two time tags: a point in time, and an offset from the end of the command before.

* **`TimeTag`** — either of them.
* **`TimeTag.ofCommand?`** — the time tag of a SeqN command, when FPrime can express it.
* **`TimeTag.text`** — the time tag in FPrime's writing.
-/

namespace SequenceBridge

/-- A **time tag** as FPrime has it. -/
inductive TimeTag
  /-- A point in time, kept as it was written. -/
  | absolute (body : Text)
  /-- An offset from the end of the command before. -/
  | relative (d : Duration)
  deriving DecidableEq, Repr

namespace TimeTag

/-- What a node covers, without the marker in front and the blanks at the ends. -/
def body? (n : Node) (source : Text) : Option Text := (n.text? source).map fun t => Text.trim t.tail

/-- The duration of a relative time. The full form keeps its components as they are written, the
simple form is balanced. -/
def relativeDuration? (body : Text) : Option Duration :=
  if Duration.isFull body then (Duration.parse body).toOption
  else if Duration.isSimple body then (Duration.parse body).toOption.map Duration.balance
  else none

/-- The **time tag of a command**; none when it has none, when its form of time has no counterpart
in FPrime, or when a relative time denotes no duration. -/
def ofCommand? (c : Command) (source : Text) : Option TimeTag := do
  let tag ← c.timeTag?
  match ← TimeForm.ofTag? tag with
  | .absolute n => (body? n source).map absolute
  | .relative n => ((body? n source).bind relativeDuration?).map relative
  | .complete _ => none
  | .epoch _ => none

/-- A time tag in **FPrime's writing**: a letter for its kind and the time. -/
def text : TimeTag → Text
  | .absolute body => 'A' :: body
  | .relative d => 'R' :: d.text

/-- The writing of a command's time tag. -/
def encode? (c : Command) (source : Text) : Option Text := (ofCommand? c source).map text

end TimeTag

end SequenceBridge
