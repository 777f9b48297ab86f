import SequenceBridge.Argument.Basic
import SequenceBridge.Argument.Warning
import SequenceBridge.Dictionary.Definition

/-! # Conversion of argument nodes
An argument node is **converted** to an argument or dropped with a warning. The definition of a
repeated argument only decides where its groups begin and end.

* **`groupsOf`** — the groups that the nodes of a repeated argument fall into.
* **`Node.convert`**, **`Node.convertAll`** — argument nodes as arguments, at any depth.
* **`Node.arguments`** — the arguments of a command.
* **`Node.repeatedArgument`** — one repeated argument by itself.
* **`Converter`** — conversions one after the other over one source, their warnings gathered.
-/

namespace SequenceBridge

/-- How many repeated arguments may stand inside one another. -/
def maxRepeatDepth : Nat := 8

/-- A list cut into pieces of a given length; the last piece may be shorter. -/
def chunks {α : Type} (n : Nat) : List α → List (List α)
  | [] => []
  | x :: xs => (x :: xs.take (n - 1)) :: chunks n (xs.drop (n - 1))
termination_by xs => xs.length
decreasing_by simp only [List.length_drop, List.length_cons]; omega

/-- The **groups** of a repeated argument, given what became of each of its nodes. A node keeps its
place in its group when it was dropped. Without an arity all nodes are in one group, and no nodes are
in no group. -/
def groupsOf (arity : Option Nat) (converted : List (Option Argument)) : List (List Argument) :=
  match arity with
  | some n => (chunks n converted).map fun group => group.filterMap id
  | none => if converted.isEmpty then [] else [converted.filterMap id]

/-- The definition for the node at an index of a repeated argument: the definitions of one group take
turns. Without an arity no node has one. -/
def groupDefinition? (d : Option ArgumentDefinition) (index : Nat) : Option ArgumentDefinition := do
  let definition ← d
  let arity ← definition.arity?
  (definition.groupArguments?.getD [])[index % arity]?

/-- The text of an argument node that is no repeated argument. An error of the grammar has none, and
an empty text does not count. -/
def Node.scalar? (n : Node) (source : Text) : Option Text :=
  (n.text? source).filter fun t => !t.isEmpty && n.kind != .error

mutual

/-- An argument node **as an argument**, inside `depth` repeated arguments. -/
def Node.convert (source : Text) (definition : Option ArgumentDefinition) (depth : Nat) :
    Node → Noted (Option Argument)
  | ⟨kind, span, children⟩ =>
    if kind = .repeatArg then
      if depth < maxRepeatDepth then
        -- the nodes inside are converted first, and then fall into their groups
        let inner := Node.convertAll source (groupDefinition? definition) (depth + 1) 0 children
        ⟨some (.repeated (groupsOf (definition.bind ArgumentDefinition.arity?) inner.value)),
          inner.warnings⟩
      else
        ⟨none, [⟨span, kind, .repeatTooDeep⟩]⟩
    else
      match Node.scalar? ⟨kind, span, children⟩ source with
      | some value => ⟨some (.scalar value), []⟩
      | none => ⟨none, [⟨span, kind, .malformedArgument⟩]⟩

/-- Argument nodes as arguments, each with the definition for its index. -/
def Node.convertAll (source : Text) (definitionAt : Nat → Option ArgumentDefinition) (depth : Nat)
    (index : Nat) : List Node → Noted (List (Option Argument))
  | [] => ⟨[], []⟩
  | n :: ns =>
    let first := n.convert source (definitionAt index) depth
    let others := Node.convertAll source definitionAt depth (index + 1) ns
    ⟨first.value :: others.value, first.warnings ++ others.warnings⟩

end

/-- The **arguments below a node**, the `i`-th child with the `i`-th definition. -/
def Node.arguments (source : Text) (definitions : List ArgumentDefinition) (args : Node) :
    Noted (List Argument) :=
  let converted := Node.convertAll source (definitions[·]?) 0 0 args.children
  ⟨converted.value.filterMap id, converted.warnings⟩

/-- A single **repeated argument** that stands in no other, whatever the kind of its node. -/
def Node.repeatedArgument (source : Text) (definition : Option ArgumentDefinition) (n : Node) :
    Noted Argument :=
  let inner := Node.convertAll source (groupDefinition? definition) 1 0 n.children
  ⟨.repeated (groupsOf (definition.bind ArgumentDefinition.arity?) inner.value), inner.warnings⟩

/-! ## Conversions one after the other -/

/-- A **converter**: the source it reads from, and the warnings of all its conversions so far. -/
structure Converter where
  source : Text
  warnings : List Warning

/-- One conversion to ask of a converter. -/
inductive ConversionCall
  /-- The arguments below a node. -/
  | arguments (args : Node) (definitions : List ArgumentDefinition)
  /-- One repeated argument. -/
  | repeated (n : Node) (definition : Option ArgumentDefinition)

/-- What a single conversion makes. -/
inductive Conversion
  | arguments (values : List Argument)
  | repeated (value : Argument)

/-- The result of one conversion over a source. -/
def ConversionCall.result (source : Text) : ConversionCall → Noted Conversion
  | .arguments args definitions =>
    let made := args.arguments source definitions
    ⟨.arguments made.value, made.warnings⟩
  | .repeated n definition =>
    let made := n.repeatedArgument source definition
    ⟨.repeated made.value, made.warnings⟩

namespace Converter

/-- A converter that has not converted anything. -/
def ofSource (source : Text) : Converter := ⟨source, []⟩

/-- One conversion, and the converter after it. -/
def run (c : Converter) (call : ConversionCall) : Conversion × Converter :=
  let made := call.result c.source
  (made.value, ⟨c.source, c.warnings ++ made.warnings⟩)

/-- Conversions one after the other: what each makes with the warnings gathered by then. -/
def runAll (c : Converter) : List ConversionCall → List (Noted Conversion)
  | [] => []
  | call :: calls =>
    let (made, next) := c.run call
    ⟨made, next.warnings⟩ :: next.runAll calls

end Converter

end SequenceBridge
