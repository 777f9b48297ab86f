import Mathlib.Data.List.Basic
import SequenceBridge.Proofs.Export.Step

/-! # Steps over one converter
The steps of a document share one converter, which gathers the warnings of all their arguments. Step by
step it puts the warnings of a step behind those before it, and nothing that it has gathered has a part
in what a step makes; so a document can be cut anywhere between its steps.

* **`Converter.writeStep`**, **`Converter.writeSteps`** — one step over a converter, and steps one after
  the other.
* **`writeStep_eq`**, **`writeSteps_eq`** — they write the lines of the steps and gather their warnings.
* **`writeSteps_append`** — steps behind other steps go on with the converter that these leave.
* **`exportTree_eq_writeSteps`** — a document is exported over a fresh converter.
* **`Node.hasLine`** — whether a step has a line: commands and comments do.
* **`writtenLines`**, **`writtenWarnings`** — what a fresh converter makes of some steps; both put together
  what it makes of the parts (**`writtenLines_append`**, **`writtenWarnings_append`**).
-/

namespace SequenceBridge

/-! ## One step -/

/-- The text of what a conversion makes. -/
def Conversion.text : Conversion → Text
  | .arguments values => joinArguments values
  | .repeated value => value.text

/-- The line of a command around the text of its arguments. -/
def Command.lineAround (c : Command) (source arguments : Text) : Text :=
  exportTime c source ++ ' ' :: exportStem (sourceStem c source) ++ ' ' :: arguments ++
    exportTrailer c source

namespace Converter

/-- The arguments of a command in writing, and the converter behind them. A command without arguments
does not ask it. -/
def writeArguments (dictionary : Option Dictionary) (converter : Converter) (c : Command) :
    Text × Converter :=
  match c.args? with
  | none => ([], converter)
  | some args =>
    let definitions := argumentDefinitions dictionary (sourceStem c converter.source)
    let (made, next) := converter.run (.arguments args definitions)
    (made.text, next)

/-- **One step over a converter**: its line, if it has one, and the converter behind it. -/
def writeStep (dictionary : Option Dictionary) (converter : Converter) (n : Node) :
    Option Text × Converter :=
  match n.step? with
  | none => (none, converter)
  | some (.comment n) => (some (';' :: exportComment n converter.source), converter)
  | some (.command c) =>
    let (arguments, next) := converter.writeArguments dictionary c
    (some (c.lineAround converter.source arguments), next)

/-- **Steps one after the other** over a converter: their lines, and the converter behind them. -/
def writeSteps (dictionary : Option Dictionary) (converter : Converter) :
    List Node → List Text × Converter
  | [] => ([], converter)
  | n :: ns =>
    let (line, next) := converter.writeStep dictionary n
    let (lines, last) := next.writeSteps dictionary ns
    (line.toList ++ lines, last)

end Converter

/-- **A command over a converter** writes its arguments, and gathers their warnings behind those
before. -/
theorem writeArguments_eq (dictionary : Option Dictionary) (converter : Converter) (c : Command) :
    converter.writeArguments dictionary c =
      ((exportArguments c converter.source dictionary).value,
        ⟨converter.source, converter.warnings ++
          (exportArguments c converter.source dictionary).warnings⟩) := by
  rw [Converter.writeArguments, exportArguments]
  cases c.args? with
  | none => exact congrArg (Prod.mk []) (congrArg (Converter.mk _) (List.append_nil _).symm)
  | some args => rfl

/-- The warnings of a step, none when it has no line. -/
def stepWarnings (line : Option (Noted Text)) : List Warning := (line.map Noted.warnings).getD []

/-- **One step over a converter** writes the line of the step, and gathers its warnings behind those
before. -/
theorem writeStep_eq (dictionary : Option Dictionary) (converter : Converter) (n : Node) :
    converter.writeStep dictionary n =
      ((exportStep converter.source dictionary n).map Noted.value,
        ⟨converter.source, converter.warnings ++
          stepWarnings (exportStep converter.source dictionary n)⟩) := by
  rw [Converter.writeStep, exportStep_eq]
  cases n.step? with
  | none => simp [stepWarnings]
  | some s =>
      cases s with
      | comment n => simp [Step.line, stepWarnings]
      | command c => simp only [writeArguments_eq]; rfl

/-! ## Any number of steps -/

theorem writeSteps_cons (dictionary : Option Dictionary) (converter : Converter) (n : Node)
    (ns : List Node) :
    converter.writeSteps dictionary (n :: ns) =
      ((converter.writeStep dictionary n).1.toList ++
          ((converter.writeStep dictionary n).2.writeSteps dictionary ns).1,
        ((converter.writeStep dictionary n).2.writeSteps dictionary ns).2) := rfl

/-- **Steps over a converter** write their lines, and gather their warnings behind those before. -/
theorem writeSteps_eq (dictionary : Option Dictionary) (converter : Converter) (ns : List Node) :
    converter.writeSteps dictionary ns =
      ((exportSteps converter.source dictionary ns).map Noted.value,
        ⟨converter.source, converter.warnings ++
          (exportSteps converter.source dictionary ns).flatMap Noted.warnings⟩) := by
  induction ns generalizing converter with
  | nil => simp [Converter.writeSteps, exportSteps]
  | cons n ns ih =>
      rw [writeSteps_cons, writeStep_eq, ih, exportSteps, exportSteps, List.filterMap_cons]
      cases exportStep converter.source dictionary n <;> simp [stepWarnings]

/-- **Steps behind other steps** go on with the converter that these leave. -/
theorem writeSteps_append (dictionary : Option Dictionary) (converter : Converter)
    (xs ys : List Node) :
    converter.writeSteps dictionary (xs ++ ys) =
      ((converter.writeSteps dictionary xs).1 ++
          ((converter.writeSteps dictionary xs).2.writeSteps dictionary ys).1,
        ((converter.writeSteps dictionary xs).2.writeSteps dictionary ys).2) := by
  induction xs generalizing converter with
  | nil => rfl
  | cons x xs ih =>
      rw [List.cons_append, writeSteps_cons, ih, writeSteps_cons, List.append_assoc]

/-- The lines that a **fresh converter** writes for some steps. -/
def writtenLines (source : Text) (dictionary : Option Dictionary) (ns : List Node) : List Text :=
  ((Converter.ofSource source).writeSteps dictionary ns).1

/-- The warnings that it gathers on the way. -/
def writtenWarnings (source : Text) (dictionary : Option Dictionary) (ns : List Node) :
    List Warning :=
  ((Converter.ofSource source).writeSteps dictionary ns).2.warnings

theorem writtenLines_eq (source : Text) (dictionary : Option Dictionary) (ns : List Node) :
    writtenLines source dictionary ns = (exportSteps source dictionary ns).map Noted.value := by
  rw [writtenLines, writeSteps_eq]
  rfl

theorem writtenWarnings_eq (source : Text) (dictionary : Option Dictionary) (ns : List Node) :
    writtenWarnings source dictionary ns =
      (exportSteps source dictionary ns).flatMap Noted.warnings := by
  rw [writtenWarnings, writeSteps_eq]
  exact List.nil_append _

/-- **The lines of steps behind other steps** are those of the steps by themselves: what the converter
has gathered has no part in them. -/
theorem writtenLines_append (source : Text) (dictionary : Option Dictionary) (xs ys : List Node) :
    writtenLines source dictionary (xs ++ ys) =
      writtenLines source dictionary xs ++ writtenLines source dictionary ys := by
  rw [writtenLines, writeSteps_append, writtenLines_eq _ _ ys, writeSteps_eq _ _ ys,
    writeSteps_eq _ _ xs]
  exact congrArg (· ++ _) (writtenLines_eq source dictionary xs).symm

/-- The warnings of steps behind other steps are put behind theirs. -/
theorem writtenWarnings_append (source : Text) (dictionary : Option Dictionary)
    (xs ys : List Node) :
    writtenWarnings source dictionary (xs ++ ys) =
      writtenWarnings source dictionary xs ++ writtenWarnings source dictionary ys := by
  rw [writtenWarnings, writeSteps_append, writtenWarnings_eq _ _ ys, writeSteps_eq _ _ ys,
    writeSteps_eq _ _ xs]
  exact congrArg (· ++ _) (writtenWarnings_eq source dictionary xs).symm

/-- **A document is exported over a fresh converter**: the text joins the lines, and the warnings are
those gathered. -/
theorem exportTree_eq_writeSteps (root : Node) (source : Text) (dictionary : Option Dictionary) :
    exportTree root source dictionary =
      ⟨Text.unlines (writtenLines source dictionary root.steps),
        writtenWarnings source dictionary root.steps⟩ := by
  rw [exportTree, writtenLines_eq, writtenWarnings_eq]

/-! ## Steps that have a line -/

/-- A step **has a line** when it is a command or a comment. -/
def Node.hasLine (n : Node) : Bool := n.kind = .command || n.kind = .lineComment

/-- Commands and comments are the steps that have one. -/
theorem isSome_step? (n : Node) : n.step?.isSome = n.hasLine := by
  rw [Node.step?, Node.hasLine, Node.asCommand?]
  by_cases hcommand : n.kind = .command
  · simp [hcommand]
  · by_cases hcomment : n.kind = .lineComment <;> simp [hcommand, hcomment]

theorem isSome_exportStep (source : Text) (dictionary : Option Dictionary) (n : Node) :
    (exportStep source dictionary n).isSome = n.hasLine := by
  rw [exportStep_eq, Option.isSome_map, isSome_step?]

/-- The line of a step that has one. -/
theorem exportStep_of_hasLine (source : Text) (dictionary : Option Dictionary) {n : Node}
    (h : n.hasLine = true) : ∃ line, exportStep source dictionary n = some line :=
  Option.isSome_iff_exists.1 ((isSome_exportStep source dictionary n).trans h)

/-- Any other step leaves nothing, so **only the steps that have a line** count. -/
theorem exportSteps_filter (source : Text) (dictionary : Option Dictionary) (ns : List Node) :
    exportSteps source dictionary (ns.filter Node.hasLine) = exportSteps source dictionary ns := by
  rw [exportSteps, exportSteps, List.filterMap_filter]
  refine List.filterMap_congr fun n _ => ?_
  rw [← isSome_exportStep source dictionary n]
  cases exportStep source dictionary n <;> rfl

end SequenceBridge
