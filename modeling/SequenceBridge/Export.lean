import SequenceBridge.Argument.Conversion
import SequenceBridge.Comment
import SequenceBridge.Dictionary.Basic
import SequenceBridge.TimeTag

/-! # SeqN documents as FPrime text
A SeqN document becomes one line of FPrime text for each command and each comment among its steps.
Other steps leave nothing.

* **`exportCommand`** — the line of a command, with the warnings of its arguments.
* **`exportStep`** — the line of a step, if it has one.
* **`Emission`** — FPrime text with the warnings that came up.
* **`exportTree`** — a whole document.
-/

namespace SequenceBridge

/-- What stands in for a time tag or a stem that FPrime cannot express. -/
def unknownText : Text := "UNKNOWN".toList

/-- The time of a command in FPrime's writing. A tag that is blank or has none is unknown. -/
def exportTime (c : Command) (source : Text) : Text :=
  ((TimeTag.encode? c source).map Text.trim).filter (!·.isEmpty) |>.getD unknownText

/-- The stem of a command as it stands in the source. -/
def sourceStem (c : Command) (source : Text) : Text :=
  (c.stem?.bind (·.text? source)).getD unknownText

/-- A stem in FPrime's writing: its first underscore, the separator of its namespace, becomes a
period. -/
def exportStem : Text → Text
  | [] => []
  | c :: rest => if c = '_' then '.' :: rest else c :: exportStem rest

@[simp] theorem exportStem_nil : exportStem [] = [] := rfl

/-- A comment without its marker, in its normal form. -/
def exportComment (n : Node) (source : Text) : Text :=
  commentText ((n.text? source).getD []).tail

/-- The definitions of the arguments of a command with a stem. -/
def argumentDefinitions (dictionary : Option Dictionary) (stem : Text) :
    List ArgumentDefinition :=
  ((dictionary.bind (·.get? stem)).map CommandDefinition.arguments).getD []

/-- The arguments of a command in FPrime's writing. -/
def exportArguments (c : Command) (source : Text) (dictionary : Option Dictionary) : Noted Text :=
  match c.args? with
  | none => ⟨[], []⟩
  | some args =>
    let made := args.arguments source (argumentDefinitions dictionary (sourceStem c source))
    ⟨joinArguments made.value, made.warnings⟩

/-- The comment at the end of a command in FPrime's writing; a comment without text is left out. -/
def exportTrailer (c : Command) (source : Text) : Text :=
  match (c.comment?.map (exportComment · source)).getD [] with
  | [] => []
  | comment => ' ' :: ';' :: comment

/-- The **line of a command**: time, stem and arguments with a space between neighbours, and the
comment. -/
def exportCommand (c : Command) (source : Text) (dictionary : Option Dictionary) : Noted Text :=
  let arguments := exportArguments c source dictionary
  ⟨exportTime c source ++ ' ' :: exportStem (sourceStem c source) ++ ' ' :: arguments.value ++
    exportTrailer c source, arguments.warnings⟩

/-- The **line of a step**. Only commands and comments have one. -/
def exportStep (source : Text) (dictionary : Option Dictionary) (n : Node) : Option (Noted Text) :=
  match n.asCommand? with
  | some c => some (exportCommand c source dictionary)
  | none => if n.kind = .lineComment then some ⟨';' :: exportComment n source, []⟩ else none

/-- The lines of some steps, each with its warnings. -/
def exportSteps (source : Text) (dictionary : Option Dictionary) (steps : List Node) :
    List (Noted Text) :=
  steps.filterMap (exportStep source dictionary)

/-- **FPrime text** with the warnings that came up while it was made. -/
structure Emission where
  text : Text
  warnings : List Warning

/-- A **document as FPrime text**, one line for each step that has one. -/
def exportTree (root : Node) (source : Text) (dictionary : Option Dictionary) : Emission :=
  let lines := exportSteps source dictionary root.steps
  ⟨Text.unlines (lines.map Noted.value), lines.flatMap Noted.warnings⟩

end SequenceBridge
