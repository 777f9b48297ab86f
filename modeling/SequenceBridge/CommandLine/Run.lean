import SequenceBridge.CommandLine.Help
import SequenceBridge.Environment.Settings
import SequenceBridge.File.Directory
import SequenceBridge.Format
import SequenceBridge.Json.Report

/-! # A run of the command line
A run gives help if it is asked for, and else performs an action. It reads what the action needs, one
thing after the other, and either writes the whole result or says why there is none. The order is:
configuration, syntax tree, source or input, dictionary. Before any of these the settings file is
loaded, and a value in it that cannot be set ends the run at once.

* **`Host`** — what a run can read from outside, and how its help is worded.
* **`RunError`** — why a run has no result; **`RunError.report`** says it with its causes.
* **`Outcome`** — exit code, output and error of a run.
* **`run`** — a run of a command line.
-/

namespace SequenceBridge

/-- **What a run can read** from outside: files, its standard input, and the settings file. The wording
of its help is not its own either, and shows variables of the environment. -/
structure Host (m : Type → Type) where
  read : Path → m (Except ReadFault Bytes)
  standardInput : m (Except ReadFault Bytes)
  settings : m (Option Bytes)
  help : Environment → HelpTopic → Text

/-- **Why a run has no result.** -/
inductive RunError
  | configuration (e : ConfigError)
  | tree (e : LoadError)
  | source (path : Path) (fault : ReadFault)
  | dictionary (e : LoadError)
  deriving DecidableEq, Repr

namespace RunError

/-- The message of an error. -/
def message : RunError → Text
  | .configuration _ => "invalid SEQN_* configuration".toList
  | .tree e => (Failure.ofLoadError e).message
  | .source path _ => "failed to read ".toList ++ path.shown
  | .dictionary e => e.message

/-- The causes of an error, each the cause of the one before. -/
def causes : RunError → List Text
  | .configuration e => [(Failure.ofConfigError e).message]
  | .tree _ => []
  | .source _ fault => [(Failure.reading fault).message, fault.message]
  | .dictionary e => e.fault?.toList.map ReadFault.message

/-- A cause under its mark, further lines of it under its first one. -/
def indented (mark : Text) (cause : Text) : Text :=
  mark ++ List.intercalate ('\n' :: List.replicate mark.length ' ') cause.lines

/-- The **report** of an error: its message, and its causes on lines of their own, numbered when
there are several. -/
def report (e : RunError) : Text :=
  let listed :=
    match e.causes with
    | [] => []
    | [cause] => "\n\nCaused by:\n".toList ++ indented "    ".toList cause
    | causes =>
      "\n\nCaused by:\n".toList ++ Text.unlines (causes.mapIdx fun i cause =>
        indented ("    ".toList ++ decimal i ++ ": ".toList) cause)
  "Error: ".toList ++ e.message ++ listed

end RunError

/-- What an action gives: a text, and whether the run counts as failed all the same. -/
structure Result where
  text : Text
  isFailure : Bool
  deriving DecidableEq, Repr

/-- The **outcome** of a run: its exit code, what it writes, and the error that it reports. -/
structure Outcome where
  exitCode : UInt32
  output : Text
  error : Option RunError
  deriving DecidableEq, Repr

namespace Outcome

/-- The outcome of a command line that is wrong. -/
def misuse : Outcome := ⟨2, [], none⟩

/-- The outcome of a command line that asks for help. -/
def ofHelp (page : Text) : Outcome := ⟨0, page, none⟩

/-- The outcome of a run that ends where a value cannot be set: nothing is written, and no error of the
run's own is reported. -/
def abort : Outcome := ⟨101, [], none⟩

/-- The outcome of an action: its text on a line, or nothing but an error. -/
def ofResult : Except RunError Result → Outcome
  | .ok r => ⟨if r.isFailure then 1 else 0, r.text ++ ['\n'], none⟩
  | .error e => ⟨1, [], some e⟩

end Outcome

/-- What the version is shown as. -/
def versionText : Text := "seqn-fprime v0.1.0".toList

/-- The report of a linter as text. It fails a run when it has an error in it. -/
def lintResult (diagnostics : List Diagnostic) : Result :=
  ⟨(Json.array (diagnostics.map Diagnostic.toJson)).pretty, diagnostics.any Diagnostic.isError⟩

section

variable {m : Type → Type} [Monad m] (host : Host m)

/-- The text of a source, from a file or the standard input. -/
def readSource (path : Path) : ExceptT RunError m Text := do
  let content ←
    ExceptT.lift (if path.isStandardInput then host.standardInput else host.read path)
  match readText content with
  | .ok t => pure t
  | .error fault => throw (.source path fault)

/-- The syntax tree in a file. -/
def readTree (path : Path) : ExceptT RunError m Node := do
  match loadTree path (← ExceptT.lift (host.read path)) with
  | .ok root => pure root
  | .error e => throw (.tree e)

/-- The dictionary in a file, if there is a path to one. -/
def readDictionary (path : Option Path) : ExceptT RunError m (Option Dictionary) := do
  match path with
  | none => pure none
  | some path =>
    match loadDictionary path (← ExceptT.lift (host.read path)) with
    | .ok d => pure (some d)
    | .error e => throw (.dictionary e)

/-- What an action gives. An export without a dictionary of its own takes the one of the
configuration. -/
def perform (config : Config) : Action → ExceptT RunError m Result
  | .importText input => do
    let t ← readSource host input
    pure ⟨Exchange.fprime.input.toSequence t, false⟩
  | .exportTree tree source dictionary => do
    let root ← readTree host tree
    let text ← readSource host source
    let definitions ← readDictionary host (dictionary.or (config.dictionary.map Text.toBytes))
    pure ⟨Exchange.fppOutput.ofTree root text definitions, false⟩
  | .lint tree source => do
    let root ← readTree host tree
    let _ ← readSource host source
    pure (lintResult (Exchange.fprime.input.linter root []))
  | .version => pure ⟨versionText, false⟩

/-- The configuration that an environment makes. -/
def readConfig (env : Environment) : ExceptT RunError m Config := do
  match Config.ofEnvironment Config.variablePrefix env with
  | .ok config => pure config
  | .error e => throw (.configuration e)

/-- A run of an action, behind the settings file. -/
def runAction (env : Environment) (action : Action) : m Outcome := do
  let loaded := env.load (← host.settings)
  if loaded.refused.isSome then pure .abort
  else
    let result ← ExceptT.run do
      let config ← readConfig loaded.environment
      perform host config action
    pure (.ofResult result)

/-- A **run** of a command line in an environment. -/
def run (env : Environment) (arguments : List Bytes) : m Outcome := do
  match HelpTopic.ofArguments? arguments with
  | some topic => pure (.ofHelp (host.help env topic))
  | none =>
    match Action.ofArguments? env arguments with
    | none => pure .misuse
    | some action => runAction host env action

end

/-- A directory in memory with a text on the standard input. -/
def Directory.host (d : Directory) (standardInput : Bytes) : Host Id where
  read := d.read
  standardInput := .ok standardInput
  settings := (d.read (Text.toBytes ".env".toList)).toOption
  help := HelpTopic.page

end SequenceBridge
