import SequenceBridge.Environment.Basic
import SequenceBridge.Failure
import SequenceBridge.Text.Blank

/-! # Configuration
Three variables of the environment, their names behind a common beginning, set what a run falls back
on.

* **`Config`** — the settings; **`Config.ofEnvironment`** reads them.
-/

namespace SequenceBridge

/-- The **settings** that a run falls back on: a dictionary, a level for its log, and the name of a
sequence. -/
structure Config where
  dictionary : Option Text
  logLevel : Option Text
  sequenceName : Text
  deriving DecidableEq, Repr

namespace Config

/-- The name of a sequence that nothing names. -/
def defaultSequenceName : Text := "sequence".toList

/-- The beginning of the names of the variables that the command line reads. -/
def variablePrefix : Text := "SEQN_".toList

/-- A variable that has to be a text if it is set. -/
def readVariable (env : Environment) (name : Text) : Except ConfigError (Option Text) :=
  match env.get? name with
  | none => .ok none
  | some value =>
    match value.text? with
    | some t => .ok (some t)
    | none => .error (.notUnicode name)

/-- The name of a sequence from its variable. A blank name is refused. -/
def sequenceNameOf (name : Text) : Option Text → Except ConfigError Text
  | none => .ok defaultSequenceName
  | some value => if value.isBlank then .error (.invalidValue name value) else .ok value

/-- The **settings** that the environment makes, the names of their variables behind a common
beginning. The variables are looked at in the order of the settings, and a blank dictionary is
none. -/
def ofEnvironment (beginning : Text) (env : Environment) : Except ConfigError Config :=
  (readVariable env (beginning ++ "DICTIONARY".toList)).bind fun dictionary =>
    (readVariable env (beginning ++ "LOG_LEVEL".toList)).bind fun logLevel =>
      (readVariable env (beginning ++ "SEQUENCE_NAME".toList)).bind fun value =>
        (sequenceNameOf (beginning ++ "SEQUENCE_NAME".toList) value).map fun sequenceName =>
          ⟨dictionary.filter fun d => !d.isBlank, logLevel, sequenceName⟩

end Config

end SequenceBridge
