import SequenceBridge.Load

/-! # Failures
Whatever ends a run early is one failure of a few concerns.

* **`ConfigError`** — a variable of the environment that cannot be used.
* **`Failure`** — a failure with its concern; **`Failure.message`** says both.
* **`Failure.ofLoadError`** — the concern of a file that could not be loaded.
-/

namespace SequenceBridge

/-- A **variable of the environment** that cannot be used. -/
inductive ConfigError
  | invalidValue (name value : Text)
  | notUnicode (name : Text)
  deriving DecidableEq, Repr

/-- The message of an unusable variable. -/
def ConfigError.message : ConfigError → Text
  | .invalidValue name value =>
    "invalid value for environment variable ".toList ++ name ++ ": ".toList ++ value
  | .notUnicode name =>
    "environment variable ".toList ++ name ++ " is not valid unicode".toList

/-- A **failure**, with the message of what failed. -/
inductive Failure
  | reading (fault : ReadFault)
  | dictionary (message : Text)
  | tree (message : Text)
  | configuration (message : Text)
  | general (message : Text)
  deriving DecidableEq, Repr

namespace Failure

/-- The **message** of a failure, its concern in front. -/
def message : Failure → Text
  | .reading fault => "I/O error: ".toList ++ fault.message
  | .dictionary message => "command dictionary error: ".toList ++ message
  | .tree message => "syntax tree error: ".toList ++ message
  | .configuration message => "configuration error: ".toList ++ message
  | .general message => "general error: ".toList ++ message

/-- The failure of a file that **could not be loaded**. -/
def ofLoadError (e : LoadError) : Failure :=
  match e with
  | .dictionary _ => .dictionary e.message
  | .tree _ _ => .tree e.message
  | .missingPath _ | .unreadable _ _ => .general e.message

/-- The failure of an unusable variable. -/
def ofConfigError (e : ConfigError) : Failure := .configuration e.message

end Failure

end SequenceBridge
