import SequenceBridge.Text.Utf8

/-! # The environment
A run finds variables in its environment. Their values are bytes, which need not be a text.

* **`Environment`** — variables with their values.
* **`Environment.get?`**, **`Environment.text?`** — the value of a variable, and that value as a text.
* **`Environment.set`** — an environment with one more variable.
-/

namespace SequenceBridge

/-- The **variables of the environment**. The first entry of a name counts. -/
structure Environment where
  bindings : List (Text × Bytes)
  deriving DecidableEq, Repr

namespace Environment

/-- The value of a variable, if it is set. -/
def get? (env : Environment) (name : Text) : Option Bytes :=
  (env.bindings.find? fun v => v.1 = name).map (·.2)

/-- The value of a variable that is set to a text. -/
def text? (env : Environment) (name : Text) : Option Text :=
  (env.get? name).bind Bytes.text?

/-- An environment with one variable set, whatever it was before. -/
def set (env : Environment) (name : Text) (value : Bytes) : Environment :=
  ⟨(name, value) :: env.bindings⟩

@[simp] theorem get?_set (env : Environment) (name other : Text) (value : Bytes) :
    (env.set name value).get? other = if name = other then some value else env.get? other := by
  by_cases h : name = other <;> simp [get?, set, h]

end Environment

end SequenceBridge
