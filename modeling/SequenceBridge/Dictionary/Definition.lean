import SequenceBridge.Text.Basic

/-! # Command definitions
A command dictionary tells which arguments each command takes. An argument of type `repeated` takes
any number of groups of values, and its definition may say what one group consists of.

* **`ArgumentType`** — the types of arguments.
* **`ArgumentDefinition`** — one argument of a command.
* **`ArgumentDefinition.arity?`** — how many values make up one group, when that is known.
* **`CommandDefinition`** — a command with its arguments.
-/

namespace SequenceBridge

/-- The **types of arguments**. -/
inductive ArgumentType
  | boolean
  | enum
  | fill
  | fixedString
  | float
  | integer
  | numeric
  | repeated
  | time
  | unsigned
  | varString
  deriving DecidableEq, Repr

namespace ArgumentType

/-- Every argument type, in the order of declaration. -/
def all : List ArgumentType :=
  [.boolean, .enum, .fill, .fixedString, .float, .integer, .numeric, .repeated, .time, .unsigned,
   .varString]

/-- The list of all argument types misses none. -/
theorem mem_all (t : ArgumentType) : t ∈ all := by
  cases t <;> decide

/-- The name of an argument type in a dictionary file. -/
def label : ArgumentType → String
  | .boolean => "boolean"
  | .enum => "enum"
  | .fill => "fill"
  | .fixedString => "fixed_string"
  | .float => "float"
  | .integer => "integer"
  | .numeric => "numeric"
  | .repeated => "repeat"
  | .time => "time"
  | .unsigned => "unsigned"
  | .varString => "var_string"

/-- The argument type with a given name. -/
def ofLabel? (t : Text) : Option ArgumentType := all.find? fun a => a.label.toList = t

end ArgumentType

/-- What one group of a repeated argument consists of, and how many groups it may have. -/
structure Repetition (α : Type) where
  arguments : List α
  least : Option UInt32
  most : Option UInt32
  deriving Repr

/-- The **definition of an argument**. Only an argument of type `repeated` makes use of its
repetition, but any argument may carry one. -/
structure ArgumentDefinition where
  name : Text
  type : ArgumentType
  description : Option Text
  repetition : Option (Repetition ArgumentDefinition)
  deriving Repr

namespace ArgumentDefinition

/-- Whether an argument takes groups of values. -/
def isRepeated (d : ArgumentDefinition) : Bool := d.type = .repeated

/-- The definitions of the values of one group; none when the argument takes no groups or nothing is
said about them. -/
def groupArguments? (d : ArgumentDefinition) : Option (List ArgumentDefinition) :=
  if d.isRepeated then d.repetition.map Repetition.arguments else none

/-- **How many values make up one group**; none when a group is unbounded. -/
def arity? (d : ArgumentDefinition) : Option Nat :=
  (d.groupArguments?.map List.length).filter (0 < ·)

/-- An arity is never zero. -/
theorem arity?_pos {d : ArgumentDefinition} {n : Nat} (h : d.arity? = some n) : 0 < n := by
  simpa using (Option.filter_eq_some_iff.1 h).2

end ArgumentDefinition

/-- The **definition of a command**. -/
structure CommandDefinition where
  stem : Text
  description : Option Text
  arguments : List ArgumentDefinition
  deriving Repr

end SequenceBridge
