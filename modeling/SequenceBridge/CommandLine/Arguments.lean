import SequenceBridge.Config
import SequenceBridge.File.Basic

/-! # The command line
A command line names one action, with options before and behind its name. An option has one value,
behind an equality sign or as the next word, and comes at most once on either side. A double hyphen
ends the options.

* **`Word`** — what a word of a command line looks like.
* **`readOptions?`** — options with their values, and the words that are none.
* **`Action`** — what a run is asked to do.
* **`Action.ofArguments?`** — the action that a command line names.
-/

namespace SequenceBridge

/-- What a **word of a command line** looks like. -/
inductive Word
  | endOfOptions
  | option (name : Text) (value : Option Bytes)
  | unknown
  | operand
  deriving DecidableEq, Repr

namespace Word

/-- The bytes before the first equality sign, and those behind it if there is one. -/
def splitValue : Bytes → Bytes × Option Bytes
  | [] => ([], none)
  | b :: bs => if b = 0x3D then ([], some bs) else (b :: (splitValue bs).1, (splitValue bs).2)

/-- What a word looks like. A single hyphen is an operand; with more behind it, it would be a short
option, and there are none. -/
def ofBytes : Bytes → Word
  | [0x2D, 0x2D] => .endOfOptions
  | 0x2D :: 0x2D :: bs =>
    match Bytes.text? (splitValue bs).1 with
    | some name => .option name (splitValue bs).2
    | none => .unknown
  | 0x2D :: _ :: _ => .unknown
  | _ => .operand

end Word

/-- **Options** with their values, in the order in which they were given. -/
abbrev Options := List (Text × Bytes)

namespace Options

/-- The value of an option. -/
def get? (options : Options) (name : Text) : Option Bytes :=
  (options.find? fun o => o.1 = name).map (·.2)

/-- Whether no option is given twice. -/
def isUnique (options : Options) : Bool :=
  options.all fun o => (options.filter fun other => other.1 = o.1).length = 1

end Options

/-- The **options** among some words, with the words that are none. Reading may stop at the first of
these, and then an end of options may not come before it. -/
def readOptions? (names : List String) (stops : Bool) : List Bytes → Option (Options × List Bytes)
  | [] => some ([], [])
  | word :: rest =>
    match Word.ofBytes word with
    | .endOfOptions => if stops then none else some ([], rest)
    | .unknown => none
    | .operand =>
      if stops then some ([], word :: rest)
      else (readOptions? names stops rest).map fun found => (found.1, word :: found.2)
    | .option name value =>
      if names.any fun known => known.toList = name then
        -- the value is part of the word, or it is the next word
        match value, rest with
        | some value, rest =>
          (readOptions? names stops rest).map fun found => ((name, value) :: found.1, found.2)
        | none, next :: rest =>
          if Word.ofBytes next = .operand then
            (readOptions? names stops rest).map fun found => ((name, next) :: found.1, found.2)
          else none
        | none, [] => none
      else none

/-- The options on one side of the name of an action, if none is given twice. The level of the log is
a text there, whether it is given or comes from the environment. -/
def readSide? (env : Environment) (names : List String) (stops : Bool) (words : List Bytes) :
    Option (Options × List Bytes) :=
  (readOptions? ("log-level" :: names) stops words).filter fun found =>
    let level := (found.1.get? "log-level".toList).or (env.get? "SEQN_LOG_LEVEL".toList)
    found.1.isUnique && level.all fun value => value.text?.isSome

/-- **What a run is asked to do.** -/
inductive Action
  /-- FPrime text becomes SeqN text. -/
  | importText (input : Path)
  /-- A SeqN document becomes FPrime text. -/
  | exportTree (tree source : Path) (dictionary : Option Path)
  /-- The time tags of a SeqN document are checked. -/
  | lint (tree source : Path)
  /-- The version is shown. -/
  | version
  deriving DecidableEq, Repr

namespace Action

/-- A path that is given. It may not be empty. -/
def path? (value : Option Bytes) : Option Path := value.filter fun p => !p.isEmpty

/-- A path that is given or not; if it is, it may not be empty. -/
def optionalPath? (value : Option Bytes) : Option (Option Path) :=
  if value = some [] then none else some value

/-- The action of a name with the words behind it. An export without a dictionary takes the one that
the environment names. -/
def ofName? (env : Environment) (name : Bytes) (words : List Bytes) : Option Action :=
  if name = Text.toBytes "from-fprime".toList then
    (readSide? env [] false words).bind fun found =>
      match found.2 with
      | [input] => (path? (some input)).map .importText
      | _ => none
  else if name = Text.toBytes "to-fprime".toList then
    (readSide? env ["tree", "source", "dictionary", "name"] false words).bind fun found =>
      let isNamed : Bool := (found.1.get? "name".toList).all fun value => value.text?.isSome
      let dictionary := (found.1.get? "dictionary".toList).or (env.get? "SEQN_DICTIONARY".toList)
      if isNamed && found.2.isEmpty then
        (path? (found.1.get? "tree".toList)).bind fun tree =>
          (path? (found.1.get? "source".toList)).bind fun source =>
            (optionalPath? dictionary).map fun dictionary => .exportTree tree source dictionary
      else none
  else if name = Text.toBytes "lint".toList then
    (readSide? env ["tree", "source"] false words).bind fun found =>
      if found.2.isEmpty then
        (path? (found.1.get? "tree".toList)).bind fun tree =>
          (path? (found.1.get? "source".toList)).map fun source => .lint tree source
      else none
  else if name = Text.toBytes "version".toList then
    (readSide? env [] false words).bind fun found =>
      if found.2.isEmpty then some .version else none
  else none

/-- The **action that a command line names**, none when the command line is wrong. -/
def ofArguments? (env : Environment) (words : List Bytes) : Option Action :=
  (readSide? env [] true words).bind fun found =>
    match found.2 with
    | [] => none
    | name :: rest => ofName? env name rest

end Action

end SequenceBridge
