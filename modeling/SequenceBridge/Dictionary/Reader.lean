import SequenceBridge.Dictionary.Basic
import SequenceBridge.Text.Decimal
import SequenceBridge.Text.Hexadecimal
import SequenceBridge.Yaml.Document

/-! # Reading dictionaries
A dictionary comes as YAML, of which JSON is a part: a document with a header, a list of commands, or
a single command. The three are tried in this order. Fields of other names are passed over; a field
that is known may come only once.

* **`Reading`** — a reading of nodes, which follows only so many aliases.
* **`Dictionary.ofYamlText?`** — the dictionary that a text holds.
* **`Dictionary.readingFailure`** — the message for a text that holds none.
-/

namespace SequenceBridge

namespace Dictionary

/-- A **reading** of nodes. What it uses up is the number of aliases that it may still follow. -/
abbrev NodeReader (α : Type) := StateT Nat Option α

/-- The greatest number of collections inside one another that are read. -/
def greatestDepth : Nat := 128

/-- The tag of a missing value. -/
def nullTag : Text := "tag:yaml.org,2002:null".toList

/-- The texts that stand for a missing value. -/
def isNullText (t : Text) : Bool :=
  ["null", "Null", "NULL", "~"].any fun s => s.toList = t

/-- The node that a node stands for: what it names, if it is an alias, or else itself. -/
def resolve (d : Yaml.Document) : Yaml Nat → NodeReader (Yaml Nat)
  | .alias k => fun left =>
    match left with
    | 0 => none
    | left + 1 => (d.target? k).map fun y => (y, left)
  | y => pure y

/-- Nothing can be read. -/
def fail {α : Type} : NodeReader α := fun _ => none

/-- What an option has in it. -/
def ofOption {α : Type} : Option α → NodeReader α
  | some a => pure a
  | none => fail

/-! ## Values -/

/-- A **text**: any scalar, whatever it looks like. -/
def readText (d : Yaml.Document) (y : Yaml Nat) : NodeReader Text := do
  match ← resolve d y with
  | .scalar _ _ t => pure t
  | _ => fail

/-- Whether a node is there; none when it should be missing by its tag and is not. -/
def isPresent? : Yaml Nat → Option Bool
  | .scalar p true t =>
    match p.tag with
    | none => some (!(t.isEmpty || isNullText t))
    | some tag => if tag = nullTag then (if isNullText t then some false else none) else some true
  | _ => some true

/-- A value **that may be missing**: a plain scalar without text, or one that says so, is no
value. -/
def readOptional {α : Type} (d : Yaml.Document) (read : Yaml Nat → NodeReader α) (y : Yaml Nat) :
    NodeReader (Option α) := do
  let y ← resolve d y
  if ← ofOption (isPresent? y) then some <$> read y else pure none

/-- The value of a field that may be left out, or else a default. -/
def readField {α : Type} (fields : List (Text × Yaml Nat)) (name : String) (missing : NodeReader α)
    (read : Yaml Nat → NodeReader α) : NodeReader α :=
  match fields.find? fun field => field.1 = name.toList with
  | some field => read field.2
  | none => missing

/-- Digits behind the mark of a base. -/
def markedValue? (mark : String) (base : Nat) (t : Text) : Option Nat :=
  if mark.toList.isPrefixOf t then Text.valueIn? base (t.drop mark.length) else none

/-- A **number** as a plain scalar writes it: in base ten without zeros in front, or behind the mark
of another base. A plus sign may stand before either. -/
def numberOf? (t : Text) : Option Nat :=
  let unsigned := if t.head? = some '+' then t.drop 1 else t
  let marked := (markedValue? "0x" 16 unsigned).or
    ((markedValue? "0o" 8 unsigned).or (markedValue? "0b" 2 unsigned))
  let isPadded : Bool := 1 < unsigned.length ∧ unsigned.head? = some '0'
  marked.or (if isPadded then none else Text.valueIn? 10 unsigned)

/-- A **32-bit number**. -/
def readWord (d : Yaml.Document) (y : Yaml Nat) : NodeReader UInt32 := do
  match ← resolve d y with
  | .scalar _ true t =>
    match numberOf? t with
    | some n => if n < UInt32.size then pure (UInt32.ofNat n) else fail
    | none => fail
  | _ => fail

/-- The type of an argument: its label, or a tag of the document's own that is its label, in front of
nothing. -/
def readType (d : Yaml.Document) (y : Yaml Nat) : NodeReader ArgumentType := do
  match ← resolve d y with
  | .scalar p isPlain t =>
    match p.tag with
    | some ('!' :: label) =>
      if label.isEmpty then ofOption (ArgumentType.ofLabel? t)
      else if isPlain && (t.isEmpty || isNullText t) then ofOption (ArgumentType.ofLabel? label)
      else fail
    | _ => ofOption (ArgumentType.ofLabel? t)
  | _ => fail

/-! ## Collections -/

/-- Whether a node is a plain scalar without text, which stands for an empty collection too. -/
def isEmptyPlain : Yaml Nat → Bool
  | .scalar _ true [] => true
  | _ => false

/-- The **items** of a sequence, read one by one. -/
def readItems {α : Type} (read : Yaml Nat → NodeReader α) : List (Yaml Nat) → NodeReader (List α)
  | [] => pure []
  | y :: ys => do
    let a ← read y
    let as ← readItems read ys
    pure (a :: as)

/-- The keys of a mapping with their values. -/
def readKeys (d : Yaml.Document) :
    List (Yaml Nat × Yaml Nat) → NodeReader (List (Text × Yaml Nat))
  | [] => pure []
  | (key, value) :: entries => do
    let name ← readText d key
    let fields ← readKeys d entries
    pure ((name, value) :: fields)

/-- Whether no field of some names comes twice. -/
def isUnique (names : List String) (fields : List (Text × Yaml Nat)) : Bool :=
  names.all fun name => (fields.filter fun field => field.1 = name.toList).length ≤ 1

/-- The **fields** of a mapping. The names are those that may come only once. -/
def readFields (d : Yaml.Document) (depth : Nat) (names : List String) (y : Yaml Nat) :
    NodeReader (List (Text × Yaml Nat)) := do
  match ← resolve d y with
  | .mapping _ entries =>
    if depth = 0 then fail
    else
      -- the keys are read, aliases among them, before any value
      let fields ← readKeys d entries
      if isUnique names fields then pure fields else fail
  | y => if isEmptyPlain y then pure [] else fail

/-- A **list**, or nothing where there is no list. -/
def readList {α : Type} (d : Yaml.Document) (depth : Nat) (read : Yaml Nat → NodeReader α)
    (y : Yaml Nat) : NodeReader (List α) := do
  match ← resolve d y with
  | .sequence _ items => if depth = 0 then fail else readItems read items
  | y => if isEmptyPlain y then pure [] else fail

/-! ## Definitions -/

mutual

/-- An **argument definition** within a number of further collections. -/
def readDefinition (d : Yaml.Document) : Nat → Yaml Nat → NodeReader ArgumentDefinition
  | 0, _ => fail
  | depth + 1, y => do
    let fields ← readFields d (depth + 1) ["name", "arg_type", "description", "repeat"] y
    let name ← readField fields "name" fail (readText d)
    let type ← readField fields "arg_type" fail (readType d)
    let description ← readField fields "description" (pure none) (readOptional d (readText d))
    let repetition ←
      readField fields "repeat" (pure none) (readOptional d (readRepetition d depth))
    pure ⟨name, type, description, repetition⟩

/-- What a repeat argument repeats. -/
def readRepetition (d : Yaml.Document) :
    Nat → Yaml Nat → NodeReader (Repetition ArgumentDefinition)
  | 0, y => do
    let _ ← readFields d 0 [] y
    pure ⟨[], none, none⟩
  | depth + 1, y => do
    let fields ← readFields d (depth + 1) ["arguments", "min", "max"] y
    let arguments ← readField fields "arguments" (pure []) (readDefinitions d depth)
    let least ← readField fields "min" (pure none) (readOptional d (readWord d))
    let most ← readField fields "max" (pure none) (readOptional d (readWord d))
    pure ⟨arguments, least, most⟩

/-- Some argument definitions. -/
def readDefinitions (d : Yaml.Document) : Nat → Yaml Nat → NodeReader (List ArgumentDefinition)
  | 0, y => readList d 0 (fun _ => fail) y
  | depth + 1, y => readList d (depth + 1) (readDefinition d depth) y

end

/-- A **command definition** within a number of further collections. -/
def readCommand (d : Yaml.Document) (depth : Nat) (y : Yaml Nat) : NodeReader CommandDefinition := do
  let fields ← readFields d depth ["stem", "description", "arguments"] y
  let stem ← readField fields "stem" fail (readText d)
  let description ← readField fields "description" (pure none) (readOptional d (readText d))
  let arguments ← readField fields "arguments" (pure []) (readDefinitions d (depth - 1))
  pure ⟨stem, description, arguments⟩

/-- A list of command definitions. -/
def readCommands (d : Yaml.Document) (depth : Nat) (y : Yaml Nat) :
    NodeReader (List CommandDefinition) :=
  readList d depth (readCommand d (depth - 1)) y

/-- The header of a dictionary. -/
def readHeader (d : Yaml.Document) (depth : Nat) (y : Yaml Nat) : NodeReader DictionaryHeader := do
  let fields ← readFields d depth ["missionName", "version"] y
  let missionName ← readField fields "missionName" (pure none) (readOptional d (readText d))
  let version ← readField fields "version" (pure none) (readOptional d (readText d))
  pure ⟨missionName, version⟩

/-- A dictionary document. -/
def readDocument (d : Yaml.Document) (depth : Nat) (y : Yaml Nat) :
    NodeReader DictionaryDocument := do
  let fields ← readFields d depth ["header", "fswCommands"] y
  let header ← readField fields "header" (pure none) (readOptional d (readHeader d (depth - 1)))
  let commands ← readField fields "fswCommands" fail (readCommands d (depth - 1))
  pure ⟨header, commands⟩

/-! ## Dictionaries -/

/-- What a reading of a whole document gives. It may follow a hundred aliases for each unit of the
document's size. -/
def readRoot {α : Type} (d : Yaml.Document) (read : Nat → Yaml Nat → NodeReader α) : Option α :=
  ((read greatestDepth d.root).run (100 * d.root.size)).map (·.1)

/-- The dictionary that a YAML document says: that of a document with its header, of a list, or of a
single command. -/
def ofYaml? (d : Yaml.Document) : Option Dictionary :=
  ((readRoot d (readDocument d)).map ofDocument).or
    (((readRoot d (readCommands d)).map ofList).or
      ((readRoot d (readCommand d)).map fun c => ofList [c]))

/-- The **dictionary that a text holds**. -/
def ofYamlText? (t : Text) : Option Dictionary := (Yaml.Document.ofText? t).bind ofYaml?

/-- The **message** for a text that holds no dictionary. -/
def readingFailure : Text :=
  "unable to parse dictionary using [\"dictionary document\", \"list\", \"single\"] formats".toList

end Dictionary

end SequenceBridge
