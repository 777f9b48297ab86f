import SequenceBridge.Text.Basic

/-! # Node kinds
A node of a SeqN syntax tree carries one of a closed set of names. Kinds that no conversion looks at
are part of the set, so that whole documents can be read.

* **`Kind`** — the kinds, in the order in which messages list them.
* **`Kind.label`** — the name of a kind in a document.
* **`Kind.ofLabel?`** — the kind with a given name.
* **`Kind.isScalarArgument`** — the kinds of plain argument values.
-/

namespace SequenceBridge

/-- The **kinds of nodes** of a SeqN syntax tree. `error` marks what the grammar could not place. -/
inductive Kind
  | sequence
  | commands
  | immediateCommands
  | hardwareCommands
  | lineComment
  | metadata
  | metaEntry
  | key
  | value
  | models
  | model
  | modelVariable
  | offset
  | idDeclaration
  | parameterDeclaration
  | localDeclaration
  | variableName
  | type
  | enumName
  | range
  | values
  | command
  | activate
  | load
  | groundBlock
  | groundEvent
  | request
  | sequenceName
  | engine
  | epoch
  | groundName
  | name
  | requestName
  | steps
  | arguments
  | description
  | stem
  | args
  | repeatArg
  | string
  | number
  | boolean
  | enum
  | hex
  | null
  | array
  | object
  | property
  | propertyName
  | timeTag
  | timeAbsolute
  | timeRelative
  | timeComplete
  | timeEpoch
  | timeGroundEpoch
  | error
  deriving DecidableEq, Repr

namespace Kind

/-- Every kind, in the order of declaration. -/
def all : List Kind :=
  [.sequence, .commands, .immediateCommands, .hardwareCommands, .lineComment, .metadata,
   .metaEntry, .key, .value, .models, .model, .modelVariable, .offset, .idDeclaration,
   .parameterDeclaration, .localDeclaration, .variableName, .type, .enumName, .range, .values,
   .command, .activate, .load, .groundBlock, .groundEvent, .request, .sequenceName, .engine,
   .epoch, .groundName, .name, .requestName, .steps, .arguments, .description, .stem, .args,
   .repeatArg, .string, .number, .boolean, .enum, .hex, .null, .array, .object, .property,
   .propertyName, .timeTag, .timeAbsolute, .timeRelative, .timeComplete, .timeEpoch,
   .timeGroundEpoch, .error]

/-- The list of all kinds misses none. -/
theorem mem_all (k : Kind) : k ∈ all := by
  cases k <;> decide

/-- The **name** of a kind in a document. -/
def label : Kind → String
  | .sequence => "Sequence"
  | .commands => "Commands"
  | .immediateCommands => "ImmediateCommands"
  | .hardwareCommands => "HardwareCommands"
  | .lineComment => "LineComment"
  | .metadata => "Metadata"
  | .metaEntry => "MetaEntry"
  | .key => "Key"
  | .value => "Value"
  | .models => "Models"
  | .model => "Model"
  | .modelVariable => "Variable"
  | .offset => "Offset"
  | .idDeclaration => "IdDeclaration"
  | .parameterDeclaration => "ParameterDeclaration"
  | .localDeclaration => "LocalDeclaration"
  | .variableName => "VariableName"
  | .type => "Type"
  | .enumName => "EnumName"
  | .range => "Range"
  | .values => "Values"
  | .command => "Command"
  | .activate => "Activate"
  | .load => "Load"
  | .groundBlock => "GroundBlock"
  | .groundEvent => "GroundEvent"
  | .request => "Request"
  | .sequenceName => "SequenceName"
  | .engine => "Engine"
  | .epoch => "Epoch"
  | .groundName => "GroundName"
  | .name => "Name"
  | .requestName => "RequestName"
  | .steps => "Steps"
  | .arguments => "Arguments"
  | .description => "Description"
  | .stem => "Stem"
  | .args => "Args"
  | .repeatArg => "RepeatArg"
  | .string => "String"
  | .number => "Number"
  | .boolean => "Boolean"
  | .enum => "Enum"
  | .hex => "Hex"
  | .null => "Null"
  | .array => "Array"
  | .object => "Object"
  | .property => "Property"
  | .propertyName => "PropertyName"
  | .timeTag => "TimeTag"
  | .timeAbsolute => "TimeAbsolute"
  | .timeRelative => "TimeRelative"
  | .timeComplete => "TimeComplete"
  | .timeEpoch => "TimeEpoch"
  | .timeGroundEpoch => "TimeGroundEpoch"
  | .error => "⚠"

/-- The kind with a given name. -/
def ofLabel? (t : Text) : Option Kind := all.find? fun k => k.label.toList = t

/-- Plain argument values: strings, numbers, booleans, enumeration members and hexadecimals. -/
def isScalarArgument : Kind → Bool
  | .string | .number | .boolean | .enum | .hex => true
  | _ => false

end Kind

end SequenceBridge
