import SequenceBridge.Json.Token
import SequenceBridge.Text.Quoted
import SequenceBridge.Tree.Basic

/-! # Reading syntax trees
A syntax tree comes as JSON. It is read from left to right in one pass, and the first fault decides:
a fault of the JSON itself, or a value that does not belong where it stands. A node is an object with
the fields `kind`, `from`, `to` and `children`, or an array of the same four; the children may be
left out either way. Fields of other names are passed over.

* **`TreeError`** — why a text is no syntax tree; **`TreeError.message`** says it.
* **`Node.read`** — a node at the start of some tokens, within a given number of nested brackets.
* **`Node.ofJsonText`** — the syntax tree that a text is.
-/

namespace SequenceBridge

/-- The **fields of a node**, in the order in which their absence is noticed. -/
inductive NodeField
  | kind
  | start
  | stop
  | children
  deriving DecidableEq, Repr

namespace NodeField

/-- The name of a field in a document. -/
def label : NodeField → String
  | .kind => "kind"
  | .start => "from"
  | .stop => "to"
  | .children => "children"

/-- The field of a given name. -/
def ofLabel? (t : Text) : Option NodeField :=
  [NodeField.kind, .start, .stop, .children].find? fun f => f.label.toList = t

end NodeField

/-- A value that stands where another belongs. -/
inductive Misplaced
  | null
  | bool (b : Bool)
  | number (n : Number)
  | string (t : Text)
  | sequence
  | map
  deriving DecidableEq, Repr

/-- How a message names a misplaced value. -/
def Misplaced.text : Misplaced → Text
  | .null => "null".toList
  | .bool b => "boolean \x60".toList ++ (if b then "true" else "false").toList ++ ['\x60']
  | .number (.real isNegative magnitude) =>
    "floating point \x60".toList ++ (Number.real isNegative magnitude).text ++ ['\x60']
  | .number n => "integer \x60".toList ++ n.text ++ ['\x60']
  | .string t => "string ".toList ++ quoted t
  | .sequence => "sequence".toList
  | .map => "map".toList

/-- What belongs at a place of a node. -/
inductive Wanted
  | node
  | offset
  | children
  | kindName
  | nothing
  deriving DecidableEq, Repr

/-- How a message names what belongs at a place. -/
def Wanted.label : Wanted → String
  | .node => "struct SyntaxNode"
  | .offset => "usize"
  | .children => "a sequence"
  | .kindName => "variant identifier"
  | .nothing => "unit"

/-- **Why a text is no syntax tree.** A malformed text is one that is no JSON, that nests too many
brackets, or that has more behind the tree. -/
inductive TreeError
  | malformed
  | missingField (field : NodeField)
  | duplicateField (field : NodeField)
  | unknownKind (name : Text)
  | misplaced (value : Misplaced) (wanted : Wanted)
  | negativeOffset (n : Nat)
  | tooFewItems (count : Nat)
  deriving DecidableEq, Repr

/-- A name between grave accents. -/
def graved (t : Text) : Text := '\x60' :: t ++ ['\x60']

/-- The **message** of an error. -/
def TreeError.message : TreeError → Text
  | .malformed => "invalid JSON".toList
  | .missingField field => "missing field ".toList ++ graved field.label.toList
  | .duplicateField field => "duplicate field ".toList ++ graved field.label.toList
  | .unknownKind name =>
    "unknown variant ".toList ++ graved name ++ ", expected one of ".toList ++
      List.intercalate [',', ' '] (Kind.all.map fun k => graved k.label.toList)
  | .misplaced value wanted =>
    "invalid type: ".toList ++ value.text ++ ", expected ".toList ++ wanted.label.toList
  | .negativeOffset n =>
    "invalid value: integer ".toList ++ graved (Number.negative n).text ++
      ", expected usize".toList
  | .tooFewItems count =>
    "invalid length ".toList ++ decimal count ++
      ", expected struct SyntaxNode with 4 elements".toList

/-- A reading from the start of some tokens gives a value and the tokens behind it. -/
abbrev Reading (α : Type) := Except TreeError (α × List Token)

namespace Token

/-- The value that a token begins, as one that does not belong there. -/
def misplaced? : Token → Option Misplaced
  | .null => some .null
  | .bool b => some (.bool b)
  | .number n => n.value?.map .number
  | .string t => t.map .string
  | .openBracket => some .sequence
  | .openBrace => some .map
  | _ => none

/-- The error at tokens that do not begin with what is wanted. -/
def refusal (wanted : Wanted) : List Token → TreeError
  | [] => .malformed
  | token :: _ =>
    match token.misplaced? with
    | none => .malformed
    | some value => .misplaced value wanted

/-! ## Passing over values -/

/-- A bracket that is still open. -/
inductive Enclosure
  | array
  | object
  deriving DecidableEq, Repr

/-- What comes next inside a value that is passed over. -/
inductive Expectation
  | value
  | valueOrEnd
  | key
  | keyOrEnd
  | colon
  | separator
  deriving DecidableEq, Repr

/-- Tokens behind a value, given what comes next in it and the brackets still open, the innermost
first; none when the value is no JSON. However deep it nests, it can be passed over. -/
def skipFrom : Expectation → List Enclosure → List Token → Option (List Token)
  | .separator, [], tokens => some tokens
  | _, _, [] => none
  | .separator, .array :: open_, .comma :: rest => skipFrom .value (.array :: open_) rest
  | .separator, .object :: open_, .comma :: rest => skipFrom .key (.object :: open_) rest
  | .separator, .array :: open_, .closeBracket :: rest => skipFrom .separator open_ rest
  | .separator, .object :: open_, .closeBrace :: rest => skipFrom .separator open_ rest
  | .valueOrEnd, .array :: open_, .closeBracket :: rest => skipFrom .separator open_ rest
  | .keyOrEnd, .object :: open_, .closeBrace :: rest => skipFrom .separator open_ rest
  | .key, open_, .string _ :: rest => skipFrom .colon open_ rest
  | .keyOrEnd, open_, .string _ :: rest => skipFrom .colon open_ rest
  | .colon, open_, .colon :: rest => skipFrom .value open_ rest
  | expected, open_, token :: rest =>
    if expected = .value ∨ expected = .valueOrEnd then
      match token with
      | .null | .bool _ | .number _ | .string _ => skipFrom .separator open_ rest
      | .openBracket => skipFrom .valueOrEnd (.array :: open_) rest
      | .openBrace => skipFrom .keyOrEnd (.object :: open_) rest
      | _ => none
    else
      none

/-- The tokens behind the value that some tokens begin with. -/
def skip? (tokens : List Token) : Option (List Token) := skipFrom .value [] tokens

end Token

namespace Node

/-! ## The parts of a node -/

/-- An offset. -/
def readOffset : List Token → Reading UInt64
  | .number n :: rest =>
    match n.value? with
    | some (.natural offset) => .ok (UInt64.ofNat offset, rest)
    | some (.negative offset) => .error (.negativeOffset offset)
    | some number => .error (.misplaced (.number number) .offset)
    | none => .error .malformed
  | tokens => .error (Token.refusal .offset tokens)

/-- The kind of a given name. -/
def kindNamed (name : Text) (rest : List Token) : Reading Kind :=
  match Kind.ofLabel? name with
  | some kind => .ok (kind, rest)
  | none => .error (.unknownKind name)

/-- What stands behind the name of a kind that is the only field of an object. -/
def closeKind (kind : Kind) : List Token → Reading Kind
  | .colon :: .null :: .closeBrace :: rest => .ok (kind, rest)
  | .colon :: .null :: _ => .error .malformed
  | .colon :: tokens => .error (Token.refusal .nothing tokens)
  | _ => .error .malformed

/-- A kind: its name, or an object that has the name as its only field, with a null. -/
def readKind (depth : Nat) : List Token → Reading Kind
  | .string (some name) :: rest => kindNamed name rest
  | .openBrace :: .string (some name) :: rest =>
    if depth = 0 then .error .malformed
    else (kindNamed name rest).bind fun found => closeKind found.1 found.2
  | .openBrace :: rest =>
    if depth = 0 then .error .malformed else .error (Token.refusal .kindName rest)
  | _ => .error .malformed

/-- What is known of a node while its fields are read. -/
structure Draft where
  kind : Option Kind := none
  start : Option UInt64 := none
  stop : Option UInt64 := none
  children : Option (List Node) := none

namespace Draft

/-- Whether a field has been read. -/
def has (d : Draft) : NodeField → Bool
  | .kind => d.kind.isSome
  | .start => d.start.isSome
  | .stop => d.stop.isSome
  | .children => d.children.isSome

/-- The node, once its fields are read. -/
def finish (d : Draft) : Except TreeError Node :=
  match d.kind, d.start, d.stop with
  | none, _, _ => .error (.missingField .kind)
  | _, none, _ => .error (.missingField .start)
  | _, _, none => .error (.missingField .stop)
  | some kind, some start, some stop => .ok ⟨kind, ⟨start, stop⟩, d.children.getD []⟩

/-- A field's value taken into what is known. -/
def readValue (depth : Nat) (children : List Token → Reading (List Node)) (d : Draft)
    (field : NodeField) (tokens : List Token) : Reading Draft :=
  match field with
  | .kind =>
    (readKind depth tokens).map fun found => (⟨found.1, d.start, d.stop, d.children⟩, found.2)
  | .start => (readOffset tokens).map fun found => (⟨d.kind, found.1, d.stop, d.children⟩, found.2)
  | .stop => (readOffset tokens).map fun found => (⟨d.kind, d.start, found.1, d.children⟩, found.2)
  | .children => (children tokens).map fun found => (⟨d.kind, d.start, d.stop, found.1⟩, found.2)

/-- One field behind its name. A name that comes twice is refused before its value is looked at. -/
def readField (depth : Nat) (children : List Token → Reading (List Node)) (d : Draft) (name : Text)
    (tokens : List Token) : Reading Draft :=
  match NodeField.ofLabel? name, tokens with
  | some field, tokens =>
    if d.has field then
      -- not even the colon is looked at
      .error (.duplicateField field)
    else
      match tokens with
      | .colon :: rest => d.readValue depth children field rest
      | _ => .error .malformed
  | none, .colon :: rest =>
    match Token.skip? rest with
    | some rest => .ok (d, rest)
    | none => .error .malformed
  | none, _ => .error .malformed

/-- The fields behind the first one, up to the closing brace. There are no more of them than
tokens. -/
def readMore (depth : Nat) (children : List Token → Reading (List Node)) :
    Nat → Draft → List Token → Reading Node
  | _, d, .closeBrace :: rest => d.finish.map fun n => (n, rest)
  | most + 1, d, .comma :: .string (some name) :: rest =>
    (d.readField depth children name rest).bind fun found =>
      readMore depth children most found.1 found.2
  | _, _, _ => .error .malformed

end Draft

/-- A node behind the opening brace of an object. -/
def readObject (depth : Nat) (children : List Token → Reading (List Node)) :
    List Token → Reading Node
  | .closeBrace :: rest => ({} : Draft).finish.map fun n => (n, rest)
  | .string (some name) :: rest =>
    (({} : Draft).readField depth children name rest).bind fun found =>
      found.1.readMore depth children rest.length found.2
  | _ => .error .malformed

/-- The separator in front of an item of an array that has a given number of items before it. -/
def nextItem (count : Nat) : List Token → Except TreeError (List Token)
  | .comma :: rest => .ok rest
  | .closeBracket :: _ => .error (.tooFewItems count)
  | _ => .error .malformed

/-- The last item of a node in an array, its children, which may be missing. -/
def readLast (children : List Token → Reading (List Node)) : List Token → Reading (List Node)
  | .closeBracket :: rest => .ok ([], rest)
  | .comma :: rest =>
    (children rest).bind fun found =>
      match found.2 with
      | .closeBracket :: rest => .ok (found.1, rest)
      | _ => .error .malformed
  | _ => .error .malformed

/-- A node behind the opening bracket of an array. -/
def readArray (depth : Nat) (children : List Token → Reading (List Node)) :
    List Token → Reading Node
  | .closeBracket :: _ => .error (.tooFewItems 0)
  | tokens =>
    (readKind depth tokens).bind fun kind =>
      (nextItem 1 kind.2).bind fun tokens =>
        (readOffset tokens).bind fun start =>
          (nextItem 2 start.2).bind fun tokens =>
            (readOffset tokens).bind fun stop =>
              (readLast children stop.2).map fun last =>
                (⟨kind.1, ⟨start.1, stop.1⟩, last.1⟩, last.2)

/-- The nodes of an array behind the first one, up to the closing bracket. There are no more of them
than tokens. -/
def readMoreItems (item : List Token → Reading Node) : Nat → List Token → Reading (List Node)
  | _, .closeBracket :: rest => .ok ([], rest)
  | most + 1, .comma :: rest =>
    (item rest).bind fun first =>
      (readMoreItems item most first.2).map fun more => (first.1 :: more.1, more.2)
  | _, _ => .error .malformed

/-- The nodes of an array behind its opening bracket. -/
def readItems (item : List Token → Reading Node) : List Token → Reading (List Node)
  | .closeBracket :: rest => .ok ([], rest)
  | tokens =>
    (item tokens).bind fun first =>
      (readMoreItems item tokens.length first.2).map fun more => (first.1 :: more.1, more.2)

mutual

/-- A **node** at the start of some tokens, with at most `depth` nested brackets. -/
def read : Nat → List Token → Reading Node
  | depth + 1, .openBrace :: rest => readObject depth (readChildren depth) rest
  | depth + 1, .openBracket :: rest => readArray depth (readChildren depth) rest
  | 0, .openBrace :: _ => .error .malformed
  | 0, .openBracket :: _ => .error .malformed
  | _, tokens => .error (Token.refusal .node tokens)

/-- The children of a node, with at most `depth` nested brackets. -/
def readChildren : Nat → List Token → Reading (List Node)
  | depth + 1, .openBracket :: rest => readItems (read depth) rest
  | 0, .openBracket :: _ => .error .malformed
  | _, tokens => .error (Token.refusal .children tokens)

end

/-- The greatest number of brackets inside one another in a syntax tree. -/
def greatestDepth : Nat := 127

/-- The **syntax tree** that a text is. Nothing may stand behind it. -/
def ofJsonText (t : Text) : Except TreeError Node :=
  match read greatestDepth (Token.ofText t) with
  | .ok (n, []) => .ok n
  | .ok _ => .error .malformed
  | .error e => .error e

end Node

end SequenceBridge
