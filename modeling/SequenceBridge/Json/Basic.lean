import SequenceBridge.Text.Decimal
import SequenceBridge.Text.Quoted

/-! # JSON in writing
The documents that the program writes are JSON, either compact or spread over lines.

* **`Json`** — a JSON value; its numbers are natural numbers.
* **`Json.quote`** — a text as a JSON string.
* **`Json.compact`** — a value without any white space.
* **`Json.pretty`** — a value over several lines, two spaces deeper for each level.
-/

namespace SequenceBridge

/-- A **JSON value**. The fields of an object keep their order. -/
inductive Json
  | null
  | bool (b : Bool)
  | number (n : Nat)
  | string (t : Text)
  | array (items : List Json)
  | object (fields : List (Text × Json))
  deriving Repr

namespace Json

/-- A text up to four digits wide, zeros in front. -/
def fourDigits (t : Text) : Text := List.replicate (4 - t.length) '0' ++ t

/-- One character between the quotes of a JSON string. Controls without a letter of their own are
written as their code point. -/
def quoteChar (c : Char) : Text :=
  if c = '\x22' then ['\\', '\x22']
  else if c = '\\' then ['\\', '\\']
  else if c = '\x08' then ['\\', 'b']
  else if c = '\t' then ['\\', 't']
  else if c = '\n' then ['\\', 'n']
  else if c = '\x0c' then ['\\', 'f']
  else if c = '\r' then ['\\', 'r']
  else if c.toNat < 0x20 then ['\\', 'u'] ++ fourDigits (hexadecimal c.toNat)
  else [c]

/-- A text as a **JSON string**. -/
def quote (t : Text) : Text := '\x22' :: t.flatMap quoteChar ++ ['\x22']

mutual

/-- A value **without white space**. -/
def compact : Json → Text
  | .null => "null".toList
  | .bool b => (if b then "true" else "false").toList
  | .number n => decimal n
  | .string t => quote t
  | .array items => '[' :: Text.commas (compactItems items) ++ [']']
  | .object fields => '\x7b' :: Text.commas (compactFields fields) ++ ['\x7d']

/-- The items of an array without white space. -/
def compactItems : List Json → List Text
  | [] => []
  | j :: js => j.compact :: compactItems js

/-- The fields of an object without white space. -/
def compactFields : List (Text × Json) → List Text
  | [] => []
  | (key, j) :: js => (quote key ++ ':' :: j.compact) :: compactFields js

end

/-- A new line at a depth. -/
def newline (depth : Nat) : Text := '\n' :: List.replicate (2 * depth) ' '

/-- Pieces between brackets, each on a line of its own; brackets without pieces stay together. -/
def bracketed (opening closing : Char) (depth : Nat) (pieces : List Text) : Text :=
  if pieces.isEmpty then [opening, closing]
  else
    opening :: newline (depth + 1) ++ List.intercalate (',' :: newline (depth + 1)) pieces ++
      newline depth ++ [closing]

mutual

/-- A value over several lines, its first line at a depth. -/
def prettyAt (depth : Nat) : Json → Text
  | .array items => bracketed '[' ']' depth (prettyItems (depth + 1) items)
  | .object fields => bracketed '\x7b' '\x7d' depth (prettyFields (depth + 1) fields)
  | .null => "null".toList
  | .bool b => (if b then "true" else "false").toList
  | .number n => decimal n
  | .string t => quote t

/-- The items of an array at a depth. -/
def prettyItems (depth : Nat) : List Json → List Text
  | [] => []
  | j :: js => j.prettyAt depth :: prettyItems depth js

/-- The fields of an object at a depth. -/
def prettyFields (depth : Nat) : List (Text × Json) → List Text
  | [] => []
  | (key, j) :: js => (quote key ++ ':' :: ' ' :: j.prettyAt depth) :: prettyFields depth js

end

/-- A value **over several lines**. -/
def pretty (j : Json) : Text := j.prettyAt 0

end Json

end SequenceBridge
