import SequenceBridge.Text.Hexadecimal
import SequenceBridge.Yaml.Basic
import SequenceBridge.Yaml.Cursor

/-! # Anchors, aliases and tags
In front of a node may stand an anchor and a tag; an alias stands in the place of one. The shorthands
of tags are those of the document.

* **`Yaml.TagHandles`** — what the shorthands of tags stand for.
* **`Yaml.reference?`** — the name of an anchor or alias.
* **`Yaml.tag?`** — a tag.
* **`Yaml.properties?`** — the properties of a node that stand on one line.
-/

namespace SequenceBridge.Yaml

/-- The **shorthands of tags** with what they stand for, later ones first. -/
abbrev TagHandles := List (Text × Text)

/-- The shorthands that every document has. -/
def defaultHandles : TagHandles :=
  [("!".toList, "!".toList), ("!!".toList, "tag:yaml.org,2002:".toList)]

/-- The cursor behind the first characters that satisfy a condition, with these characters. -/
def Cursor.takeWhile (c : Cursor) (p : Char → Bool) : Text × Cursor :=
  (c.rest.takeWhile p, c.skip (c.rest.takeWhile p).length)

/-- Whether a text may follow the name of an anchor or alias. -/
def endsReference : Text → Bool
  | [] => true
  | c :: t => endsWord (c :: t) || "?:,]\x7d%@\x60".toList.contains c

/-- The **name of an anchor or alias** behind its indicator. -/
def reference? (c : Cursor) : Option (Text × Cursor) :=
  let name := c.next.takeWhile isNameChar
  if name.1.isEmpty || !endsReference name.2.rest then none
  else some (name.1, name.2.withKeys false)

/-- The characters of a tag that stand for themselves. -/
def isTagChar (inBrackets : Bool) (c : Char) : Bool :=
  isNameChar c || ";/?:@&=+$.!~*'()".toList.contains c ||
    (inBrackets && ",[]".toList.contains c)

/-- The characters of a tag at the start of a text. A percent sign needs two hexadecimal digits behind
it. -/
def tagChars? (inBrackets : Bool) : Text → Option Text
  | [] => some []
  | '%' :: a :: b :: t =>
    if (Text.valueIn? 16 [a, b]).isSome then
      (tagChars? inBrackets t).map fun rest => '%' :: a :: b :: rest
    else none
  | c :: t =>
    if c = '%' then none
    else if isTagChar inBrackets c then (tagChars? inBrackets t).map (c :: ·)
    else some []

/-- A tag in angle brackets, behind the first of them. -/
def verbatimTag? (c : Cursor) : Option (Text × Cursor) :=
  (tagChars? true c.rest).bind fun tag =>
    match (c.skip tag.length).rest with
    | '>' :: _ => if tag.isEmpty then none else some (tag, (c.skip tag.length).next)
    | _ => none

/-- A shorthand with the rest of a tag behind it, as the tag that they stand for. -/
def expand? (handles : TagHandles) (handle rest : Text) : Option Text :=
  (handles.find? fun h => h.1 = handle).map fun h => h.2 ++ rest

/-- A tag with a shorthand, from its first exclamation mark on. A shorthand of more than that mark
has another one at its end, and needs something behind it; the mark alone is a tag. -/
def shorthandTag? (handles : TagHandles) (c : Cursor) : Option (Text × Cursor) :=
  let name := c.next.takeWhile isNameChar
  match name.2.rest with
  | '!' :: t =>
    (tagChars? false t).bind fun rest =>
      if rest.isEmpty then none
      else
        (expand? handles ('!' :: name.1 ++ ['!']) rest).map fun tag =>
          (tag, name.2.next.skip rest.length)
  | t =>
    (tagChars? false t).bind fun more =>
      let rest := name.1 ++ more
      if rest.isEmpty then some (['!'], name.2)
      else (expand? handles ['!'] rest).map fun tag => (tag, name.2.skip more.length)

/-- A **tag** at a cursor. A blank, a line break or, within brackets, a comma follows it. -/
def tag? (handles : TagHandles) (inFlow : Bool) (c : Cursor) : Option (Text × Cursor) :=
  let found :=
    match c.next.rest with
    | '<' :: _ => verbatimTag? c.next.next
    | _ => shorthandTag? handles c
  found.bind fun tag =>
    if endsWord tag.2.rest || (inFlow && tag.2.sees ',') then
      some (tag.1, tag.2.withKeys false)
    else none

/-- One anchor or tag at a cursor, as properties. -/
def property? (handles : TagHandles) (inFlow : Bool) (c : Cursor) :
    Option (Properties Text × Cursor) :=
  match c.rest with
  | '&' :: _ => (reference? c).map fun found => (⟨some found.1, none⟩, found.2)
  | '!' :: _ => (tag? handles inFlow c).map fun found => (⟨none, some found.1⟩, found.2)
  | _ => none

/-- Whether an anchor or a tag begins at a cursor. -/
def Cursor.isAtProperty (c : Cursor) : Bool :=
  c.sees '&' || c.sees '!'

/-- The **properties** at a cursor that stand on one line, with the cursor behind the gap after them.
There is at most one anchor and one tag. Within brackets they may stand on several lines. -/
def properties? (handles : TagHandles) (inFlow : Bool) (c : Cursor) :
    Option (Properties Text × Cursor) :=
  (property? handles inFlow c).bind fun first =>
    let behind := first.2.skipGap inFlow
    if behind.isAtProperty && (inFlow || behind.line = c.line) then
      (property? handles inFlow behind).bind fun second =>
        let end_ := second.2.skipGap inFlow
        -- two properties are one anchor and one tag, so a third is one too many
        if end_.isAtProperty && (inFlow || end_.line = c.line) then none
        else (first.1.merge? second.1).map fun both => (both, end_)
    else
      some (first.1, behind)

end SequenceBridge.Yaml
