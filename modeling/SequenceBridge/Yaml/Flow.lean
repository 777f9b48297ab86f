import SequenceBridge.Yaml.Property
import SequenceBridge.Yaml.Scalar

/-! # Nodes of YAML in brackets
Within brackets indentation has no meaning: commas separate the items, and a comma may stand behind
the last one. JSON is written this way.

* **`Yaml.flowNode`** — a node within brackets.
* **`Yaml.flowItems`** — the items of a sequence, up to its closing bracket.
* **`Yaml.flowEntries`** — the entries of a mapping, up to its closing brace.

Each of these takes a number of steps that exceeds what the text can need.
-/

namespace SequenceBridge.Yaml

/-- What the reading of a node depends on: the shorthands of tags, and the least column of the block
that the node stands in. -/
structure Context where
  handles : TagHandles
  least : Nat

/-- A node that has been read, and the cursor behind it. -/
abbrev NodeReading := Option (Yaml Text × Cursor)

/-- A scalar that has been read, as a node. -/
def ScalarReading.toNode (r : ScalarReading) (p : Properties Text) (isPlain : Bool) : NodeReading :=
  r.map fun found => (.scalar p isPlain found.1, found.2)

/-- An alias at a cursor. -/
def aliasNode (c : Cursor) : NodeReading :=
  (reference? c).map fun found => (.alias found.1, found.2)

/-- A mapping of one entry, without properties. -/
def single (key value : Yaml Text) : Yaml Text := .mapping {} [(key, value)]

mutual

/-- A **node within brackets**, at a cursor behind a gap. -/
def flowNode : Nat → Context → Cursor → NodeReading
  | 0, _, _ => none
  | n + 1, ctx, c =>
    if c.isAtMark then none
    else if c.sees '*' then aliasNode c
    else if c.isAtProperty then
      (properties? ctx.handles true c).bind fun found => flowContent n ctx found.1 found.2
    else flowContent n ctx {} c

/-- A node within brackets behind its properties. With properties it may be missing. -/
def flowContent : Nat → Context → Properties Text → Cursor → NodeReading
  | 0, _, _, _ => none
  | n + 1, ctx, p, c =>
    if c.isAtMark then none
    else if c.sees '[' then
      (flowItems n ctx c.next).map fun found => (.sequence p found.1, found.2.withKeys false)
    else if c.sees '\x7b' then
      (flowEntries n ctx c.next).map fun found => (.mapping p found.1, found.2.withKeys false)
    else if c.sees '\'' then (singleQuoted? c).toNode p false
    else if c.sees '\x22' then (doubleQuoted? c).toNode p false
    else if beginsPlain true c.rest then (plain? true ctx.least c).toNode p true
    else if p.isEmpty then none
    else some (missing p, c)

/-- The node behind a colon. It is missing where the items go on or end. -/
def flowValue : Nat → Context → Char → Cursor → NodeReading
  | 0, _, _, _ => none
  | n + 1, ctx, closing, c =>
    if (c.skipGap true).sees ',' || (c.skipGap true).sees closing then
      some (missing {}, c.skipGap true)
    else flowNode n ctx (c.skipGap true)

/-- The **items of a sequence** behind its opening bracket or a comma. A key with its value is a
mapping of its own. -/
def flowItems : Nat → Context → Cursor → Option (List (Yaml Text) × Cursor)
  | 0, _, _ => none
  | n + 1, ctx, c =>
    let start := (c.skipGap true).withKeys true
    if start.sees ']' then some ([], start.next)
    else if start.sees '?' then
      (flowPairKey n ctx (start.next.skipGap true)).bind fun key =>
        flowPairValue n ctx key.1 (key.2.skipGap true)
    else
      (flowNode n ctx start).bind fun item =>
        let behind := item.2.skipGap true
        if behind.sees ':' then
          if start.isKeyTo behind then flowPairValue n ctx item.1 behind else none
        else flowItemsBehind n ctx item.1 behind

/-- The key of an item that is marked as one. Where a separator stands in its place the key is
missing, and so is the separator. -/
def flowPairKey : Nat → Context → Cursor → NodeReading
  | 0, _, _ => none
  | n + 1, ctx, c =>
    if c.sees ':' || c.sees ',' then some (missing {}, c.next)
    else flowNode n ctx c

/-- An item that has a key, from behind the key, and the items after it. -/
def flowPairValue : Nat → Context → Yaml Text → Cursor → Option (List (Yaml Text) × Cursor)
  | 0, _, _, _ => none
  | n + 1, ctx, key, c =>
    if c.sees ':' then
      (flowValue n ctx ']' c.next).bind fun value =>
        flowItemsBehind n ctx (single key value.1) (value.2.skipGap true)
    else flowItemsBehind n ctx (single key (missing {})) c

/-- An item with the items after it, from what separates them. -/
def flowItemsBehind : Nat → Context → Yaml Text → Cursor → Option (List (Yaml Text) × Cursor)
  | 0, _, _, _ => none
  | n + 1, ctx, item, c =>
    if c.sees ',' then (flowItems n ctx c.next).map fun found => (item :: found.1, found.2)
    else if c.sees ']' then some ([item], c.next)
    else none

/-- The **entries of a mapping** behind its opening brace or a comma. A key without a colon has no
value. -/
def flowEntries : Nat → Context → Cursor → Option (List (Yaml Text × Yaml Text) × Cursor)
  | 0, _, _ => none
  | n + 1, ctx, c =>
    let start := (c.skipGap true).withKeys true
    if start.sees '\x7d' then some ([], start.next)
    else if start.sees '?' then
      (flowKey n ctx (start.next.skipGap true)).bind fun key =>
        flowEntry n ctx key.1 (key.2.skipGap true)
    else
      (flowNode n ctx start).bind fun key =>
        let behind := key.2.skipGap true
        if behind.sees ':' && !start.isKeyTo behind then none
        else flowEntry n ctx key.1 behind

/-- The key of an entry that is marked as one. It is missing where its value, the entries or their
end follow. -/
def flowKey : Nat → Context → Cursor → NodeReading
  | 0, _, _ => none
  | n + 1, ctx, c =>
    if c.sees ':' || c.sees ',' || c.sees '\x7d' then some (missing {}, c)
    else flowNode n ctx c

/-- An entry from behind its key, and the entries after it. -/
def flowEntry : Nat → Context → Yaml Text → Cursor →
    Option (List (Yaml Text × Yaml Text) × Cursor)
  | 0, _, _, _ => none
  | n + 1, ctx, key, c =>
    if c.sees ':' then
      (flowValue n ctx '\x7d' c.next).bind fun value =>
        flowEntriesBehind n ctx (key, value.1) (value.2.skipGap true)
    else flowEntriesBehind n ctx (key, missing {}) c

/-- An entry with the entries after it, from what separates them. -/
def flowEntriesBehind : Nat → Context → Yaml Text × Yaml Text → Cursor →
    Option (List (Yaml Text × Yaml Text) × Cursor)
  | 0, _, _, _ => none
  | n + 1, ctx, entry, c =>
    if c.sees ',' then (flowEntries n ctx c.next).map fun found => (entry :: found.1, found.2)
    else if c.sees '\x7d' then some ([entry], c.next)
    else none

end

end SequenceBridge.Yaml
