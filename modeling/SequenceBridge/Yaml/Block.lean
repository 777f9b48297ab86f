import SequenceBridge.Yaml.BlockScalar
import SequenceBridge.Yaml.Flow

/-! # Nodes of YAML in blocks
Outside brackets a collection is a block: its entries begin in one column, and what belongs to an
entry stands further to the right. A sequence that is the value of a key may stand in the column of
the key itself.

* **`Yaml.blockNode`** — a node, with everything that is indented at least to a column.
* **`Yaml.blockItems`** — the items of a block sequence.
* **`Yaml.blockEntries`** — the entries of a block mapping.

Each of these takes a number of steps that exceeds what the text can need.
-/

namespace SequenceBridge.Yaml

/-- A node with further properties from an earlier line. An alias has none. -/
def attach? (p : Properties Text) : Yaml Text → Option (Yaml Text)
  | .scalar q isPlain t => (p.merge? q).map fun both => .scalar both isPlain t
  | .sequence q items => (p.merge? q).map fun both => .sequence both items
  | .mapping q entries => (p.merge? q).map fun both => .mapping both entries
  | .alias target => if p.isEmpty then some (.alias target) else none

/-- A node that is no block, behind the properties on its line. -/
def inlineContent (n : Nat) (ctx : Context) (p : Properties Text) (c : Cursor) : NodeReading :=
  if c.sees '*' then (if p.isEmpty then aliasNode c else none)
  else if c.sees '[' then
    (flowItems n ctx c.next).map fun found => (.sequence p found.1, found.2.withKeys false)
  else if c.sees '\x7b' then
    (flowEntries n ctx c.next).map fun found => (.mapping p found.1, found.2.withKeys false)
  else if c.sees '\'' then (singleQuoted? c).toNode p false
  else if c.sees '\x22' then (doubleQuoted? c).toNode p false
  else (plain? false ctx.least c).toNode p true

/-- A node that is no block, with the properties on its line. In front of a colon it may be
missing. -/
def inlineNode (n : Nat) (ctx : Context) (c : Cursor) : NodeReading :=
  if c.isAtProperty then
    (properties? ctx.handles false c).bind fun found =>
      if found.2.line ≠ c.line then none
      else if found.2.isAt ':' then some (missing found.1, found.2)
      else inlineContent n ctx found.1 found.2
  else
    inlineContent n ctx {} c

/-- Whether the properties at a cursor end their line. -/
def endsLine (c behind : Cursor) : Bool := behind.line ≠ c.line || behind.isAtEnd

/-- A block scalar as a node. -/
def blockScalarNode (ctx : Context) (p : Properties Text) (c : Cursor) : NodeReading :=
  (blockScalar? (c.sees '|') ctx.least c).toNode p false

/-- A context for what belongs to an entry at a cursor. -/
def Context.within (ctx : Context) (c : Cursor) : Context := ⟨ctx.handles, c.column + 1⟩

mutual

/-- A **node** in front of which properties stand on earlier lines. Where the text goes on further to
the left it is missing, unless it is a sequence in the column of its key, or a block scalar whose
indicator stands in the column of the entry that it belongs to. -/
def blockNode : Nat → Context → Bool → Properties Text → Cursor → NodeReading
  | 0, _, _, _, _ => none
  | n + 1, ctx, isValue, p, before =>
    let c := before.skipGap false
    if c.isAtEnd then some (missing p, c)
    else if c.column < ctx.least then
      if isValue && c.column + 1 = ctx.least && c.isAt '-' then
        -- a sequence in the column of its key
        if c.keyAllowed then
          (blockItems n ctx true c).map fun found => (.sequence p found.1, found.2)
        else none
      else if c.column + 1 = ctx.least && (c.sees '|' || c.sees '>') then blockScalarNode ctx p c
      else some (missing p, c)
    else if c.isAt '-' then
      if c.keyAllowed then
        (blockItems n (ctx.within c) false c).map fun found => (.sequence p found.1, found.2)
      else none
    else if c.isAt '?' then
      (blockEntries n (ctx.within c) c).map fun found => (.mapping p found.1, found.2)
    else if c.sees '|' || c.sees '>' then blockScalarNode ctx p c
    else blockContent n ctx isValue p c

/-- A node that begins with something other than an indicator of a block: a key of a mapping, or a
node of its own. Properties that end their line belong to what follows on the next lines. -/
def blockContent : Nat → Context → Bool → Properties Text → Cursor → NodeReading
  | 0, _, _, _, _ => none
  | n + 1, ctx, isValue, p, c =>
    match if c.isAtProperty then properties? ctx.handles false c else some ({}, c) with
    | none => none
    | some (own, behind) =>
      if c.isAtProperty && endsLine c behind then
        -- the node itself begins on a later line
        (p.merge? own).bind fun both => blockNode n ctx isValue both behind
      else if c.isAtProperty && (behind.sees '|' || behind.sees '>') then
        (p.merge? own).bind fun both => blockScalarNode ctx both behind
      else
        (inlineNode n ctx c).bind fun node =>
          let colon := node.2.skipGap false
          if colon.isAt ':' && c.isKeyTo colon then
            -- the node is the first key of a mapping, and the properties on its line are the key's
            (blockEntry n (ctx.within c) node.1 (colon.next.withKeys false)).map fun found =>
              (.mapping p found.1, found.2)
          else if c.isAtProperty && behind.isAt ':' then none
          else (attach? p node.1).map fun whole => (whole, node.2)

/-- The **items of a block sequence** from the indicator of one of them on. A sequence in the column
of its key ends where that column goes on with another key. -/
def blockItems : Nat → Context → Bool → Cursor → Option (List (Yaml Text) × Cursor)
  | 0, _, _, _ => none
  | n + 1, ctx, isValue, c =>
    (blockNode n ctx false {} (c.next.withKeys true)).bind fun item =>
      let behind := item.2.skipGap false
      if !behind.isAtEnd && behind.column + 1 = ctx.least && behind.isAt '-' then
        if behind.keyAllowed then
          (blockItems n ctx isValue behind).map fun found => (item.1 :: found.1, found.2)
        else none
      else if isValue || behind.isAtEnd || behind.column + 1 < ctx.least then
        some ([item.1], behind)
      else none

/-- The **entries of a block mapping** from the key of one of them on. A key behind a question mark
may be any node, and its value may be missing; any other key has to stand on one line with its
colon. -/
def blockEntries : Nat → Context → Cursor → Option (List (Yaml Text × Yaml Text) × Cursor)
  | 0, _, _ => none
  | n + 1, ctx, c =>
    if !c.keyAllowed then none
    else if c.isAt '?' then
      (blockNode n ctx true {} (c.next.withKeys true)).bind fun key =>
        let behind := key.2.skipGap false
        if !behind.isAtEnd && behind.column + 1 = ctx.least && behind.isAt ':' then
          if behind.keyAllowed then blockEntry n ctx key.1 (behind.next.withKeys true) else none
        else blockEntriesBehind n ctx (key.1, missing {}) behind
    else
      (inlineNode n ctx c).bind fun key =>
        let colon := key.2.skipGap false
        if colon.isAt ':' && c.isKeyTo colon then
          blockEntry n ctx key.1 (colon.next.withKeys false)
        else none

/-- An entry from behind its colon on, and the entries after it. -/
def blockEntry : Nat → Context → Yaml Text → Cursor →
    Option (List (Yaml Text × Yaml Text) × Cursor)
  | 0, _, _, _ => none
  | n + 1, ctx, key, c =>
    (blockNode n ctx true {} c).bind fun value =>
      blockEntriesBehind n ctx (key, value.1) (value.2.skipGap false)

/-- An entry with the entries after it, which begin in its column. -/
def blockEntriesBehind : Nat → Context → Yaml Text × Yaml Text → Cursor →
    Option (List (Yaml Text × Yaml Text) × Cursor)
  | 0, _, _, _ => none
  | n + 1, ctx, entry, c =>
    if c.isAtEnd || c.column + 1 < ctx.least then some ([entry], c)
    else if c.column + 1 = ctx.least then
      (blockEntries n ctx c).map fun found => (entry :: found.1, found.2)
    else none

end

end SequenceBridge.Yaml
