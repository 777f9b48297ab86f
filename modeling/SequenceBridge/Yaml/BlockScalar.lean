import SequenceBridge.Yaml.Scalar

/-! # Scalars of YAML in blocks
A block scalar is a run of indented lines behind a header. A literal one keeps its line breaks; in a
folded one a line break between two lines that do not begin with a blank stands for a space. The line
breaks at the end are kept as the header says.

* **`Yaml.Chomping`** — what becomes of the line breaks at the end.
* **`Yaml.BlockHeader`** — what stands behind the indicator of a block scalar.
* **`Yaml.blockScalar?`** — a block scalar.
-/

namespace SequenceBridge.Yaml

/-- What becomes of the **line breaks at the end** of a block scalar: none is kept, the first, or
all. -/
inductive Chomping
  | strip
  | clip
  | keep
  deriving DecidableEq, Repr

/-- The **header** of a block scalar: its line breaks at the end, and its indentation if that is
given. -/
structure BlockHeader where
  chomping : Chomping
  indentation : Option Nat
  deriving DecidableEq, Repr

/-- The character that says what becomes of the line breaks at the end. -/
def chomping? : Text → Option (Chomping × Text)
  | '+' :: t => some (.keep, t)
  | '-' :: t => some (.strip, t)
  | _ => none

/-- A digit that gives the indentation. Zero is no indentation. -/
def indentation? : Text → Option (Option Nat × Text)
  | [] => some (none, [])
  | c :: t =>
    if c = '0' then none
    else if c.isDigit then some (some (c.toNat - '0'.toNat), t)
    else some (none, c :: t)

/-- The **header** at the start of a text, its two parts in either order. -/
def blockHeader? (t : Text) : Option (BlockHeader × Text) :=
  match chomping? t with
  | some (chomping, t) => (indentation? t).map fun found => (⟨chomping, found.1⟩, found.2)
  | none =>
    (indentation? t).map fun found =>
      match found.1, chomping? found.2 with
      | some n, some (chomping, t) => (⟨chomping, some n⟩, t)
      | n, _ => (⟨.clip, n⟩, found.2)

/-- The text behind what may stand at the end of a header's line: blanks, and a comment behind
them. -/
def headerEnd? (t : Text) : Option Text :=
  let behind := t.dropWhile isSpacing
  let line :=
    if behind.head? = some '#' then behind.dropWhile fun c => !isBreak c else behind
  match line with
  | [] => some []
  | c :: t => if isBreak c then some t else none

/-- The greatest column of the blank lines at the start of a text and of the first line behind them,
given the greatest before; none when a tab stands in its indentation. -/
def deepest? : Nat → Text → Place → Option Nat
  | most, [], p => some (max most p.column)
  | most, c :: t, p =>
    if c = ' ' then deepest? most t (p.after c)
    else if c = '\t' then none
    else if isBreak c then deepest? (max most p.column) t (p.after c)
    else some (max most p.column)

/-- What has been read of a block scalar between two of its lines: the line break that ends the first
one, the line breaks of blank lines behind it, and whether the first one begins with a blank. -/
structure Between where
  ending : Text := []
  blank : Text := []
  isIndented : Bool := false
  deriving DecidableEq, Repr

namespace Between

/-- What stands for the line breaks in front of another line. -/
def text (b : Between) (isLiteral nextIndented : Bool) : Text :=
  if !isLiteral && b.ending = ['\n'] && !b.isIndented && !nextIndented then
    (if b.blank.isEmpty then [' '] else []) ++ b.blank
  else
    b.ending ++ b.blank

/-- What stands for the line breaks at the end. -/
def last (b : Between) : Chomping → Text
  | .strip => []
  | .clip => b.ending
  | .keep => b.ending ++ b.blank

end Between

/-- Where the reading of a block scalar is: between two lines, or in a line. -/
inductive BlockState
  | between (b : Between)
  | line (isIndented : Bool)
  deriving DecidableEq, Repr

/-- The rest of a block scalar whose lines begin at a column. A line with less indentation ends it,
unless it is blank. -/
def blockFrom (isLiteral : Bool) (chomping : Chomping) (column : Nat) :
    BlockState → Text → Place → ScalarReading
  | .between b, [], p => some (b.last chomping, ⟨[], p, true⟩)
  | .line _, [], p => some ([], ⟨[], p, true⟩)
  | .between b, c :: t, p =>
    if isBreak c then
      blockFrom isLiteral chomping column (.between { b with blank := b.blank ++ [c] }) t (p.after c)
    else if p.column < column ∧ c = ' ' then
      -- indentation does not belong to the content
      blockFrom isLiteral chomping column (.between b) t (p.after c)
    else if p.column < column ∧ c = '\t' then
      none
    else if p.column = column then
      -- another line, so the line breaks before it count
      ScalarReading.cons (b.text isLiteral (isSpacing c) ++ [c])
        (blockFrom isLiteral chomping column (.line (isSpacing c)) t (p.after c))
    else
      some (b.last chomping, ⟨c :: t, p, true⟩)
  | .line isIndented, c :: t, p =>
    if isBreak c then
      blockFrom isLiteral chomping column (.between ⟨[c], [], isIndented⟩) t (p.after c)
    else
      ScalarReading.cons [c] (blockFrom isLiteral chomping column (.line isIndented) t (p.after c))

/-- A **block scalar** at a cursor, within a block whose content begins at least at a column. Without
a given indentation its first line and the blank lines before that decide. -/
def blockScalar? (isLiteral : Bool) (least : Nat) (c : Cursor) : ScalarReading :=
  (blockHeader? c.next.rest).bind fun header =>
    (headerEnd? header.2).bind fun body =>
      let start : Place := ⟨c.place.index + (c.rest.length - body.length), c.place.line + 1, 0⟩
      let column? :=
        match header.1.indentation with
        | some n => some (least - 1 + n)
        | none => (deepest? 0 body start).map fun column => max column (max least 1)
      column?.bind fun column =>
        blockFrom isLiteral header.1.chomping column (.between {}) body start

end SequenceBridge.Yaml
