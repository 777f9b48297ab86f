import SequenceBridge.Text.Decimal
import SequenceBridge.Yaml.Property

/-! # Directives of YAML
In front of a document may stand lines that name the version of YAML, or shorthands for tags.

* **`Yaml.Directives`** — what the directives of a document say.
* **`Yaml.directives?`** — the directives at a cursor.
-/

namespace SequenceBridge.Yaml

/-- What the **directives** of a document say: whether there are any, whether they name a version,
and the shorthands. -/
structure Directives where
  isAny : Bool := false
  hasVersion : Bool := false
  handles : TagHandles := []
  deriving DecidableEq, Repr

/-- The cursor behind blanks. -/
def Cursor.skipSpacing (c : Cursor) : Cursor := (c.takeWhile isSpacing).2

/-- The cursor behind the end of a directive's line, where only a comment may stand. -/
def directiveEnd? (c : Cursor) : Option Cursor :=
  let behind := c.skipSpacing
  let last := if behind.sees '#' then (behind.takeWhile fun x => !isBreak x).2 else behind
  match last.rest with
  | [] => some (last.withKeys false)
  | x :: _ => if isBreak x then some (last.next.withKeys false) else none

/-- A number of at most nine digits. -/
def versionNumber? (c : Cursor) : Option (Nat × Cursor) :=
  let digits := c.takeWhile Char.isDigit
  if digits.1.isEmpty || 9 < digits.1.length then none
  else some (Nat.ofDigitChars 10 digits.1 0, digits.2)

/-- The versions that can be read are 1.1 and 1.2. -/
def version? (c : Cursor) : Option Cursor :=
  (versionNumber? c.skipSpacing).bind fun major =>
    if major.2.sees '.' then
      (versionNumber? major.2.next).bind fun minor =>
        if major.1 = 1 ∧ (minor.1 = 1 ∨ minor.1 = 2) then some minor.2 else none
    else none

/-- A shorthand for tags with what it stands for. -/
def handle? (c : Cursor) : Option ((Text × Text) × Cursor) :=
  let start := c.skipSpacing
  if start.sees '!' then
    let name := start.next.takeWhile isNameChar
    let handle? :=
      if name.2.sees '!' then some ('!' :: name.1 ++ ['!'], name.2.next)
      else if name.1.isEmpty then some (['!'], name.2)
      else none
    handle?.bind fun handle =>
      let behind := handle.2.skipSpacing
      if behind.place.index = handle.2.place.index then none
      else
        (tagChars? true behind.rest).bind fun tag =>
          let last := behind.skip tag.length
          if tag.isEmpty || !endsWord last.rest then none else some ((handle.1, tag), last)
  else none

/-- One directive at a cursor. -/
def directive? (d : Directives) (c : Cursor) : Option (Directives × Cursor) :=
  let name := c.next.takeWhile isNameChar
  if !endsWord name.2.rest then none
  else if name.1 = "YAML".toList then
    if d.hasVersion then none
    else ((version? name.2).bind directiveEnd?).map fun behind => (⟨true, true, d.handles⟩, behind)
  else if name.1 = "TAG".toList then
    (handle? name.2).bind fun handle =>
      if d.handles.any fun h => h.1 = handle.1.1 then none
      else
        (directiveEnd? handle.2).map fun behind =>
          (⟨true, d.hasVersion, handle.1 :: d.handles⟩, behind)
  else none

/-- The **directives at a cursor**, with the cursor behind the gap after them. There are no more of
them than steps. -/
def directives? : Nat → Directives → Cursor → Option (Directives × Cursor)
  | 0, d, c => some (d, c)
  | n + 1, d, c =>
    if c.column = 0 && c.sees '%' then
      (directive? d c).bind fun found => directives? n found.1 (found.2.skipGap false)
    else some (d, c)

end SequenceBridge.Yaml
