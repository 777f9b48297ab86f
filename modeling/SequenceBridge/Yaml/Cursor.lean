import SequenceBridge.Text.Basic

/-! # Places in a YAML text
YAML gives a meaning to lines and columns: what belongs together is indented alike, and a key has to
stand on one line with its colon. A cursor is what is still to be read, with its place in the text.

* **`Yaml.unified`** — a text with one kind of line break.
* **`Yaml.Place`** — index, line and column of a character.
* **`Yaml.Cursor`** — the rest of a text, its place, and whether a key may begin there.
* **`Yaml.Cursor.skipGap`** — the next character that is neither blank nor in a comment.
-/

namespace SequenceBridge.Yaml

/-! ## Characters -/

/-- The characters that a YAML text may hold. -/
def isAllowed (c : Char) : Bool :=
  let n := c.toNat
  n = 0x09 || n = 0x0A || n = 0x0D || (0x20 ≤ n && n ≤ 0x7E) || n = 0x85 ||
    (0xA0 ≤ n && n ≤ 0xFFFD) || 0x10000 ≤ n

/-- A text in which carriage returns, pairs of carriage return and newline, and next-line characters
have become newlines. -/
def unified : Text → Text
  | [] => []
  | '\r' :: '\n' :: t => '\n' :: unified t
  | c :: t => (if c = '\r' ∨ c = '\x85' then '\n' else c) :: unified t

/-- A space or a tab. -/
def isSpacing (c : Char) : Bool := c = ' ' || c = '\t'

/-- A line break of a unified text: a newline, a line separator or a paragraph separator. -/
def isBreak (c : Char) : Bool := c = '\n' || c = '\u2028' || c = '\u2029'

/-- Whether a text is over, or goes on with a blank or a line break. -/
def endsWord : Text → Bool
  | [] => true
  | c :: _ => isSpacing c || isBreak c

/-- Whether a text begins with the mark of a document's beginning. -/
def opensDocument : Text → Bool
  | '-' :: '-' :: '-' :: t => endsWord t
  | _ => false

/-- Whether a text begins with the mark of a document's end. -/
def closesDocument : Text → Bool
  | '.' :: '.' :: '.' :: t => endsWord t
  | _ => false

/-- The characters of anchors and of names in tags. -/
def isNameChar (c : Char) : Bool := c.isAlphanum || c = '_' || c = '-'

/-! ## Cursors -/

/-- The **place** of a character, counted from zero. -/
structure Place where
  index : Nat
  line : Nat
  column : Nat
  deriving DecidableEq, Repr

/-- The place behind a character that stands at a place. -/
def Place.after (p : Place) (c : Char) : Place :=
  if isBreak c then ⟨p.index + 1, p.line + 1, 0⟩ else ⟨p.index + 1, p.line, p.column + 1⟩

/-- A **cursor**: what is still to be read, where that is, and whether a key or an entry of a block
may begin there. -/
structure Cursor where
  rest : Text
  place : Place
  keyAllowed : Bool
  deriving DecidableEq, Repr

namespace Cursor

/-- A cursor at the beginning of a text. -/
def ofText (t : Text) : Cursor := ⟨t, ⟨0, 0, 0⟩, true⟩

/-- A cursor one character further. -/
def next (c : Cursor) : Cursor :=
  match c.rest with
  | [] => c
  | x :: t => ⟨t, c.place.after x, c.keyAllowed⟩

/-- A cursor some characters further. -/
def skip : Nat → Cursor → Cursor
  | 0, c => c
  | n + 1, c => c.next.skip n

/-- A cursor at which a key may begin, or may not. -/
def withKeys (c : Cursor) (allowed : Bool) : Cursor := ⟨c.rest, c.place, allowed⟩

/-- The column of a cursor. -/
def column (c : Cursor) : Nat := c.place.column

/-- The line of a cursor. -/
def line (c : Cursor) : Nat := c.place.line

/-- Whether a character stands at a cursor. -/
def sees (c : Cursor) (x : Char) : Bool := c.rest.head? = some x

/-- Whether a cursor stands at the mark of a document's beginning or end. -/
def isAtMark (c : Cursor) : Bool :=
  c.column = 0 && (opensDocument c.rest || closesDocument c.rest)

/-- Whether the document is over at a cursor. -/
def isAtEnd (c : Cursor) : Bool := c.rest.isEmpty || c.isAtMark

/-- Whether an indicator of one character stands at a cursor, with the end of a word behind it. -/
def isAt (c : Cursor) (indicator : Char) : Bool :=
  match c.rest with
  | x :: t => x = indicator && endsWord t
  | [] => false

/-- The cursor behind blanks, line breaks and comments. Within brackets tabs are blanks; elsewhere
they are none where a key may begin, and behind a line break one may. -/
def gapFrom (inFlow : Bool) : Bool → Bool → Text → Place → Cursor
  | _, allowed, [], p => ⟨[], p, allowed⟩
  | inComment, allowed, x :: t, p =>
    if isBreak x then
      -- a line break ends a comment, and a key may begin on the next line
      gapFrom inFlow false (allowed || !inFlow) t (p.after x)
    else if inComment || x = ' ' || (x = '\t' && (inFlow || !allowed)) then
      gapFrom inFlow inComment allowed t (p.after x)
    else if x = '#' then
      gapFrom inFlow true allowed t (p.after x)
    else
      ⟨x :: t, p, allowed⟩

/-- The cursor **behind a gap** of blanks, line breaks and comments. -/
def skipGap (c : Cursor) (inFlow : Bool) : Cursor := gapFrom inFlow false c.keyAllowed c.rest c.place

/-- The greatest distance between the beginning of a key and its colon. -/
def longestKey : Nat := 1024

/-- Whether what begins at one cursor is a key when its colon stands at another. -/
def isKeyTo (start colon : Cursor) : Bool :=
  start.keyAllowed && start.line = colon.line && colon.place.index ≤ start.place.index + longestKey

end Cursor

end SequenceBridge.Yaml
