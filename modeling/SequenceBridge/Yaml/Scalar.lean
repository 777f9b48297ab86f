import SequenceBridge.Text.Hexadecimal
import SequenceBridge.Yaml.Cursor

/-! # Scalars of YAML on lines that flow
Plain and quoted scalars may go over several lines. A single line break within one stands for a
space, more of them stand for one less than there are, and blanks around line breaks do not count.

* **`Yaml.folded`** — what line breaks in a row stand for.
* **`Yaml.plain?`** — a plain scalar.
* **`Yaml.singleQuoted?`**, **`Yaml.doubleQuoted?`** — the scalars in quotes.
-/

namespace SequenceBridge.Yaml

/-- What **line breaks in a row** stand for. Separators of lines and paragraphs are always kept. -/
def folded : Text → Text
  | ['\n'] => [' ']
  | '\n' :: breaks => breaks
  | breaks => breaks

/-- Blanks and line breaks that have been read, and count only when something follows them. Behind a
line break that is escaped the others stand for themselves. -/
structure Pending where
  spaces : Text := []
  breaks : Text := []
  isBroken : Bool := false
  isEscaped : Bool := false
  deriving DecidableEq, Repr

namespace Pending

/-- What pending blanks stand for. -/
def text (g : Pending) : Text :=
  if !g.isBroken then g.spaces else if g.isEscaped then g.breaks else folded g.breaks

/-- One more blank. Behind a line break it does not count. -/
def addSpace (g : Pending) (c : Char) : Pending :=
  if g.isBroken then g else { g with spaces := g.spaces ++ [c] }

/-- One more line break. -/
def addBreak (g : Pending) (c : Char) : Pending :=
  { g with breaks := g.breaks ++ [c], isBroken := true }

/-- Nothing but an escaped line break. -/
def escapedBreak : Pending := ⟨[], [], true, true⟩

/-- Whether nothing is pending. -/
def isNone (g : Pending) : Bool := g.spaces.isEmpty && !g.isBroken

@[simp] theorem text_empty : ({} : Pending).text = [] := rfl

end Pending

/-- A scalar that has been read: its text, and the cursor behind it. -/
abbrev ScalarReading := Option (Text × Cursor)

/-- A reading with some text in front. -/
def ScalarReading.cons (front : Text) (r : ScalarReading) : ScalarReading :=
  r.map fun found => (front ++ found.1, found.2)

/-! ## Plain scalars -/

/-- The characters that separate the items of a collection in brackets, or enclose it. -/
def isFlowMark (c : Char) : Bool := c = ',' || c = '[' || c = ']' || c = '\x7b' || c = '\x7d'

/-- Whether a text can begin a plain scalar. -/
def beginsPlain (inFlow : Bool) : Text → Bool
  | [] => false
  | c :: t =>
    if c = '-' then !endsWord t
    else if c = '?' || c = ':' then !inFlow && !endsWord t
    else !(isSpacing c || isBreak c || isFlowMark c || "#&*!|>'\"%@\x60".toList.contains c)

/-- Whether a character that is not blank, with the text behind it, ends a plain scalar. -/
def endsPlain (inFlow : Bool) (c : Char) (t : Text) : Bool :=
  (c = ':' && endsWord t) || (inFlow && isFlowMark c)

/-- Whether a colon within a plain scalar in brackets stands too close to a separator. -/
def isStrayColon (inFlow : Bool) (c : Char) : Text → Bool
  | [] => false
  | d :: _ => inFlow && c = ':' && (isFlowMark d || d = '?')

/-- The rest of a plain scalar behind pending blanks. It goes on in lines that are indented to the
least column at least; a comment, the end of the document or an indicator ends it. -/
def plainFrom (inFlow : Bool) (least : Nat) : Pending → Text → Place → ScalarReading
  | g, [], p => some ([], ⟨[], p, g.isBroken⟩)
  | g, c :: t, p =>
    if isBreak c then
      plainFrom inFlow least (g.addBreak c) t (p.after c)
    else if isSpacing c then
      -- a tab may not stand in the indentation
      if g.isBroken && c = '\t' && decide (p.column < least) then none
      else plainFrom inFlow least (g.addSpace c) t (p.after c)
    -- behind blanks the scalar may be over: by its indentation, a comment, or a mark
    else if !g.isNone && ((!inFlow && decide (p.column < least)) || c = '#' ||
        (p.column = 0 && (opensDocument (c :: t) || closesDocument (c :: t)))) then
      some ([], ⟨c :: t, p, g.isBroken⟩)
    else if isStrayColon inFlow c t then
      none
    else if endsPlain inFlow c t then
      some ([], ⟨c :: t, p, g.isBroken⟩)
    else
      -- only now do the pending blanks count
      ScalarReading.cons (g.text ++ [c]) (plainFrom inFlow least {} t (p.after c))

/-- A **plain scalar** at a cursor. -/
def plain? (inFlow : Bool) (least : Nat) (c : Cursor) : ScalarReading :=
  if beginsPlain inFlow c.rest then plainFrom inFlow least {} c.rest c.place else none

/-! ## Quoted scalars -/

/-- Whether a mark of a document stands where a quoted scalar goes on. -/
def isMarked (t : Text) (p : Place) : Bool :=
  p.column = 0 && (opensDocument t || closesDocument t)

/-- The rest of a single-quoted scalar behind pending blanks. -/
def singleFrom : Pending → Text → Place → ScalarReading
  | _, [], _ => none
  | g, '\'' :: '\'' :: t, p =>
    ScalarReading.cons (g.text ++ ['\'']) (singleFrom {} t ((p.after '\'').after '\''))
  | g, '\'' :: t, p => some (g.text, ⟨t, p.after '\'', false⟩)
  | g, c :: t, p =>
    if isBreak c then singleFrom (g.addBreak c) t (p.after c)
    else if isSpacing c then singleFrom (g.addSpace c) t (p.after c)
    else if isMarked (c :: t) p then none
    else ScalarReading.cons (g.text ++ [c]) (singleFrom {} t (p.after c))

/-- A **single-quoted scalar** at a cursor. A quote in it is written twice. -/
def singleQuoted? (c : Cursor) : ScalarReading := singleFrom {} c.next.rest c.next.place

/-- The character that a letter behind a backslash stands for. -/
def escapedChar? : Char → Option Char
  | '0' => some '\x00'
  | 'a' => some '\x07'
  | 'b' => some '\x08'
  | 't' => some '\t'
  | '\t' => some '\t'
  | 'n' => some '\n'
  | 'v' => some '\x0b'
  | 'f' => some '\x0c'
  | 'r' => some '\r'
  | 'e' => some '\x1b'
  | ' ' => some ' '
  | '\x22' => some '\x22'
  | '/' => some '/'
  | '\\' => some '\\'
  | 'N' => some '\x85'
  | '_' => some '\u00a0'
  | 'L' => some '\u2028'
  | 'P' => some '\u2029'
  | _ => none

/-- The character that hexadecimal digits give by its number. -/
def hexChar? (digits : Text) : Option Char :=
  (digits.valueIn? 16).bind fun n => if n.isValidChar then some (Char.ofNat n) else none

/-- The place behind some characters without a line break. -/
def Place.along (p : Place) (count : Nat) : Place := ⟨p.index + count, p.line, p.column + count⟩

/-- A reading behind an escaped character, if it is one. -/
def ScalarReading.escaped (front : Text) (c : Option Char) (r : ScalarReading) : ScalarReading :=
  match c with
  | some c => r.cons (front ++ [c])
  | none => none

/-- The rest of a double-quoted scalar behind pending blanks. -/
def doubleFrom : Pending → Text → Place → ScalarReading
  | _, [], _ => none
  | g, '\x22' :: t, p => some (g.text, ⟨t, p.after '\x22', false⟩)
  | g, '\\' :: 'x' :: a :: b :: t, p =>
    ScalarReading.escaped g.text (hexChar? [a, b]) (doubleFrom {} t (p.along 4))
  | g, '\\' :: 'u' :: a :: b :: c :: d :: t, p =>
    ScalarReading.escaped g.text (hexChar? [a, b, c, d]) (doubleFrom {} t (p.along 6))
  | g, '\\' :: 'U' :: a :: b :: c :: d :: e :: f :: i :: j :: t, p =>
    ScalarReading.escaped g.text (hexChar? [a, b, c, d, e, f, i, j]) (doubleFrom {} t (p.along 10))
  | g, '\\' :: c :: t, p =>
    if isBreak c then
      ScalarReading.cons g.text (doubleFrom Pending.escapedBreak t ((p.after '\\').after c))
    else
      ScalarReading.escaped g.text (escapedChar? c) (doubleFrom {} t (p.along 2))
  | g, c :: t, p =>
    if isBreak c then doubleFrom (g.addBreak c) t (p.after c)
    else if isSpacing c then doubleFrom (g.addSpace c) t (p.after c)
    else if isMarked (c :: t) p || c = '\\' then none
    else ScalarReading.cons (g.text ++ [c]) (doubleFrom {} t (p.after c))

/-- A **double-quoted scalar** at a cursor. -/
def doubleQuoted? (c : Cursor) : ScalarReading := doubleFrom {} c.next.rest c.next.place

end SequenceBridge.Yaml
