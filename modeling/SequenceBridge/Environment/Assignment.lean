import SequenceBridge.Text.Blank
import SequenceBridge.Text.Letter

/-! # Assignments in a settings file
A line of a settings file gives a value to a variable. A value may be quoted: single quotes keep it as
it is, within double quotes and without quotes a backslash protects a character, and a dollar sign
puts in the value of another variable.

* **`assignedValue?`** — what the text behind an equality sign stands for.
* **`Assignment`** — a variable with its value.
* **`Assignment.ofLine?`** — the assignment in a line.
-/

namespace SequenceBridge

/-- Where the reading of a value is. Names and escapes know whether they stand in double quotes. -/
inductive ValueState
  | bare
  | strong
  | weak
  | escaped (inQuotes : Bool)
  | name (inQuotes : Bool) (letters : Text)
  | braced (inQuotes : Bool) (letters : Text)
  | ended
  deriving DecidableEq, Repr

namespace ValueState

/-- The state outside names and escapes. -/
def outside (inQuotes : Bool) : ValueState := if inQuotes then .weak else .bare

end ValueState

/-- The character that a protected character stands for. -/
def protectedChar? : Char → Option Char
  | '\\' => some '\\'
  | '\'' => some '\''
  | '\x22' => some '\x22'
  | '$' => some '$'
  | ' ' => some ' '
  | 'n' => some '\n'
  | _ => none

/-- What the rest of a value stands for, given the values of other variables; none when a quote or a
brace stays open, a backslash stands before another character, or something but a comment follows a
blank outside quotes. The character that ends a name stands for itself. -/
def valueFrom? (lookup : Text → Text) : ValueState → Text → Option Text
  | .bare, [] | .ended, [] | .escaped false, [] => some []
  | .name false letters, [] => some (lookup letters)
  | _, [] => none
  | .ended, c :: t =>
    if c = ' ' ∨ c = '\t' then valueFrom? lookup .ended t else if c = '#' then some [] else none
  | .escaped inQuotes, c :: t =>
    (protectedChar? c).bind fun d => (valueFrom? lookup (.outside inQuotes) t).map (d :: ·)
  | .strong, c :: t =>
    if c = '\'' then valueFrom? lookup .bare t else (valueFrom? lookup .strong t).map (c :: ·)
  | .name inQuotes letters, c :: t =>
    if isLetterOrNumber c then valueFrom? lookup (.name inQuotes (letters ++ [c])) t
    else if c = '\x7b' ∧ letters = [] then valueFrom? lookup (.braced inQuotes []) t
    -- the dollar sign that ends a name begins another one
    else if c = '$' then (valueFrom? lookup (.name inQuotes []) t).map (lookup letters ++ ·)
    else (valueFrom? lookup (.outside inQuotes) t).map (lookup letters ++ c :: ·)
  | .braced inQuotes letters, c :: t =>
    if isLetterOrNumber c then valueFrom? lookup (.braced inQuotes (letters ++ [c])) t
    else if c = '\x7d' then (valueFrom? lookup (.outside inQuotes) t).map (lookup letters ++ ·)
    else valueFrom? lookup (.braced inQuotes (letters ++ [c])) t
  | .weak, c :: t =>
    if c = '$' then valueFrom? lookup (.name true []) t
    else if c = '\x22' then valueFrom? lookup .bare t
    else if c = '\\' then valueFrom? lookup (.escaped true) t
    else (valueFrom? lookup .weak t).map (c :: ·)
  | .bare, c :: t =>
    if c = '$' then valueFrom? lookup (.name false []) t
    else if c = '\'' then valueFrom? lookup .strong t
    else if c = '\x22' then valueFrom? lookup .weak t
    else if c = '\\' then valueFrom? lookup (.escaped false) t
    else if c = ' ' ∨ c = '\t' then valueFrom? lookup .ended t
    else (valueFrom? lookup .bare t).map (c :: ·)

/-- What the text behind an equality sign **stands for**. -/
def assignedValue? (lookup : Text → Text) (t : Text) : Option Text :=
  match t.trimFront with
  | [] => some []
  | c :: t => if c = '#' then some [] else valueFrom? lookup .bare (c :: t)

/-- A **variable with its value**. -/
structure Assignment where
  name : Text
  value : Text
  deriving DecidableEq, Repr

/-- A character with which a name begins. -/
def beginsName (c : Char) : Bool := c.isAlpha || c = '_'

/-- A character within a name. -/
def isInName (c : Char) : Bool := c.isAlphanum || c = '_' || c = '.'

/-- The name at the start of a text, with what follows it behind blanks. -/
def takeName? : Text → Option (Text × Text)
  | [] => none
  | c :: t =>
    if beginsName c then
      some ((c :: t).takeWhile isInName, Text.trimFront ((c :: t).dropWhile isInName))
    else none

namespace Assignment

/-- The name of the variable that a text assigns to, with what follows the equality sign. The word
`export` may stand in front of it, or be that name itself. -/
def target? (t : Text) : Option (Text × Text) :=
  (takeName? t).bind fun first =>
    match first.2 with
    | '=' :: behind => some (first.1, behind)
    | other =>
      if first.1 = "export".toList then
        (takeName? other).bind fun second =>
          match second.2 with
          | '=' :: behind => some (second.1, behind)
          | _ => none
      else none

/-- The **assignment in a line**, given the values of other variables. A blank line and a comment hold
none. The outer result is none when the line is no such thing. -/
def ofLine? (lookup : Text → Text) (line : Text) : Option (Option Assignment) :=
  match Text.trimFront line.trimEnd with
  | [] => some none
  | c :: t =>
    if c = '#' then some none
    else
      (target? (c :: t)).bind fun target =>
        (assignedValue? lookup target.2).map fun value => some ⟨target.1, value⟩

end Assignment

end SequenceBridge
