import SequenceBridge.Environment.Assignment
import SequenceBridge.Environment.Basic

/-! # Settings files
A settings file adds variables to the environment, but does not change those that are set to a text
already. Its lines are read in order, and the first one that cannot be read ends the reading; what
was assigned before stays. A value with a zero in it is no value for a variable, and an attempt to set
it ends the process.

* **`settingsLines`** — the lines of a settings file, quoted line breaks within them.
* **`Environment.assign?`** — an environment with one assignment, if that can be made.
* **`Environment.load`** — an environment with the variables of a settings file.
-/

namespace SequenceBridge

/-- Where a reading that looks for the end of a line is. Behind a blank a comment may begin. -/
inductive LineState
  | outside
  | blank
  | escaped
  | weak
  | weakEscaped
  | strong
  | strongEscaped
  | comment
  deriving DecidableEq, Repr

/-- The state behind a character. -/
def LineState.after (s : LineState) (c : Char) : LineState :=
  match s with
  | .outside =>
    if isBlank c && c ≠ '\n' && c ≠ '\r' then .blank
    else if c = '\\' then .escaped
    else if c = '\x22' then .weak
    else if c = '\'' then .strong
    else .outside
  | .blank =>
    if c = '#' then .comment
    else if c = '\\' then .escaped
    else if c = '\x22' then .weak
    else if c = '\'' then .strong
    else .outside
  | .escaped => .outside
  | .weak => if c = '\\' then .weakEscaped else if c = '\x22' then .outside else .weak
  | .weakEscaped => .weak
  | .strong => if c = '\\' then .strongEscaped else if c = '\'' then .outside else .strong
  | .strongEscaped => .strong
  | .comment => .comment

/-- The state at the end of a piece of a file, with the piece up to a comment. -/
def LineState.run : LineState → Text → LineState × Text
  | s, [] => (s, [])
  | s, c :: t =>
    match s.after c with
    | .comment => (.comment, [])
    | next => ((next.run t).1, c :: (next.run t).2)

/-- A line without the newline at its end, or the carriage return and newline. -/
def withoutEnding (line : Text) : Text :=
  match line.reverse with
  | '\n' :: '\r' :: t => t.reverse
  | '\n' :: t => t.reverse
  | _ => line

/-- The lines of a file from its pieces, each of which ends in a newline; a piece that is no text is
none. A line in which a quote is open goes on with the next piece. What is none in the result
cannot be read. -/
def gatherLines : LineState → Text → List (Option Text) → List (Option Text)
  | .outside, _, [] => []
  | _, _, [] => [none]
  | _, _, none :: _ => [none]
  | s, before, some piece :: rest =>
    let line := before ++ piece
    -- a line that is a comment as a whole may hold quotes that nothing closes
    if (Text.trimFront line).head? = some '#' then some [] :: gatherLines .outside [] rest
    else
      match s.run piece with
      | (.outside, _) => some (withoutEnding line) :: gatherLines .outside [] rest
      | (.comment, kept) => some (before ++ kept) :: gatherLines .outside [] rest
      | (open_, _) => gatherLines open_ line rest

/-- The pieces of a file, each with the newline at its end. -/
def filePieces (content : Bytes) : List Bytes :=
  content.foldr (fun b ps => if b = 0x0A then [b] :: ps else Bytes.consFirst b ps) []

/-- A file without the byte order mark in front of it. -/
def withoutMark : Bytes → Bytes
  | 0xEF :: 0xBB :: 0xBF :: rest => rest
  | content => content

/-- The **lines of a settings file**. -/
def settingsLines (content : Bytes) : List (Option Text) :=
  gatherLines .outside [] ((filePieces (withoutMark content)).map Bytes.text?)

namespace Environment

/-- The value that a name in an assignment stands for: that of the environment if it is a text, or
else the one assigned last. A name without a value stands for nothing. -/
def lookup (env : Environment) (assigned : List Assignment) (name : Text) : Text :=
  (env.text? name).getD (((assigned.find? fun a => a.name = name).map (·.value)).getD [])

/-- An environment with an **assignment**, unless the variable is set to a text already; none when the
value has a zero in it and so cannot be set. -/
def assign? (env : Environment) (a : Assignment) : Option Environment :=
  if (env.text? a.name).isSome then some env
  else if '\x00' ∈ a.value then none
  else some (env.set a.name a.value.toBytes)

/-- What **loading a settings file** comes to: the environment as far as it got, and the assignment that
could not be made, if there is one. -/
structure Loaded where
  environment : Environment
  refused : Option Assignment
  deriving DecidableEq, Repr

/-- The assignments of some lines, given those before them, the last one first. -/
def loadLines : Environment → List Assignment → List (Option Text) → Loaded
  | env, _, [] => ⟨env, none⟩
  | env, _, none :: _ => ⟨env, none⟩
  | env, assigned, some line :: rest =>
    match Assignment.ofLine? (env.lookup assigned) line with
    | none => ⟨env, none⟩
    | some none => loadLines env assigned rest
    | some (some a) =>
      match env.assign? a with
      | none => ⟨env, some a⟩
      | some next => loadLines next (a :: assigned) rest

/-- An environment with the variables of a **settings file**, if there is one. -/
def load (env : Environment) (file : Option Bytes) : Loaded :=
  match file with
  | none => ⟨env, none⟩
  | some content => loadLines env [] (settingsLines content)

end Environment

end SequenceBridge
