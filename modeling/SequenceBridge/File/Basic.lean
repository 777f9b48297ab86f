import SequenceBridge.Text.Utf8

/-! # Paths and reading faults
A path is a list of bytes, its pieces between slashes. Reading what it leads to can fail, and then
the message is the one that the operating system has for the fault.

* **`Path`** — a path; **`Path.shown`** is its text in a message.
* **`Path.isStandardInput`** — whether a path stands for the standard input.
* **`ReadFault`** — why nothing could be read; **`ReadFault.message`** says it.
-/

namespace SequenceBridge

/-- A **path** to a file, as bytes. -/
abbrev Path := Bytes

namespace Path

/-- The **pieces** of a path between its slashes, empty ones too. -/
def pieces (p : Path) : List Bytes := Bytes.split 0x2F p

/-- A piece that stays where it is: an empty one, or a single point. -/
def isStill (piece : Bytes) : Bool := piece.isEmpty || piece = ['.'.toUInt8]

/-- Whether a path stands for the **standard input**: a single hyphen, with nothing behind it but
pieces that stay where they are. -/
def isStandardInput (p : Path) : Bool :=
  match p.pieces with
  | first :: rest => first = ['-'.toUInt8] && rest.all isStill
  | [] => false

/-- The text of a path **in a message**. -/
def shown (p : Path) : Text := Bytes.shown p

end Path

/-- **Why nothing could be read.** A fault of another kind brings its own message, and tells whether
something is there at all. -/
inductive ReadFault
  | notFound
  | notDirectory
  | nameTooLong
  | isDirectory
  | notText
  | other (isPresent : Bool) (message : Text)
  deriving DecidableEq, Repr

namespace ReadFault

/-- The **message** of a fault. -/
def message : ReadFault → Text
  | .notFound => "No such file or directory (os error 2)".toList
  | .notDirectory => "Not a directory (os error 20)".toList
  | .nameTooLong => "File name too long (os error 36)".toList
  | .isDirectory => "Is a directory (os error 21)".toList
  | .notText => "stream did not contain valid UTF-8".toList
  | .other _ message => message

/-- Whether a fault says that a path leads nowhere. -/
def isAbsence : ReadFault → Bool
  | .notFound | .notDirectory | .nameTooLong => true
  | .isDirectory | .notText => false
  | .other isPresent _ => !isPresent

end ReadFault

/-- What a reading gave, **as a text**. -/
def readText (result : Except ReadFault Bytes) : Except ReadFault Text :=
  match result with
  | .error fault => .error fault
  | .ok content =>
    match content.text? with
    | some t => .ok t
    | none => .error .notText

end SequenceBridge
