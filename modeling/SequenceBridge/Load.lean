import SequenceBridge.Dictionary.Reader
import SequenceBridge.File.Basic
import SequenceBridge.Tree.Reader

/-! # Loading syntax trees and dictionaries
A file that is to be loaded has to be there, to be readable text, and to hold what is expected of it.
The first of these that fails is the error.

* **`LoadError`** — why a file could not be loaded; **`LoadError.message`** says it.
* **`loadText`** — the text of a file that is to be loaded.
* **`loadTree`** — the syntax tree that a file holds.
* **`loadDictionary`** — the dictionary that a file holds.
-/

namespace SequenceBridge

/-- **Why a file could not be loaded**, with its path. -/
inductive LoadError
  | missingPath (path : Path)
  | unreadable (path : Path) (fault : ReadFault)
  | dictionary (path : Path)
  | tree (path : Path) (reason : TreeError)
  deriving DecidableEq, Repr

namespace LoadError

/-- The **message** of an error. -/
def message : LoadError → Text
  | .missingPath path => "path does not exist: ".toList ++ path.shown
  | .unreadable path _ => "failed to read ".toList ++ path.shown
  | .dictionary path =>
    "failed to parse command dictionary from ".toList ++ path.shown ++ ": ".toList ++
      Dictionary.readingFailure
  | .tree path reason =>
    "failed to parse syntax tree from ".toList ++ path.shown ++ ": ".toList ++ reason.message

/-- The fault that an error comes from, if it comes from reading. -/
def fault? : LoadError → Option ReadFault
  | .unreadable _ fault => some fault
  | _ => none

end LoadError

/-- The **text of a file** that is to be loaded, from what reading it gave. -/
def loadText (path : Path) (result : Except ReadFault Bytes) : Except LoadError Text :=
  match readText result with
  | .ok t => .ok t
  | .error fault =>
    if fault.isAbsence then .error (.missingPath path) else .error (.unreadable path fault)

/-- The **syntax tree** that a file holds, from what reading it gave. -/
def loadTree (path : Path) (result : Except ReadFault Bytes) : Except LoadError Node :=
  match loadText path result with
  | .error e => .error e
  | .ok t =>
    match Node.ofJsonText t with
    | .ok root => .ok root
    | .error e => .error (.tree path e)

/-- The **dictionary** that a file holds, from what reading it gave. -/
def loadDictionary (path : Path) (result : Except ReadFault Bytes) : Except LoadError Dictionary :=
  match loadText path result with
  | .error e => .error e
  | .ok t =>
    match Dictionary.ofYamlText? t with
    | some d => .ok d
    | none => .error (.dictionary path)

end SequenceBridge
