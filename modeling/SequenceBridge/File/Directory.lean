import SequenceBridge.File.Basic

/-! # Directories in memory
A directory lists what lies below it, each entry under the pieces of its path. A path is followed
from the directory piece by piece; only a directory can be gone through. Nothing is known of what
lies outside but that there are directories.

* **`Directory`** — what lies below a directory.
* **`Directory.read`** — the content of the file that a path leads to.
-/

namespace SequenceBridge

/-- What a path can lead to. -/
inductive FileEntry
  | file (content : Bytes)
  | directory
  deriving DecidableEq, Repr

/-- A **directory** with everything below it. Directories on the way to an entry need no entry of
their own. -/
structure Directory where
  entries : List (List Bytes × FileEntry)
  deriving Repr

namespace Directory

/-- What lies at some pieces below the directory. -/
def entry? (d : Directory) (place : List Bytes) : Option FileEntry :=
  match d.entries.find? fun e => e.1 = place with
  | some e => some e.2
  | none =>
    if place.isEmpty || d.entries.any fun e => place.isPrefixOf e.1 then some .directory else none

/-- The greatest number of bytes in a piece of a path. -/
def longestPiece : Nat := 255

/-- The greatest number of bytes in a path. -/
def longestPath : Nat := 4095

/-- What lies at some pieces behind a place outside. -/
def outside (rest : List Bytes) : Except ReadFault FileEntry :=
  if rest.all fun piece => Path.isStill piece || piece = "..".toList.map Char.toUInt8 then
    .ok .directory
  else
    .error .notFound

/-- What some pieces lead to from a place. -/
def follow (d : Directory) : List Bytes → List Bytes → Except ReadFault FileEntry
  | place, [] =>
    match d.entry? place with
    | some e => .ok e
    | none => .error .notFound
  | place, piece :: rest =>
    match d.entry? place with
    | none => .error .notFound
    | some (.file _) => .error .notDirectory
    | some .directory =>
      if longestPiece < piece.length then .error .nameTooLong
      else if Path.isStill piece then d.follow place rest
      else if piece = "..".toList.map Char.toUInt8 then
        if place.isEmpty then outside rest else d.follow place.dropLast rest
      else d.follow (place ++ [piece]) rest

/-- What a path leads to. -/
def find (d : Directory) (p : Path) : Except ReadFault FileEntry :=
  if p.isEmpty then .error .notFound
  else if longestPath < p.length then .error .nameTooLong
  else if p.head? = some '/'.toUInt8 then outside p.pieces
  else d.follow [] p.pieces

/-- The **content of the file** that a path leads to. -/
def read (d : Directory) (p : Path) : Except ReadFault Bytes :=
  match d.find p with
  | .error fault => .error fault
  | .ok .directory => .error .isDirectory
  | .ok (.file content) => .ok content

end Directory

end SequenceBridge
