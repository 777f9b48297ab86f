import SequenceBridge.CommandLine.Run

/-! # The program
The only part that touches files, streams and the environment of the process. It hands them to
`run`, writes the outcome, and exits with its code.

* **`processHost`** — files and standard input of the process.
* **`main`** — the program.
-/

namespace SequenceBridge

/-- The number and the message that the operating system gives for an error. -/
def systemError : IO.Error → UInt32 × String
  | .alreadyExists _ code message => (code, message)
  | .otherError code message => (code, message)
  | .resourceBusy code message => (code, message)
  | .resourceVanished code message => (code, message)
  | .unsupportedOperation code message => (code, message)
  | .hardwareFault code message => (code, message)
  | .unsatisfiedConstraints code message => (code, message)
  | .illegalOperation code message => (code, message)
  | .protocolError code message => (code, message)
  | .timeExpired code message => (code, message)
  | .interrupted _ code message => (code, message)
  | .noFileOrDirectory _ code message => (code, message)
  | .invalidArgument _ code message => (code, message)
  | .permissionDenied _ code message => (code, message)
  | .resourceExhausted _ code message => (code, message)
  | .inappropriateType _ code message => (code, message)
  | .noSuchThing _ code message => (code, message)
  | .unexpectedEof => (0, "unexpected end of file")
  | .userError message => (0, message)

/-- The fault of an error. -/
def faultOf (e : IO.Error) : ReadFault :=
  match systemError e with
  | (2, _) => .notFound
  | (20, _) => .notDirectory
  | (21, _) => .isDirectory
  | (36, _) => .nameTooLong
  | (code, message) =>
    .other true (message.toList ++ " (os error ".toList ++ decimal code.toNat ++ [')'])

/-- The content of a file. -/
def readFile (path : Path) : IO (Except ReadFault Bytes) := do
  match path.text? with
  | none => return .error .notFound
  | some t =>
    try
      return .ok (← IO.FS.readBinFile (String.ofList t)).toList
    catch e => return .error (faultOf e)

/-- What is still to come on a stream, behind what has come already. -/
partial def readStream (stream : IO.FS.Stream) (before : ByteArray) : IO ByteArray := do
  let piece ← stream.read 65536
  if piece.isEmpty then return before else readStream stream (before ++ piece)

/-- The standard input of the process. -/
def readInput : IO (Except ReadFault Bytes) := do
  try
    return .ok (← readStream (← IO.getStdin) ByteArray.empty).toList
  catch e => return .error (faultOf e)

/-- The settings file of a directory, or else of the nearest directory above that has one. There are
no more of these than steps. -/
def readSettings : Nat → String → IO (Option Bytes)
  | 0, _ => return none
  | steps + 1, directory => do
    match ← readFile (Text.toBytes (directory ++ ".env").toList) with
    | .ok content => return some content
    | .error .notFound | .error .isDirectory => readSettings steps (directory ++ "../")
    | .error _ => return none

/-- **Files and standard input** of the process. -/
def processHost : Host IO where
  read := readFile
  standardInput := readInput
  settings := do
    let here ← IO.currentDir
    readSettings (Path.pieces (Text.toBytes here.toString.toList)).length ""
  help := HelpTopic.page

/-- The variables in the form in which the operating system lists them, a zero byte behind each. -/
def environmentOf (listed : Bytes) : Environment :=
  ⟨(Bytes.split 0 listed).filterMap fun entry =>
    match Word.splitValue entry with
    | (name, some value) => name.text?.map fun t => (t, value)
    | (_, none) => none⟩

/-- The environment of the process. -/
def readEnvironment : IO Environment := do
  match ← readFile (Text.toBytes "/proc/self/environ".toList) with
  | .ok listed => return environmentOf listed
  | .error _ =>
    let names := ["SEQN_DICTIONARY", "SEQN_LOG_LEVEL", "SEQN_SEQUENCE_NAME"]
    let bindings ← names.filterMapM fun name => do
      return (← IO.getEnv name).map fun value => (name.toList, Text.toBytes value.toList)
    return ⟨bindings⟩

/-- What is said of a command line that is wrong. -/
def usage : String :=
  String.intercalate " "
    ["usage: seqn-fprime [--log-level LEVEL] <from-fprime INPUT |",
     "to-fprime --tree TREE --source SOURCE [--dictionary DICTIONARY] [--name NAME] |",
     "lint --tree TREE --source SOURCE | version>"]

/-- What is said of a settings file with a value that cannot be set. -/
def unsettable : String := "a value in the settings file has a zero in it"

end SequenceBridge

open SequenceBridge in
/-- The **program**: a run of its command line. -/
def main (arguments : List String) : IO UInt32 := do
  let outcome ← run processHost (← readEnvironment) (arguments.map fun a => Text.toBytes a.toList)
  IO.print (String.ofList outcome.output)
  match outcome.error with
  | some e => IO.eprintln (String.ofList e.report)
  | none =>
    if outcome.exitCode = 2 then IO.eprintln usage
    if outcome = .abort then IO.eprintln unsettable
  return outcome.exitCode
