import SequenceBridge.CommandLine.Arguments
import SequenceBridge.Environment.Basic

/-! # Help
A command line may ask for help instead of naming an action, by an option on either side of the name of
an action or by a name of its own. Help is given as soon as it is asked for: what stands behind is not
looked at, and nothing is missed. What stands before has to be right, but for a value in a word of its
own, which is looked at only when the next option or operand comes.

* **`HelpTopic`** — what help is about.
* **`asksForHelp`** — whether help is asked for on one side of the name of an action.
* **`HelpTopic.ofArguments?`** — what a command line asks help about.
* **`HelpTopic.page`** — the text about it.
-/

namespace SequenceBridge

/-- **What help is about**: the program, one of its actions, or help itself. -/
inductive HelpTopic
  | program
  | importText
  | exportTree
  | lint
  | version
  | help
  deriving DecidableEq, Repr

namespace HelpTopic

/-- The name of a topic on the command line. -/
def name : HelpTopic → String
  | .program => "seqn-fprime"
  | .importText => "from-fprime"
  | .exportTree => "to-fprime"
  | .lint => "lint"
  | .version => "version"
  | .help => "help"

/-- The topics below the program. -/
def below : List HelpTopic := [.importText, .exportTree, .lint, .version, .help]

/-- The topic that a word names. -/
def named? (word : Bytes) : Option HelpTopic :=
  below.find? fun topic => Text.toBytes topic.name.toList = word

/-- The options of a topic, but for the level of the log. -/
def options : HelpTopic → List String
  | .exportTree => ["tree", "source", "dictionary", "name"]
  | .lint => ["tree", "source"]
  | .program | .importText | .version | .help => []

/-- How many operands a topic takes. -/
def operands : HelpTopic → Nat
  | .importText => 1
  | _ => 0

end HelpTopic

/-! ## Asking for help -/

/-- Whether a word **asks for help**: the long option as it stands, or the short one with anything behind
it. -/
def Word.isHelp : Bytes → Bool
  | 0x2D :: 0x68 :: _ => true
  | word => word = Text.toBytes "--help".toList

namespace Options

/-- Whether an option has a proper value. A path may not be empty, and any other value is a text. -/
def isProperValue (option : Text × Bytes) : Bool :=
  if option.1 ∈ ["tree".toList, "source".toList, "dictionary".toList] then !option.2.isEmpty
  else option.2.text?.isSome

/-- Whether no option is given twice, and each has a proper value. -/
def isProper (options : Options) : Bool := options.isUnique && options.all isProperValue

/-- The options before the name of an action as far as they have been looked at by then: all but a last
one whose value is a word of its own. -/
def lookedAt (options : Options) (words : List Bytes) : Options :=
  if words.getLast?.any fun word => Word.ofBytes word = .operand then options.dropLast else options

end Options

/-- Whether help is **asked for on one side** of the name of an action. The options and operands before
it have to be right; none of the latter may come where reading stops. -/
def asksForHelp (names : List String) (operands : Nat) (stops : Bool) (words : List Bytes) : Bool :=
  let before := words.takeWhile fun word => !Word.isHelp word
  before ≠ words && (before.all fun word => Word.ofBytes word ≠ .endOfOptions) &&
    (readOptions? ("log-level" :: names) stops before).any fun found =>
      found.1.isProper && found.2.length ≤ operands && found.2.all fun operand => !operand.isEmpty

namespace HelpTopic

/-- What the words behind a name ask help about. Help as a name takes the name of a topic, or none. -/
def ofNamed? (topic : HelpTopic) (words : List Bytes) : Option HelpTopic :=
  if topic = .help then
    match words with
    | [] => some .program
    | [other] => named? other
    | _ => none
  else if asksForHelp topic.options topic.operands false words then some topic
  else none

/-- What a command line **asks help about**, none when it asks for none or is wrong before it does. -/
def ofArguments? (words : List Bytes) : Option HelpTopic :=
  if asksForHelp [] 0 true words then some .program
  else
    (readOptions? ["log-level"] true words).bind fun found =>
      match found.2 with
      | [] => none
      | name :: rest =>
        if (found.1.lookedAt (words.take (words.length - found.2.length))).isProper then
          (named? name).bind fun topic => topic.ofNamed? rest
        else none

/-! ## Pages -/

/-- What a topic is about. -/
def about : HelpTopic → String
  | .program => "Convert command sequences between SeqN and FPrime"
  | .importText => "Rewrite an FPrime sequence as SeqN"
  | .exportTree => "Convert a parsed SeqN sequence to FPrime"
  | .lint => "Report FPrime time tag problems in a parsed SeqN sequence"
  | .version => "Show version information"
  | .help => "Print this message or the help of the given subcommand(s)"

/-- What follows the name of a topic on its usage line. -/
def usage : HelpTopic → String
  | .program => " [OPTIONS] <COMMAND>"
  | .importText => " from-fprime [OPTIONS] <INPUT>"
  | .exportTree => " to-fprime [OPTIONS] --tree <TREE> --source <SOURCE>"
  | .lint => " lint [OPTIONS] --tree <TREE> --source <SOURCE>"
  | .version => " version [OPTIONS]"
  | .help => " help [COMMAND]..."

/-- The operands of a topic, each with what it is. -/
def operandRows : HelpTopic → List (Text × Text)
  | .importText => [("  <INPUT>".toList, "FPrime file, or `-` for stdin".toList)]
  | .help => [("  [COMMAND]...".toList, "Print help for the subcommand(s)".toList)]
  | _ => []

/-- What an option is for. -/
def optionAbout : String → String
  | "log-level" => "Log filter, e.g. `debug` or `seqn_fprime=trace`"
  | "tree" => "Syntax tree of the sequence, as JSON"
  | "source" => "SeqN source the tree was parsed from, or `-` for stdin"
  | "dictionary" => "Command dictionary (JSON or YAML)"
  | _ => "Sequence name passed to the output format"

/-- The variable that stands in for an option. -/
def optionVariable? : String → Option Text
  | "log-level" => some "SEQN_LOG_LEVEL".toList
  | "dictionary" => some "SEQN_DICTIONARY".toList
  | _ => none

/-- An option with what it is for, and with the variable that stands in for it and its value. -/
def optionRow (env : Environment) (name : String) : Text × Text :=
  let value := name.toList.map fun c => if c = '-' then '_' else c.toUpper
  let variable_ := (optionVariable? name).map fun v =>
    " [env: ".toList ++ v ++ '=' :: ((env.get? v).map Bytes.shown).getD [] ++ [']']
  ("      --".toList ++ name.toList ++ " <".toList ++ value ++ ['>'],
    (optionAbout name).toList ++ variable_.getD [])

/-- The options of a topic, each with what it is for. Help itself has none. -/
def optionRows (env : Environment) (topic : HelpTopic) : List (Text × Text) :=
  if topic = .help then []
  else
    (("log-level" :: topic.options).map (optionRow env)) ++
      [("  -h, --help".toList, "Print help".toList)]

/-- The topics below a topic, each with what it is about. -/
def topicRows : HelpTopic → List (Text × Text)
  | .program => below.map fun topic => ("  ".toList ++ topic.name.toList, topic.about.toList)
  | _ => []

/-- A section of a page, its rows in two columns; a section without rows is left out. -/
def sectionLines (title : String) (rows : List (Text × Text)) : List Text :=
  let width := (rows.map fun row => row.1.length).foldl max 0
  if rows.isEmpty then []
  else
    [] :: title.toList :: rows.map fun row =>
      row.1 ++ List.replicate (width + 2 - row.1.length) ' ' ++ row.2

/-- The **page** about a topic. -/
def page (env : Environment) (topic : HelpTopic) : Text :=
  Text.unlines ([topic.about.toList, [], "Usage: seqn-fprime".toList ++ topic.usage.toList] ++
    sectionLines "Commands:" topic.topicRows ++ sectionLines "Arguments:" topic.operandRows ++
    sectionLines "Options:" (topic.optionRows env) ++ [[]])

end HelpTopic

end SequenceBridge
