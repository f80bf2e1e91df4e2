import StructuralLint.Cli.Invocation

/-!
# Arguments of the command line

The program takes global settings and a task; the task takes settings and paths. A setting is
written `--name value` or `--name=value`, and where it has a letter also `-l value`, `-lvalue` or
`-l=value`. Two dashes alone end the settings of a task. A setting is given at most once before the
task and once for the task, and what is given for the task counts.

The last setting before the task is checked late: its value is looked at only after the task has
been read, so that a request for help in the task is answered first.
-/

namespace StructuralLint.Cli

/-- The form of an argument. -/
inductive Token where
  /-- Two dashes alone. -/
  | escape
  /-- A name after two dashes, and what stands after its equals sign. -/
  | long (name : String) (value : Option String)
  /-- A letter after a dash, and what follows it. -/
  | short (letter : Char) (rest : List Char)
  /-- Anything else, a dash alone included. -/
  | word (text : String)
deriving DecidableEq, Repr

/-- The form of an argument. -/
def Token.ofText (text : String) : Token :=
  match text.toList with
  | ['-', '-'] => escape
  | '-' :: '-' :: characters =>
      let name := String.ofList (characters.takeWhile (· != '='))
      match characters.dropWhile (· != '=') with
      | _ :: value => long name (some (String.ofList value))
      | [] => long name none
  | '-' :: letter :: rest => short letter rest
  | _ => word text

/-- What an option asks for. -/
inductive Switch where
  | reply (reply : Reply)
  /-- A setting, with its value where the option holds it. -/
  | setting (setting : Setting) (value : Option String)
deriving DecidableEq, Repr

namespace Switch

/-- The switch that a name denotes. -/
def ofLong (topic : Topic) (name : String) (value : Option String) : Switch :=
  match topic.settings.find? (·.longName == name) with
  | some found => setting found value
  | none =>
      if value.isSome then reply .misuse
      else if name == "help" then reply (.help topic)
      else if name == "version" && topic == .program then reply .version
      else reply .misuse

/-- The switch that a letter denotes; what follows the letter is the value of a setting. -/
def ofShort (topic : Topic) (letter : Char) (rest : List Char) : Switch :=
  match topic.settings.find? (·.letter? == some letter) with
  | some found =>
      setting found
        (match rest with
        | [] => none
        | '=' :: value => some (String.ofList value)
        | value => some (String.ofList value))
  | none =>
      if letter == 'h' then reply (.help topic)
      else if letter == 'V' && topic == .program then reply .version
      else reply .misuse

end Switch

/-! ## The arguments of a task -/

/-- What was read of the arguments of a task. -/
structure TaskArguments where
  settled : Settled := []
  /-- A setting whose value comes next. -/
  awaiting : Option Setting := none
  paths : List String := []
  /-- The settings have ended. -/
  isLiteral : Bool := false
deriving Repr

namespace TaskArguments

/-- Takes in a path; only an analysis has paths, and none is empty. -/
def addPath (arguments : TaskArguments) (topic : Topic) (path : String) :
    Except Reply TaskArguments :=
  if topic == .analyze && path != "" then
    .ok { arguments with paths := arguments.paths ++ [path] }
  else .error .misuse

/-- Takes in a switch. -/
def addSwitch (arguments : TaskArguments) (switch : Switch) : Except Reply TaskArguments :=
  match arguments.awaiting, switch with
  | some _, _ => .error .misuse
  | none, .reply reply => .error reply
  | none, .setting setting none => .ok { arguments with awaiting := some setting }
  | none, .setting setting (some value) => do
    return { arguments with settled := ← arguments.settled.add setting value }

/-- Takes in an argument. -/
def add (topic : Topic) (arguments : TaskArguments) (argument : String) :
    Except Reply TaskArguments :=
  if arguments.isLiteral then arguments.addPath topic argument
  else
    match Token.ofText argument with
    | .escape =>
        if arguments.awaiting.isSome then .error .misuse
        else .ok { arguments with isLiteral := true }
    | .long name value => arguments.addSwitch (Switch.ofLong topic name value)
    | .short letter rest => arguments.addSwitch (Switch.ofShort topic letter rest)
    | .word text =>
        match arguments.awaiting with
        | none => arguments.addPath topic text
        | some setting => do
          return { arguments with
            settled := ← arguments.settled.add setting text
            awaiting := none }

/-- Reads the arguments of a task. -/
def read (topic : Topic) (arguments : List String) : Except Reply TaskArguments := do
  let read ← arguments.foldlM (add topic) {}
  if read.awaiting.isSome || (topic == .analyze && read.paths.isEmpty) then throw .misuse
  return read

/-- The task of some arguments. -/
def toTask (arguments : TaskArguments) (topic : Topic) : Task :=
  match topic with
  | .analyze =>
      .analyze arguments.paths
        ((arguments.settled.get? .workers).bind workers?)
        (((arguments.settled.get? .format).bind Format.ofText?).getD .text)
        ((arguments.settled.get? .failOn).bind Severity.ofText?)
  | _ => .rules

end TaskArguments

/-! ## The arguments of the program -/

/-- What was read of the arguments before the task. -/
structure GlobalArguments where
  settled : Settled := []
  /-- A setting whose value comes next. -/
  awaiting : Option Setting := none
  /-- The last setting, with a value that was not checked yet. -/
  unchecked : Option (Setting × String) := none
deriving Repr

namespace GlobalArguments

/-- Checks the last setting. -/
def check (arguments : GlobalArguments) : Except Reply Settled :=
  match arguments.unchecked with
  | some (setting, value) => arguments.settled.add setting value
  | none => .ok arguments.settled

/-- Takes in a switch. -/
def addSwitch (arguments : GlobalArguments) (switch : Switch) : Except Reply GlobalArguments := do
  if arguments.awaiting.isSome then throw .misuse
  let settled ← arguments.check
  match switch with
  | .reply reply => throw reply
  | .setting setting none => return { settled, awaiting := some setting }
  | .setting setting (some value) => return { settled := ← settled.add setting value }

end GlobalArguments

/-- The topic with a name. -/
def Topic.ofText? (text : String) : Option Topic :=
  match text with
  | "analyze" => some .analyze
  | "rules" => some .rules
  | "help" => some .help
  | _ => none

/-- The reply to a request for help on some topics: topics have no topics of their own. -/
def helpOn : List String → Reply
  | [] => .help .program
  | [name] =>
      match Topic.ofText? name with
      | some topic => .help topic
      | none => .misuse
  | _ => .misuse

/--
The file of settings: the one given for the task, before the task, or in the environment, which
may not name an empty path wherever it is looked at.
-/
def configOf (before during : Settled) (environment : Option String) :
    Except Reply (Option String) :=
  let given := (during.get? .config).or (before.get? .config)
  if environment == some "" &&
      ((during.get? .config).isNone || (before.get? .config).isNone) then .error .misuse
  else .ok (given.or environment)

/-- Reads a task and its arguments, and completes what was read before it. -/
def Invocation.ofTask (before : GlobalArguments) (topic : Topic) (rest : List String)
    (environment : Option String) : Except Reply Invocation := do
  let arguments ← TaskArguments.read topic rest
  let settled ← before.check
  return {
    config := ← configOf settled arguments.settled environment
    task := arguments.toTask topic }

/-- Reads the arguments that follow some global ones. -/
def Invocation.readAfter (environment : Option String) (before : GlobalArguments) :
    List String → Except Reply Invocation
  | [] => .error .misuse
  | argument :: rest =>
      match Token.ofText argument with
      | .escape => .error .misuse
      | .long name value => do
        readAfter environment (← before.addSwitch (Switch.ofLong .program name value)) rest
      | .short letter tail => do
        readAfter environment (← before.addSwitch (Switch.ofShort .program letter tail)) rest
      | .word text =>
          match before.awaiting, Topic.ofText? text with
          | some setting, _ =>
              readAfter environment
                { before with awaiting := none, unchecked := some (setting, text) } rest
          | none, some .help => .error (helpOn rest)
          | none, some topic => Invocation.ofTask before topic rest environment
          | none, none => .error .misuse

/-- Reads the arguments of the program; the environment may name a file of settings. -/
def Invocation.read (environment : Option String) (arguments : List String) :
    Except Reply Invocation :=
  readAfter environment {} arguments

end StructuralLint.Cli
