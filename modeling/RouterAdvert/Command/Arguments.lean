/-!
# Command lines

The arguments of the command line tool and the help texts. What is wrong with unusable arguments is
not told apart.
-/

namespace RouterAdvert.Command

inductive Action
  | check
  | preview
deriving DecidableEq, Repr

namespace Action

def keyword : Action → String
  | check => "check"
  | preview => "show"

def about : Action → String
  | check => "Validate radv.toml and print diagnostics"
  | preview => "Build the session from radv.toml and print what it would advertise"

def ofKeyword? (word : String) : Option Action :=
  if word = check.keyword then some check
  else if word = preview.keyword then some preview
  else none

end Action

inductive Topic
  | tool
  | action (a : Action)
  | help
deriving DecidableEq, Repr

inductive Request
  | help (topic : Topic)
  | run (action : Action) (path : String)
deriving DecidableEq, Repr

def defaultPath : String := "radv.toml"

def helpAbout : String := "Print this message or the help of the given subcommand(s)"

def helpLines : Topic → List String
  | .tool => [
      "IPv6 Router Advertisement session configuration", "", "Usage: radv <COMMAND>", "",
      "Commands:", "  check  " ++ Action.check.about, "  show   " ++ Action.preview.about,
      "  help   " ++ helpAbout, "", "Options:", "  -h, --help  Print help"]
  | .action a => [
      a.about, "", "Usage: radv " ++ a.keyword ++ " [OPTIONS]", "", "Options:",
      "  -c, --config <CONFIG>  Path to radv.toml [default: radv.toml]",
      "  -h, --help             Print help"]
  | .help => [
      helpAbout, "", "Usage: radv help [COMMAND]...", "", "Arguments:",
      "  [COMMAND]...  Print help for the subcommand(s)"]

def readHelp? : List String → Option Request
  | [] => some (.help .tool)
  | [word] =>
    if word = "help" then some (.help .help)
    else (Action.ofKeyword? word).map fun a => .help (.action a)
  | _ => none

/-- Whether an argument is an option or the mark `--`, and so no value. -/
def isOption (argument : String) : Bool :=
  match argument.toList with
  | '-' :: _ :: _ => true
  | _ => false

inductive Argument
  | help
  | config (attached : Option (List Char))
  | endOfOptions
  | unknown
deriving DecidableEq, Repr

/-- Reads an argument of an action. A value may follow the short option directly or after an equals
sign, and the long one after an equals sign. -/
def Argument.ofChars (cs : List Char) : Argument :=
  match cs with
  | ['-', '-'] => .endOfOptions
  | '-' :: '-' :: long =>
    match String.ofList (long.takeWhile (· ≠ '=')), long.dropWhile (· ≠ '=') with
    | "help", [] => .help
    | "config", [] => .config none
    | "config", _ :: value => .config (some value)
    | _, _ => .unknown
  | '-' :: 'h' :: _ => .help
  | ['-', 'c'] => .config none
  | '-' :: 'c' :: '=' :: value => .config (some value)
  | '-' :: 'c' :: value => .config (some value)
  | _ => .unknown

/-- Takes the value of the path option, which is not empty and may be given once. -/
def takePath? (path : Option String) (value : String) : Option String :=
  if path.isSome ∨ value = "" then none else some value

/-- The arguments of an action, with the path if it was given already. Arguments are read one after
the other, so that help asked for before a mistake is given. -/
def readAction? (a : Action) (path : Option String) : List String → Option Request
  | [] => some (.run a (path.getD defaultPath))
  | argument :: rest =>
    match Argument.ofChars argument.toList with
    | .help => some (.help (.action a))
    | .config (some value) =>
      (takePath? path (String.ofList value)).bind fun p => readAction? a (some p) rest
    | .config none =>
      match rest with
      | [] => none
      | value :: rest =>
        if isOption value then none
        else (takePath? path value).bind fun p => readAction? a (some p) rest
    | .endOfOptions => if rest = [] then some (.run a (path.getD defaultPath)) else none
    | .unknown => none

/-- What a command line asks for, or nothing if it cannot be understood. -/
def Request.ofArguments? : List String → Option Request
  | [] => none
  | word :: rest =>
    match Action.ofKeyword? word with
    | some a => readAction? a none rest
    | none =>
      if word = "help" then readHelp? rest
      else if Argument.ofChars word.toList = .help then some (.help .tool)
      else none

end RouterAdvert.Command
