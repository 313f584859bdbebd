import ChordRules.Program

/-! # The command line

The arguments name one command. Two options may stand before and after it, each at most once on
either side; behind two dashes nothing may follow. Arguments that break these rules are misused,
and then nothing is printed. A request for help counts as soon as it is met; as a command, help
comes before the check of a path that stands just before it. -/
namespace ChordRules

/-- What can be done on the command line. -/
inductive Command where
  | run | check | tokens | list
  deriving DecidableEq, Repr

namespace Command

def name : Command → String
  | run => "run"
  | check => "check"
  | tokens => "tokens"
  | list => "list"

def summary : Command → String
  | run => "Run the rules against incoming key events"
  | check => "Parse the rules and print the syntax tree"
  | tokens => "Print the token stream of the rules"
  | list => "List the input devices key events can be read from"

def all : List Command := [run, check, tokens, list]

def ofName? (s : String) : Option Command := all.find? (·.name == s)

end Command

def programName : String := "keyrules"
def versionText : String := programName ++ " 0.1.0\n"
def defaultConfig : String := "/etc/keyrules.toml"

/-- A text filled up with blanks to a width. -/
def padded (width : Nat) (s : String) : String :=
  s ++ String.ofList (List.replicate (width - s.length) ' ')

def optionLines : List String :=
  ["      --config <CONFIG>  Path to config file [default: " ++ defaultConfig ++ "]",
   "      --debug            Print debug log output",
   "  -h, --help             Print help"]

def unlines (lines : List String) : String := String.join (lines.map (· ++ "\n"))

/-- The summary of the command that prints help. -/
def helpSummary : String := "Print this message or the help of the given subcommand(s)"

def helpText : String :=
  unlines <|
    ["Runs key event rule scripts", "", "Usage: " ++ programName ++ " [OPTIONS] <COMMAND>", "",
      "Commands:"] ++
    Command.all.map (fun c => "  " ++ padded 6 c.name ++ "  " ++ c.summary) ++
    ["  " ++ padded 6 "help" ++ "  " ++ helpSummary, "", "Options:"] ++ optionLines ++
    ["  -V, --version          Print version"]

def Command.helpText (c : Command) : String :=
  unlines <|
    [c.summary, "", "Usage: " ++ programName ++ " " ++ c.name ++ " [OPTIONS]", "", "Options:"] ++
    optionLines

def helpHelpText : String :=
  unlines
    [helpSummary, "", "Usage: " ++ programName ++ " help [COMMAND]...", "", "Arguments:",
     "  [COMMAND]...  Print help for the subcommand(s)"]

/-- What the arguments ask for. -/
inductive Invocation where
  | perform (c : Command) (config : String) (debug : Bool)
  | showText (text : String)
  deriving DecidableEq, Repr

/-- The options given on one side of the command. A path that stands apart from its option is
held unchecked until the next option on that side, or until all arguments are read. -/
structure OptionsGiven where
  config : Option String := none
  debug : Bool := false
  held : Option String := none

namespace OptionsGiven

def giveConfig (value : String) (o : OptionsGiven) : Option OptionsGiven :=
  if o.config.isSome || value == "" then none else some { o with config := some value }

/-- Takes the path that is held. -/
def settle (o : OptionsGiven) : Option OptionsGiven :=
  match o.held with
  | none => some o
  | some value => giveConfig value { o with held := none }

def giveDebug (o : OptionsGiven) : Option OptionsGiven :=
  if o.debug then none else some { o with debug := true }

def hold (value : String) (o : OptionsGiven) : OptionsGiven := { o with held := some value }

end OptionsGiven

/-- What has been read of the arguments. -/
structure ArgumentReading where
  command : Option Command := none
  before : OptionsGiven := {}
  after : OptionsGiven := {}

namespace ArgumentReading

/-- Takes an option on the side where reading has got to, once what is held there is taken. -/
def giveOption (r : ArgumentReading) (f : OptionsGiven → Option OptionsGiven) :
    Option ArgumentReading :=
  match r.command with
  | none => (r.before.settle.bind f).map fun o => { r with before := o }
  | some _ => (r.after.settle.bind f).map fun o => { r with after := o }

/-- What the arguments ask for once all are read. The later side counts. -/
def finish (r : ArgumentReading) : Option Invocation := do
  let before ← r.before.settle
  let after ← r.after.settle
  let c ← r.command
  return .perform c ((after.config.or before.config).getD defaultConfig)
    (before.debug || after.debug)

end ArgumentReading

/-- Help on commands. -/
def Invocation.helpOn : List String → Option Invocation
  | [] => some (.showText helpText)
  | [name] =>
    if name = "help" then some (.showText helpHelpText)
    else (Command.ofName? name).map fun c => .showText c.helpText
  | _ => none

/-- What follows a text that another one begins with. -/
def behind? (start s : String) : Option String :=
  if start.toList.isPrefixOf s.toList then some (String.ofList (s.toList.drop start.length))
  else none

def asksHelp (argument : String) : Bool :=
  argument == "--help" || "-h".toList.isPrefixOf argument.toList

def asksVersion (argument : String) : Bool :=
  argument == "--version" || "-V".toList.isPrefixOf argument.toList

/-- Whether an argument is taken for an option, so that it cannot be the value of one. -/
def looksLikeOption (argument : String) : Bool :=
  "-".toList.isPrefixOf argument.toList && argument != "-"

/-- What a word that is no option asks for, before any command. -/
def ArgumentReading.giveWord (r : ArgumentReading) (word : String) : Option ArgumentReading :=
  match r.command with
  | none => (Command.ofName? word).map fun c => { r with command := some c }
  | some _ => none

/-- Reads arguments, or finds that they are misused. -/
def Invocation.read (r : ArgumentReading) : List String → Option Invocation
  | [] => r.finish
  | "--config" :: value :: rest =>
    if looksLikeOption value then none
    else match r.giveOption (some <| ·.hold value) with
      | some r => read r rest
      | none => none
  | argument :: rest =>
    if argument = "--" then if rest.isEmpty then r.finish else none
    else if argument = "--debug" then
      match r.giveOption (·.giveDebug) with
      | some r => read r rest
      | none => none
    else if asksHelp argument then
      (r.giveOption some).map fun r =>
        .showText (match r.command with | some c => c.helpText | none => helpText)
    else if r.command.isNone && asksVersion argument then
      (r.giveOption some).map fun _ => .showText versionText
    else if r.command.isNone && argument == "help" then helpOn rest
    else match behind? "--config=" argument with
      | some value =>
        match r.giveOption (·.giveConfig value) with
        | some r => read r rest
        | none => none
      | none =>
        match r.giveWord argument with
        | some r => read r rest
        | none => none

def Invocation.ofArguments (arguments : List String) : Option Invocation := read {} arguments

/-- What a call of the program prints, and the code it exits with. -/
structure Printed where
  exit : Nat
  output : String
  deriving DecidableEq, Repr

def printLog (log : List LogLine) : String := unlines (log.map (·.render))

/-- Prints the shown log lines, and then a text or the reason of a failure. -/
def Printed.ofResult (debug : Bool) (log : List LogLine) :
    Except Failure String → Printed
  | .ok text => ⟨0, printLog (shownLines debug log) ++ text⟩
  | .error f => ⟨1, printLog (shownLines debug log ++ [⟨.error, .program, f.fullText⟩])⟩

/-- Does what the arguments ask for. -/
def Invocation.outcome (m : Machine) : Invocation → Printed
  | showText text => ⟨0, text⟩
  | perform .list _ _ => ⟨0, ""⟩
  | perform .run config debug =>
    let r := runFile m config
    .ofResult debug r.log (r.result.map fun _ => "")
  | perform .check config debug =>
    .ofResult debug [] do outlineOfFile m (← Settings.load m config).rules
  | perform .tokens config debug =>
    .ofResult debug [] do
      return quoteAll (← tokensOfFile m (← Settings.load m config).rules) ++ "\n"

/-- The whole program. Misused arguments have an exit code of their own. -/
def callProgram (m : Machine) (arguments : List String) : Printed :=
  match Invocation.ofArguments arguments with
  | some i => i.outcome m
  | none => ⟨2, ""⟩

end ChordRules
