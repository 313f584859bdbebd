import ChordRules.Evaluation
import ChordRules.Item.Request
import ChordRules.Settings
import ChordRules.Value

/-! # The functions that a machine offers to rules

Rules can log a message, speak a text and set the state of an item. None of these fails: what
goes wrong is logged, and the rules get `false`. In a message `%s` and `%d` both stand for the next
argument, whatever its kind, and `%%` for a percent sign. A directive without an argument, and any
other percent sign, stays as it is.

A machine is known by what it does when it is asked: what reading a file gives, which programs
start, and what its network does with a request. No input device can be read on it; opening one
tells only why it fails. A text is spoken by a program that gets the text and the way to speak it
as its arguments. The program is started and not waited for. -/
namespace ChordRules

def isDirective (c : Char) : Bool := c == 's' || c == 'd'

def fillIn : List Char → List Value → List Char
  | '%' :: '%' :: rest, vs => '%' :: fillIn rest vs
  | '%' :: d :: rest, vs =>
    if isDirective d then
      match vs with
      | v :: vs => v.render.toList ++ fillIn rest vs
      | [] => '%' :: d :: fillIn rest []
    else '%' :: fillIn (d :: rest) vs
  | c :: rest, vs => c :: fillIn rest vs
  | [], _ => []

def formatMessage (format : String) (arguments : List Value) : String :=
  String.ofList (fillIn format.toList arguments)


structure Machine where
  /-- The bytes of the file with a path. -/
  read : String → Except IoFault (List UInt8)
  /-- Why a program does not start, if it does not. -/
  launchFault? : String → Option IoFault
  network : Network
  standardInput : List UInt8

namespace Machine

/-- The text of the file with a path. -/
def readText (m : Machine) (path : String) : Except IoFault String := do
  match decodeUtf8? (← m.read path) with
  | some s => return s
  | none => .error .notUtf8

/-- Why the input device with a path cannot be read. What can be opened is no device. -/
def deviceFault (m : Machine) (path : String) : IoFault :=
  match m.read path with
  | .ok _ => .notADevice
  | .error .isADirectory => .notADevice
  | .error fault => fault

end Machine

/-- A program and its arguments. -/
structure SpokenCommand where
  program : String
  arguments : List String
  deriving DecidableEq, Repr

/-- The command that speaks a text. -/
def Speech.command (s : Speech) (text : String) : SpokenCommand :=
  ⟨s.program, ["-v", s.voice, "-s", showNat s.speed, "-p", showNat s.pitch,
    "-k", showNat s.intonation, text]⟩

def holdsNul (s : String) : Bool := s.toList.contains '\x00'

/-- Starts the program of a command. A command with a NUL in it reaches no program. -/
def SpokenCommand.start (c : SpokenCommand) (m : Machine) : Except IoFault Unit :=
  if (c.program :: c.arguments).any holdsNul then .error .nulInArgument
  else match m.launchFault? c.program with
    | some fault => .error fault
    | none => .ok ()


/-- Logs a message in the name of the rules. -/
def logMessage : HostFunction σ := fun arguments host =>
  match arguments with
  | [] => ⟨.nothing, host, [⟨.warn, .actions, "printf called without a format string"⟩]⟩
  | format :: rest => ⟨.nothing, host, [⟨.info, .rules, formatMessage format.render rest⟩]⟩

/-- The warning about a function that was called with the wrong number of arguments. -/
def miscountWarning (expectation : String) (arguments : List Value) : LogLine :=
  ⟨.warn, .actions, expectation ++ ", got " ++ showNat arguments.length⟩

/-- Speaks a text. -/
def speak (m : Machine) (s : Speech) : HostFunction σ := fun arguments host =>
  match arguments with
  | [v] =>
    let line := ⟨.debug, .speech, "saying " ++ quote v.render⟩
    match (s.command v.render).start m with
    | .ok _ => ⟨.boolean true, host, [line]⟩
    | .error fault =>
      ⟨.boolean false, host,
        [line, ⟨.error, .actions, "Error running espeak: " ++ fault.message⟩]⟩
  | _ => ⟨.boolean false, host, [miscountWarning "say expects 1 argument" arguments]⟩

def itemFailure (item state : String) (fault : ItemFault) : LogLine :=
  ⟨.error, .actions,
    "Error setting openhab value " ++ state ++ " for " ++ item ++ ": " ++ fault.message⟩

/-- Sets the state of an item on the server with a base address. -/
def setItem (m : Machine) (base : String) : HostFunction σ := fun arguments host =>
  match arguments with
  | [item, state] =>
    let x := setState m.network base item.render state.render
    match x.result with
    | .ok _ => ⟨.boolean true, host, x.log⟩
    | .error fault =>
      ⟨.boolean false, host, x.log ++ [itemFailure item.render state.render fault]⟩
  | _ => ⟨.boolean false, host, [miscountWarning "openhab expects 2 arguments" arguments]⟩

/-- Stands in for `setItem` where no server is known. -/
def setNoItem : HostFunction σ := fun _ host =>
  ⟨.boolean false, host,
    [⟨.warn, .actions, "openhab called but no openhab URL is configured"⟩]⟩

/-- The functions offered under given settings. -/
def Settings.functions (s : Settings) (m : Machine) : Registry σ :=
  ((Registry.empty.register "printf" logMessage).register "say" (speak m s.speech)).register
    "openhab" (match s.itemServer with | some base => setItem m base | none => setNoItem)

end ChordRules
