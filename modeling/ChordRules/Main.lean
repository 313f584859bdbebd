import ChordRules.CommandLine

/-! # The program

Files and standard input are read here, log lines are printed as they arise, and all else is
left to the library. Other programs and the network cannot be reached from here. -/
namespace ChordRules

def ioFault : IO.Error → IoFault
  | .noFileOrDirectory .. => .notFound
  | .permissionDenied .. => .permissionDenied
  | .inappropriateType _ code details =>
    if code = 20 then .notADirectory else if code = 21 then .isADirectory else .other details
  | e => .other (toString e)

/-- The bytes of a file, or why they cannot be read. -/
def fetch (path : String) : IO (Except IoFault (List UInt8)) := do
  try return .ok (← IO.FS.readBinFile path).toList
  catch e => return .error (ioFault e)

/-- Whether a device can be opened. Nothing is read from it. -/
def probe (path : String) : IO (Except IoFault (List UInt8)) := do
  try
    let _ ← IO.FS.Handle.mk path .read
    return .ok []
  catch e => return .error (ioFault e)

/-- The machine on which only the given files are known. -/
def machineOf (files : List (String × Except IoFault (List UInt8))) : Machine where
  read path := (files.lookup path).getD (.error .notFound)
  launchFault? _ := some .notFound
  network := .fails .networkUnreachable
  standardInput := []

/-- The machine with the files that a call needs. -/
def machineFor (config : String) : IO Machine := do
  let file := (config, ← fetch config)
  match Settings.load (machineOf [file]) config with
  | .error _ => return machineOf [file]
  | .ok s =>
    let rules := (s.rules, ← fetch s.rules)
    let devices ← s.device.toList.mapM fun path => do return (path, ← probe path)
    return machineOf (file :: rules :: devices)

def printLines (debug : Bool) (log : List LogLine) : IO Unit := do
  let out ← IO.getStdout
  out.putStr (printLog (shownLines debug log))
  out.flush

def giveUp (f : Failure) : IO UInt32 := do
  printLines false [⟨.error, .program, f.fullText⟩]
  return 1

/-- The next line of a stream with its line feed, empty at the end. -/
partial def nextLine (input : IO.FS.Stream) (line : List UInt8) : IO (List UInt8) := do
  match (← input.read 1).toList with
  | [] => return line.reverse
  | byte :: _ => if byte = 10 then return (byte :: line).reverse else nextLine input (byte :: line)

/-- Runs the rules on the events of a stream as they come in. -/
partial def follow (e : Engine Unit) (debug : Bool) (input : IO.FS.Stream) (h : Held)
    (w : World Unit) : IO UInt32 := do
  match ← nextLine input [] with
  | [] => return 0
  | line =>
    let (item, h) := feedLine h line
    let (result, w) := e.run item.toList { w with log := [], calls := [] }
    printLines debug w.log
    match result with
    | .ok _ => follow e debug input h w
    | .error fault => giveUp (.io fault)

/-- Runs the rules of given settings until their events end. -/
def serve (m : Machine) (debug : Bool) (s : Settings) : IO UInt32 := do
  let (started, w) := begin m s
  printLines debug w.log
  match started, s.eventSource with
  | .error f, _ => giveUp f
  | .ok e, .standardInput => follow e debug (← IO.getStdin) .none w
  | .ok e, .file path =>
    try follow e debug (.ofHandle (← IO.FS.Handle.mk path .read)) .none w
    catch error => giveUp (.io (ioFault error))
  | .ok _, source =>
    match source.feed m with
    | .ok _ => return 0
    | .error f => giveUp f

def invoke : Invocation → IO UInt32
  | .perform .run config debug => do
    let m ← machineFor config
    match Settings.load m config with
    | .ok s => serve m debug s
    | .error f => giveUp f
  | i => do
    let m ← match i with
      | .perform _ config _ => machineFor config
      | .showText _ => pure (machineOf [])
    let printed := i.outcome m
    IO.print printed.output
    return printed.exit.toUInt32

end ChordRules

def main (arguments : List String) : IO UInt32 := do
  match ChordRules.Invocation.ofArguments arguments with
  | some i => ChordRules.invoke i
  | none =>
    IO.eprint ChordRules.helpText
    return 2
