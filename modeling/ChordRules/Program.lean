import ChordRules.Engine
import ChordRules.Grammar.Reading
import ChordRules.HostFunctions
import ChordRules.Pattern.Check
import ChordRules.Report
import ChordRules.Settings
import ChordRules.Token.Stream
import ChordRules.Value

/-! # What the program does with a file of rules

The texts of its tokens can be listed, its tree can be shown, and it can be run on the events of
a source. Events are looked for only after the rules have started. The message of a failure says
what was attempted and then, mostly, what caused the failure. The full text names the cause once
more. -/
namespace ChordRules

inductive Failure where
  | settingsUnread (path : String) (fault : IoFault)
  | badSettings (path source : String) (fault : SettingsFault)
  | rulesUnread (path : String) (fault : IoFault)
  | badRules (path : String) (e : ParseError)
  | badTokens (path : String) (e : UnclosedString)
  | deviceUnopened (path : String) (fault : IoFault)
  | badPattern (pattern : String) (refusal : Pattern.Refusal)
  | noDevice (pattern : String)
  | start (e : EvalError)
  | io (fault : IoFault)
  deriving DecidableEq, Repr

namespace Failure

/-- What was attempted. -/
def attempt : Failure → String
  | settingsUnread path _ => "cannot read config " ++ path ++ ": "
  | badSettings path _ _ => "invalid config " ++ path ++ ": "
  | rulesUnread path _ => "cannot read " ++ path ++ ": "
  | badRules path _ => path ++ ": "
  | badTokens path _ => path ++ ": "
  | deviceUnopened path _ => "cannot open input device " ++ path ++ ": "
  | badPattern _ _ => "invalid device pattern: "
  | noDevice pattern => "no input device matches `" ++ pattern ++ "`"
  | start _ => "startup evaluation failed: "
  | io _ => "I/O error: "

def cause? : Failure → Option String
  | settingsUnread _ fault => some fault.message
  | badSettings _ source fault => some (fault.report source)
  | rulesUnread _ fault => some fault.message
  | badRules _ e => some e.message
  | badTokens _ e => some e.message
  | deviceUnopened _ fault => some fault.message
  | badPattern pattern refusal => some (refusal.message pattern)
  | noDevice _ => none
  | start e => some e.message
  | io fault => some fault.message

def message (f : Failure) : String := f.attempt ++ f.cause?.getD ""

def fullText (f : Failure) : String :=
  match f.cause? with
  | some cause => f.message ++ ": " ++ cause
  | none => f.message

end Failure

def Settings.load (m : Machine) (path : String) : Except Failure Settings := do
  let source ← (m.readText path).mapError (.settingsUnread path)
  (Settings.ofText source).mapError (.badSettings path source)

def Rule.load (m : Machine) (path : String) : Except Failure Rule := do
  let source ← (m.readText path).mapError (.rulesUnread path)
  (Rule.ofText source).mapError (.badRules path)

/-- The texts of the tokens in a file. -/
def tokensOfFile (m : Machine) (path : String) : Except Failure (List String) := do
  let source ← (m.readText path).mapError .io
  let lexemes ← (Tape.ofText source).lexemes?.mapError (.badTokens path)
  return lexemes.map (·.text)

/-- The tree of the rules in a file. -/
def outlineOfFile (m : Machine) (path : String) : Except Failure String := do
  return (← Rule.load m path).outline

/-- The events of a source. Events from a device cannot be had. -/
def EventSource.feed (m : Machine) : EventSource → Except Failure (List FeedItem)
  | device path => .error (.deviceUnopened path (m.deviceFault path))
  | deviceMatch pattern =>
    match Pattern.check pattern with
    | .ok () => .error (.noDevice pattern)
    | .error refusal => .error (.badPattern pattern refusal)
  | file path =>
    match m.read path with
    | .ok bytes => .ok (feedOfBytes bytes)
    | .error fault => .error (.io fault)
  | standardInput => .ok (feedOfBytes m.standardInput)

/-- What a run has logged, and how it ended. -/
structure Run where
  log : List LogLine
  result : Except Failure Unit

/-- Starts the rules of given settings. -/
def begin (m : Machine) (s : Settings) : Except Failure (Engine Unit) × World Unit :=
  match Rule.load m s.rules with
  | .error f => (.error f, .ofHost ())
  | .ok rules =>
    let e : Engine Unit := ⟨rules, s.functions m⟩
    match e.start (.ofHost ()) with
    | (.error err, w) => (.error (.start err), w)
    | (.ok _, w) => (.ok e, w.report ⟨.info, .program, "Rules loaded from " ++ s.rules⟩)

/-- Runs the rules of given settings on all events of their source. -/
def runSettings (m : Machine) (s : Settings) : Run :=
  match begin m s with
  | (.error f, w) => ⟨w.log, .error f⟩
  | (.ok e, w) =>
    match s.eventSource.feed m with
    | .error f => ⟨w.log, .error f⟩
    | .ok items =>
      let r := e.run items w
      ⟨r.2.log, r.1.mapError .io⟩

/-- Runs what a file of settings says. -/
def runFile (m : Machine) (path : String) : Run :=
  match Settings.load m path with
  | .error f => ⟨[], .error f⟩
  | .ok s => runSettings m s

end ChordRules
