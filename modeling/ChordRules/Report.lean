import ChordRules.Text.Quoted

/-! # Log lines and faults of the outside world -/
namespace ChordRules

inductive Level where
  | debug | info | warn | error
  deriving DecidableEq, Repr

def Level.name : Level → String
  | debug => "DEBUG"
  | info => "INFO"
  | warn => "WARN"
  | error => "ERROR"

/-- Which part of the program reports. Rules report for themselves. -/
inductive Reporter where
  | program | events | actions | speech | items | rules
  deriving DecidableEq, Repr

def Reporter.name : Reporter → String
  | program => "keyrules"
  | events => "keyrules::events"
  | actions => "keyrules::actions"
  | speech => "keyrules::actions::espeak"
  | items => "keyrules::actions::openhab"
  | rules => "script"

structure LogLine where
  level : Level
  reporter : Reporter
  text : String
  deriving DecidableEq, Repr

/-- A control character that terminals obey is spelled out; any other character stands for
itself. -/
def disarm (c : Char) : List Char :=
  let n := c.toNat
  if [0x07, 0x08, 0x0C, 0x1B, 0x7F].contains n then
    ['\\', 'x', hexDigit (n / 16), hexDigit (n % 16)]
  else if 0x80 ≤ n ∧ n ≤ 0x9F then ['\\', 'u', '{'] ++ hexDigits n ++ ['}']
  else [c]

/-- A log line as it is printed. -/
def LogLine.render (l : LogLine) : String :=
  l.level.name ++ " " ++ l.reporter.name ++ ": " ++ String.ofList (l.text.toList.flatMap disarm)

/-- The lines that are shown: debug lines only on request. -/
def shownLines (debug : Bool) (log : List LogLine) : List LogLine :=
  if debug then log else log.filter (·.level != .debug)

/-- What can go wrong with files, devices, programs and the network. -/
inductive IoFault where
  | notFound
  | permissionDenied
  | notADirectory
  | isADirectory
  | notADevice
  | nameTooLong
  | networkUnreachable
  | connectionRefused
  | notUtf8
  | nulInPath
  | nulInArgument
  | other (message : String)
  deriving DecidableEq, Repr

def IoFault.message : IoFault → String
  | notFound => "No such file or directory (os error 2)"
  | permissionDenied => "Permission denied (os error 13)"
  | notADirectory => "Not a directory (os error 20)"
  | isADirectory => "Is a directory (os error 21)"
  | notADevice => "Inappropriate ioctl for device (os error 25)"
  | nameTooLong => "File name too long (os error 36)"
  | networkUnreachable => "Network is unreachable (os error 101)"
  | connectionRefused => "Connection refused (os error 111)"
  | notUtf8 => "stream did not contain valid UTF-8"
  | nulInPath => "file name contained an unexpected NUL byte"
  | nulInArgument => "nul byte found in provided data"
  | other message => message

end ChordRules
