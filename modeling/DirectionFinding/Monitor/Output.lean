import DirectionFinding.Capture.Writer
import DirectionFinding.Report.Bytes

/-!
What a run shows: log lines of several levels, plain lines, printed reports, and bytes that are
written to a console, in the order in which they appear.
-/
namespace DirectionFinding

inductive LogLevel where
  | error
  | warn
  | info
  deriving DecidableEq, Repr

def LogLevel.text : LogLevel → String
  | error => "ERROR"
  | warn => "WARN"
  | info => "INFO"

/-- Which log lines are wanted; a level shows the lines of its weight and above. -/
inductive Verbosity where
  | off
  | error
  | warn
  | info
  | debug
  | trace
  deriving DecidableEq, Repr

namespace Verbosity

def rank : Verbosity → Nat
  | off => 0
  | error => 1
  | warn => 2
  | info => 3
  | debug => 4
  | trace => 5

def name : Verbosity → String
  | off => "off"
  | error => "error"
  | warn => "warn"
  | info => "info"
  | debug => "debug"
  | trace => "trace"

def all : List Verbosity := [off, error, warn, info, debug, trace]

def ofLevel : LogLevel → Verbosity
  | .error => error
  | .warn => warn
  | .info => info

def shows (v : Verbosity) (level : LogLevel) : Bool :=
  (ofLevel level).rank ≤ v.rank

def ofText (s : String) : Except String Verbosity :=
  let lower := String.ofList (s.toList.map Char.toLower)
  match all.find? (·.name == lower) with
  | some verbosity => .ok verbosity
  | none => .error "attempted to convert a string that doesn't match an existing log level"

end Verbosity

structure LogLine where
  level : LogLevel
  message : String
  deriving DecidableEq, Repr

inductive Output where
  | log (line : LogLine)
  | line (text : String)
  | report (report : Report)
  | bytes (stream : Console) (bytes : Bytes)
  deriving DecidableEq, Repr

namespace Output

def error (message : String) : Output := .log ⟨.error, message⟩
def warn (message : String) : Output := .log ⟨.warn, message⟩
def info (message : String) : Output := .log ⟨.info, message⟩

def logLines (shown : List Output) : List LogLine :=
  shown.filterMap fun
    | .log entry => some entry
    | _ => none

def reports (shown : List Output) : List Report :=
  shown.filterMap fun
    | .report printed => some printed
    | _ => none

end Output

def Destination.displays (d : Destination) (bytes : Bytes) : List Output :=
  match d with
  | .console stream => if bytes.isEmpty then [] else [.bytes stream bytes]
  | _ => []

def ReportFile.displayed (f : ReportFile) : List Output :=
  f.destination.displays f.bytes

def RecordWriter.displayedSince (w earlier : RecordWriter) : List Output :=
  w.destination.displays (w.arrivedSince earlier)

end DirectionFinding
