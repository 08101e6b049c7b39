import DirectionFinding.CommandLine.Arguments

/-!
Commands and their grammar: options that hold for every command, the name of a command, and its own
options. A verbosity that is given behind the command wins over one in front of it.
-/
namespace DirectionFinding

structure ReportTarget where
  path : String
  form : ReportForm
  deriving DecidableEq, Repr

structure BatchJob where
  input : String
  out : Option ReportTarget
  print : Bool
  stats : Bool
  settings : RunSettings
  deriving DecidableEq, Repr

structure StreamJob where
  input : String
  out : Option ReportTarget
  rawOut : Option String
  print : Bool
  settings : RunSettings
  deriving DecidableEq, Repr

inductive Command where
  | batch (job : BatchJob)
  | stream (job : StreamJob)
  | timing (settings : RunSettings)
  deriving DecidableEq, Repr

namespace Command

def input? : Command → Option String
  | batch job => some job.input
  | stream job => some job.input
  | timing _ => none

def outputs : Command → List String
  | batch job => (job.out.map ReportTarget.path).toList
  | stream job => job.rawOut.toList ++ (job.out.map ReportTarget.path).toList
  | timing _ => []

end Command

inductive CommandKind where
  | batch
  | stream
  | timing
  deriving DecidableEq, Repr

namespace CommandKind

def name : CommandKind → String
  | batch => "from-file"
  | stream => "stream"
  | timing => "timing"

def all : List CommandKind := [batch, stream, timing]

def outputs : CommandKind → List OptionName
  | batch => [.out, .print, .stats]
  | stream => [.out, .rawOut, .print]
  | timing => []

def vocabulary (k : CommandKind) : Vocabulary where
  commands := []
  options :=
    let files := if k = timing then [] else [.input, .format] ++ k.outputs
    .logLevel :: files ++ OptionName.settings
  inquiries := [.help]

end CommandKind

namespace Command

/-- The input of a command that processes a capture, which also needs an output. -/
def requireFiles (kind : CommandKind) (a : Arguments) : Except UsageFault String :=
  match a.input with
  | none => .error (.missingOption .input)
  | some input => if kind.outputs.any (· ∈ a.given) then .ok input else .error .missingOutput

/-- Makes a command of its options. A distance for the elevation needs a pair for it. -/
def ofArguments (kind : CommandKind) (a : Arguments) : Except UsageFault Command := do
  if a.base.elevationDistance.isSome ∧ a.base.elevationPair.isNone then
    throw (.missingOption .elevationPair)
  let target := a.out.map fun path => { path := path, form := a.form : ReportTarget }
  match kind with
  | .timing => return .timing a.settings
  | .batch =>
    let input ← requireFiles kind a
    return .batch {
      input := input, out := target, print := a.print, stats := a.stats, settings := a.settings }
  | .stream =>
    let input ← requireFiles kind a
    return .stream {
      input := input, out := target, rawOut := a.rawOut, print := a.print, settings := a.settings }

end Command

structure Invocation where
  command : Command
  verbosity : Verbosity
  deriving DecidableEq, Repr

namespace Invocation

def complete (known : Vocabulary) (words : List String) : Except UsageFault Arguments := do
  match ← OptionScan.run known {} words with
  | (scan, []) => scan.settle
  | (scan, ["--"]) => scan.settle
  | (_, word :: _) => throw (.unexpectedArgument word)

def helpWord : String := "help"

def front : Vocabulary where
  commands := CommandKind.all.map CommandKind.name ++ [helpWord]
  options := [.logLevel]
  inquiries := [.help, .version]

/-- What the word for help comes to with the words behind it: nothing, itself or a command may be
asked about. -/
def helpOn : List String → UsageFault
  | [] => .asked .help front
  | [word] =>
    match CommandKind.all.find? (·.name == word) with
    | some kind => .asked .help kind.vocabulary
    | none => if word = helpWord then .asked .help front else .unexpectedArgument word
  | _ :: word :: _ => .unexpectedArgument word

/-- Reads a command line. What stands in front of the command is settled last. -/
def ofWords (words : List String) : Except UsageFault Invocation := do
  match ← OptionScan.run front {} words with
  | (scan, []) | (scan, ["--"]) =>
    let _ ← scan.settle
    throw .missingCommand
  | (before, word :: rest) =>
    match CommandKind.all.find? (·.name == word) with
    | none => throw (if word = helpWord then helpOn rest else .unexpectedArgument word)
    | some kind =>
      let own ← complete kind.vocabulary rest
      let command ← Command.ofArguments kind own
      let outer ← before.settle
      return {
        command := command
        verbosity := (own.verbosity.or outer.verbosity).getD .info }

end Invocation

end DirectionFinding
