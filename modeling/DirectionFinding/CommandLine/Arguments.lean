import DirectionFinding.CommandLine.Settings
import DirectionFinding.CommandLine.UsageFault
import DirectionFinding.CommandLine.Value
import DirectionFinding.Monitor.Output
import DirectionFinding.Report.File

/-!
What the options of a command line amount to. Options are taken one by one; a value is refused where
it is taken, and only a list may be given in several pieces.
-/
namespace DirectionFinding

structure Arguments where
  given : List OptionName := []
  verbosity : Option Verbosity := none
  input : Option String := none
  out : Option String := none
  form : ReportForm := .text
  rawOut : Option String := none
  print : Bool := false
  stats : Bool := false
  sequence : List Antenna := []
  patterns : List UInt8 := []
  base : RunSettings := {}
  deriving DecidableEq, Repr

namespace Arguments

/-- The settings, lists that were given replacing the default ones. -/
def settings (a : Arguments) : RunSettings :=
  let array := a.base.array
  { a.base with array := { array with
      sequence := if a.sequence = [] then array.sequence else a.sequence
      patterns := if a.patterns = [] then array.patterns else a.patterns } }

def onSampling (a : Arguments) (f : SamplingSettings → SamplingSettings) : Arguments :=
  { a with base := { a.base with sampling := f a.base.sampling } }

/-- Records one value of an option. The antenna of the reference period is the idle one, too. -/
def assign (a : Arguments) (option : OptionName) (value : String) : Except String Arguments :=
  match option with
  | .logLevel => (Verbosity.ofText value).map fun v => { a with verbosity := some v }
  | .input => .ok { a with input := some value }
  | .out => .ok { a with out := some value }
  | .format => (ReportForm.ofText value).map fun form => { a with form := form }
  | .rawOut => .ok { a with rawOut := some value }
  | .print => .ok { a with print := true }
  | .stats => .ok { a with stats := true }
  | .cteUnits => (OptionValue.byte value).map fun n => a.onSampling ({ · with cteUnits := n })
  | .switchSpacing =>
    (SwitchSpacing.ofText value).map fun x => a.onSampling ({ · with switchSpacing := x })
  | .sampleSpacing =>
    (SampleSpacing.ofText value).map fun x => a.onSampling ({ · with sampleSpacing := x })
  | .referenceSpacing =>
    (SampleSpacing.ofText value).map fun x => a.onSampling ({ · with referenceSpacing := x })
  | .controlWord =>
    (OptionValue.controlWord value).map fun w =>
      { a with base := { a.base with controlWord := some w } }
  | .referenceAntenna =>
    (OptionValue.byte value).map fun n =>
      { a with base := { a.base with
          array := { a.base.array with reference := ⟨n⟩, idle := ⟨n⟩ } } }
  | .sequence =>
    (OptionValue.byte value).map fun n => { a with sequence := a.sequence ++ [⟨n⟩] }
  | .patterns =>
    (OptionValue.byte value).map fun n => { a with patterns := a.patterns ++ [n] }
  | .pair =>
    (OptionValue.antennaPair value).map fun p => { a with base := { a.base with pair := p } }
  | .distance =>
    (OptionValue.real value).map fun x => { a with base := { a.base with distance := x } }
  | .elevationPair =>
    (OptionValue.antennaPair value).map fun p =>
      { a with base := { a.base with elevationPair := some p } }
  | .elevationDistance =>
    (OptionValue.real value).map fun x =>
      { a with base := { a.base with elevationDistance := some x } }
  | .filter =>
    (Smoothing.ofText value).map fun m => { a with base := { a.base with smoothing := m } }

/-- Takes an option with its value; the value of a list is taken item by item. -/
def take (a : Arguments) (option : OptionName) (value : String) : Except UsageFault Arguments :=
  if option ∈ a.given ∧ !option.isList then .error (.repeated option)
  else if option.isPath ∧ value = "" then .error (.missingValue option)
  else
    let values := if option.isList then OptionValue.items value else [value]
    values.foldlM (fun a item => (a.assign option item).mapError (.invalidValue option item))
      { a with given := option :: a.given }

end Arguments

/-- Options being taken from a command line: those that are settled, and one that waits for its
value or to be settled. It is settled when the next option comes. -/
structure OptionScan where
  arguments : Arguments := {}
  waiting : Option (OptionName × Option String) := none
  deriving DecidableEq, Repr

inductive CommandWord where
  | separator
  | long (name : String) (attached : Option String)
  | short (letter : Char) (rest : List Char)
  | plain (text : String)
  deriving DecidableEq, Repr

/-- Two dashes start a long option, which may have its value attached behind an equals sign; one
dash and a letter start a short one. A lone dash is a plain word. -/
def CommandWord.ofString (s : String) : CommandWord :=
  match s.toList with
  | ['-', '-'] => .separator
  | '-' :: '-' :: cs =>
    .long (String.ofList (cs.takeWhile (· != '=')))
      (match cs.dropWhile (· != '=') with
        | [] => none
        | _ :: value => some (String.ofList value))
  | '-' :: c :: rest => .short c rest
  | _ => .plain s

namespace OptionScan

def settle (s : OptionScan) : Except UsageFault Arguments :=
  match s.waiting with
  | none => .ok s.arguments
  | some (option, none) => .error (.missingValue option)
  | some (option, some value) => s.arguments.take option value

def meet (s : OptionScan) (option : OptionName) (attached : Option String) :
    Except UsageFault OptionScan :=
  match option.takesValue, attached with
  | false, some _ => .error (.unexpectedValue option.text)
  | false, none => do return ⟨← (← s.settle).take option "", none⟩
  | true, some value => do return ⟨← (← s.settle).take option value, none⟩
  | true, none => do return ⟨← s.settle, some (option, none)⟩

/-- Why a question ends the reading: what waits is settled first, and its fault comes before the
answer. -/
def ask (s : OptionScan) (known : Vocabulary) (inquiry : Inquiry) : UsageFault :=
  match s.settle with
  | .ok _ => .asked inquiry known
  | .error fault => fault

def attachedToLetter : List Char → Option String
  | [] => none
  | '=' :: value => some (String.ofList value)
  | value => some (String.ofList value)

/-- Takes options from the front of a command line, up to a word that is neither an option nor the
value of one. What follows the letter of a question is not looked at. -/
def run (known : Vocabulary) : OptionScan → List String →
    Except UsageFault (OptionScan × List String)
  | s, [] => .ok (s, [])
  | s, word :: rest =>
    match CommandWord.ofString word with
    | .separator => .ok (s, word :: rest)
    | .plain text =>
      match s.waiting with
      | some (option, none) => run known { s with waiting := some (option, some text) } rest
      | _ => .ok (s, word :: rest)
    | .long name attached =>
      match known.options.find? (·.text == name), known.inquiries.find? (·.text == name) with
      | some option, _ => do run known (← s.meet option attached) rest
      | none, some inquiry =>
        .error (if attached.isSome then .unexpectedValue name else s.ask known inquiry)
      | none, none => .error (.unknownOption word)
    | .short letter tail =>
      match known.options.find? (·.letter? == some letter),
        known.inquiries.find? (·.letter == letter) with
      | some option, _ => do run known (← s.meet option (attachedToLetter tail)) rest
      | none, some inquiry => .error (s.ask known inquiry)
      | none, none => .error (.unknownOption word)

end OptionScan

end DirectionFinding
