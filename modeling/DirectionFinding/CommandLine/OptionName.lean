import DirectionFinding.Text.Integer

/-!
Options of the command line: how each is named, whether it takes a value, and of what kind.
-/
namespace DirectionFinding

inductive OptionName where
  | logLevel
  | input
  | out
  | format
  | rawOut
  | print
  | stats
  | cteUnits
  | switchSpacing
  | sampleSpacing
  | referenceSpacing
  | controlWord
  | referenceAntenna
  | sequence
  | patterns
  | pair
  | distance
  | elevationPair
  | elevationDistance
  | filter
  deriving DecidableEq, Repr

namespace OptionName

def text : OptionName → String
  | logLevel => "loglevel"
  | input => "input"
  | out => "out"
  | format => "format"
  | rawOut => "raw-out"
  | print => "print"
  | stats => "stats"
  | cteUnits => "cte-8us"
  | switchSpacing => "switch-spacing"
  | sampleSpacing => "sample-spacing"
  | referenceSpacing => "ref-spacing"
  | controlWord => "dfectrl1"
  | referenceAntenna => "ref-antenna"
  | sequence => "switch-sequence"
  | patterns => "gpio-patterns"
  | pair => "pair"
  | distance => "antenna-distance"
  | elevationPair => "elevation-pair"
  | elevationDistance => "elevation-distance"
  | filter => "filter"

def letter? : OptionName → Option Char
  | out => some 'o'
  | _ => none

def placeholder (o : OptionName) : String :=
  String.ofList (o.text.toList.map fun c => if c = '-' then '_' else c.toUpper)

def takesValue : OptionName → Bool
  | print | stats => false
  | _ => true

/-- Whether the value is a comma-separated list; such an option may be given more than once. -/
def isList : OptionName → Bool
  | sequence | patterns => true
  | _ => false

/-- Whether the value names a file and so may not be empty. -/
def isPath : OptionName → Bool
  | input | out | rawOut => true
  | _ => false

def settings : List OptionName :=
  [cteUnits, switchSpacing, sampleSpacing, referenceSpacing, controlWord, referenceAntenna,
    sequence, patterns, pair, distance, elevationPair, elevationDistance, filter]

end OptionName

end DirectionFinding
