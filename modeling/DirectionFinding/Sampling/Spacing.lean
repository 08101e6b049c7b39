import DirectionFinding.Error
import DirectionFinding.Text.LowerCase

/-!
Spacings of antenna switches and of samples. Both have register codes that run against the
durations: a higher code is a shorter spacing. Durations are compared, codes never are.
-/
namespace DirectionFinding

inductive SwitchSpacing where
  | us8
  | us4
  | us2
  | us1
  deriving DecidableEq, Repr

inductive SampleSpacing where
  | us4
  | us2
  | us1
  | ns500
  | ns250
  | ns125
  deriving DecidableEq, Repr

namespace SwitchSpacing

def code : SwitchSpacing → UInt8
  | us8 => 0
  | us4 => 1
  | us2 => 2
  | us1 => 3

def nanoseconds : SwitchSpacing → Nat
  | us8 => 8000
  | us4 => 4000
  | us2 => 2000
  | us1 => 1000

def all : List SwitchSpacing := [us8, us4, us2, us1]

def ofCode (code : UInt8) : Located SwitchSpacing :=
  match all.find? (·.code == code) with
  | some spacing => .ok spacing
  | none => .error (.invalidConfiguration (.unknownSwitchSpacing code))

def text : SwitchSpacing → String
  | us8 => "8us"
  | us4 => "4us"
  | us2 => "2us"
  | us1 => "1us"

/-- Reads a spacing in any case; the message quotes the text as it was given. -/
def ofText (s : String) : Except String SwitchSpacing :=
  match all.find? (·.text == lowerCase s) with
  | some spacing => .ok spacing
  | none => .error ("Invalid switch spacing: " ++ s)

end SwitchSpacing

namespace SampleSpacing

def code : SampleSpacing → UInt8
  | us4 => 1
  | us2 => 2
  | us1 => 3
  | ns500 => 4
  | ns250 => 5
  | ns125 => 6

def nanoseconds : SampleSpacing → Nat
  | us4 => 4000
  | us2 => 2000
  | us1 => 1000
  | ns500 => 500
  | ns250 => 250
  | ns125 => 125

def all : List SampleSpacing := [us4, us2, us1, ns500, ns250, ns125]

def ofCode (code : UInt8) : Located SampleSpacing :=
  match all.find? (·.code == code) with
  | some spacing => .ok spacing
  | none => .error (.invalidConfiguration (.unknownSampleSpacing code))

def text : SampleSpacing → String
  | us4 => "4us"
  | us2 => "2us"
  | us1 => "1us"
  | ns500 => "500ns"
  | ns250 => "250ns"
  | ns125 => "125ns"

def ofText (s : String) : Except String SampleSpacing :=
  match all.find? (·.text == lowerCase s) with
  | some spacing => .ok spacing
  | none => .error ("Invalid sample spacing: " ++ s)

end SampleSpacing

end DirectionFinding
