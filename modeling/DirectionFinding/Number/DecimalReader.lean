import DirectionFinding.Number.Binary32

/-!
Reading of decimal numbers into binary32: an optional sign, digits with an optional point, an
optional exponent, or a word for infinity or not-a-number. The exact value is rounded once.
-/
namespace DirectionFinding.DecimalReader

inductive Fault where
  | empty
  | invalid
  deriving DecidableEq, Repr

def Fault.message : Fault → String
  | .empty => "cannot parse float from empty string"
  | .invalid => "invalid float literal"

def isDigit (c : Char) : Bool :=
  '0' ≤ c && c ≤ '9'

def valueOf (digits : List Char) : Nat :=
  digits.foldl (fun acc c => 10 * acc + (c.toNat - '0'.toNat)) 0

def width (n : Nat) : Nat :=
  (Nat.repr n).length

/-- Nearest binary32 number to `digits · 10 ^ exponent`. Beyond sixty places from the point the
number is too large or too small for any other answer than infinity or zero. -/
def nearest (digits : Nat) (exponent : Int) : Float32 :=
  let magnitude := (width digits : Int) + exponent
  if digits = 0 ∨ magnitude < -60 then 0
  else if 60 < magnitude then Binary32.pack false (1 <<< 277)
  else if 0 ≤ exponent then Float32.ofScientific (digits * Nat.pow 10 exponent.toNat) false 0
  else Float32.ofScientific digits true (-exponent).toNat

def readExponent (cs : List Char) : Option Int :=
  let digitsOnly (digits : List Char) : Option Nat :=
    if digits ≠ [] ∧ digits.all isDigit then some (valueOf digits) else none
  match cs with
  | '-' :: digits => (digitsOnly digits).map fun n => -(n : Int)
  | '+' :: digits => (digitsOnly digits).map fun n => (n : Int)
  | digits => (digitsOnly digits).map fun n => (n : Int)

def readMagnitude (cs : List Char) : Option Float32 :=
  let whole := cs.takeWhile isDigit
  let (fraction, tail) :=
    match cs.dropWhile isDigit with
    | '.' :: rest => (rest.takeWhile isDigit, rest.dropWhile isDigit)
    | rest => ([], rest)
  let digits := valueOf (whole ++ fraction)
  if whole = [] ∧ fraction = [] then none
  else
    match tail with
    | [] => some (nearest digits (-(fraction.length : Int)))
    | c :: rest =>
      if c = 'e' ∨ c = 'E' then
        (readExponent rest).map fun exponent => nearest digits (exponent - fraction.length)
      else none

def readUnsigned (cs : List Char) : Option Float32 :=
  let word := String.ofList (cs.map Char.toLower)
  if word = "inf" ∨ word = "infinity" then some (Binary32.pack false (1 <<< 277))
  else if word = "nan" then some Binary32.notANumber
  else readMagnitude cs

def read (s : String) : Except Fault Float32 :=
  let answer (value : Option Float32) : Except Fault Float32 :=
    match value with
    | some x => .ok x
    | none => .error .invalid
  match s.toList with
  | [] => .error .empty
  | '-' :: rest => answer ((readUnsigned rest).map Float32.neg)
  | '+' :: rest => answer (readUnsigned rest)
  | cs => answer (readUnsigned cs)

end DirectionFinding.DecimalReader
