/-!
Writing and reading of integers. Digits are examined from the left and the first obstacle is
reported, so a number that leaves its range before a stray character counts as too large.
-/
namespace DirectionFinding

inductive IntegerFault where
  | empty
  | invalidDigit
  | tooLarge
  | tooSmall
  deriving DecidableEq, Repr

namespace IntegerFault

def message : IntegerFault → String
  | .empty => "cannot parse integer from empty string"
  | .invalidDigit => "invalid digit found in string"
  | .tooLarge => "number too large to fit in target type"
  | .tooSmall => "number too small to fit in target type"

end IntegerFault

namespace Integer

def text : Int → String
  | .ofNat n => Nat.repr n
  | .negSucc n => "-" ++ Nat.repr (n + 1)

/-- Value of a digit with the letters of either case standing for ten and more. -/
def digitValue? (radix : Nat) (c : Char) : Option Nat :=
  let value :=
    if '0' ≤ c ∧ c ≤ '9' then c.toNat - '0'.toNat
    else if 'a' ≤ c ∧ c ≤ 'z' then c.toNat - 'a'.toNat + 10
    else if 'A' ≤ c ∧ c ≤ 'Z' then c.toNat - 'A'.toNat + 10
    else radix
  if value < radix then some value else none

def readDigits (radix limit : Nat) (beyond : IntegerFault) :
    Nat → List Char → Except IntegerFault Nat
  | acc, [] => .ok acc
  | acc, c :: rest =>
    match digitValue? radix c with
    | none => .error .invalidDigit
    | some d =>
      let next := acc * radix + d
      if limit < next then .error beyond else readDigits radix limit beyond next rest

def readUnsigned (radix limit : Nat) (cs : List Char) : Except IntegerFault Nat :=
  match cs with
  | [] => .error .empty
  | ['+'] => .error .invalidDigit
  | '+' :: digits => readDigits radix limit .tooLarge 0 digits
  | digits => readDigits radix limit .tooLarge 0 digits

def readSigned64 (cs : List Char) : Except IntegerFault Int :=
  match cs with
  | '-' :: c :: digits =>
    (readDigits 10 0x8000000000000000 .tooSmall 0 (c :: digits)).map fun n => -(n : Int)
  | cs => (readUnsigned 10 0x7fffffffffffffff cs).map fun n => (n : Int)

end Integer

end DirectionFinding
