import DirectionFinding.AntennaArray
import DirectionFinding.Number.DecimalReader
import DirectionFinding.Sampling.ControlWord
import DirectionFinding.Text.Integer

/-!
Readers of option values. A value that is refused comes with the message that is shown for it.
-/
namespace DirectionFinding

/-- Whether a character has the white space property, which goes well beyond the blanks of ASCII. -/
def isBlank (c : Char) : Bool :=
  let n := c.toNat
  (0x9 ≤ n && n ≤ 0xd) || n == 0x20 || n == 0x85 || n == 0xa0 || n == 0x1680 ||
    (0x2000 ≤ n && n ≤ 0x200a) || n == 0x2028 || n == 0x2029 || n == 0x202f || n == 0x205f ||
    n == 0x3000

def trimBlanks (cs : List Char) : List Char :=
  ((cs.dropWhile isBlank).reverse.dropWhile isBlank).reverse

namespace OptionValue

def explain {α : Type} (r : Except IntegerFault α) : Except String α :=
  r.mapError IntegerFault.message

/-- A byte. The number is read with the range of a 64-bit word before it is compared with the range
of a byte, so `-1` is a number out of range and not a stray character. -/
def byte (s : String) : Except String UInt8 := do
  let n ← explain (Integer.readSigned64 s.toList)
  if n < 0 ∨ 255 < n then throw (Integer.text n ++ " is not in 0..=255")
  return UInt8.ofNat n.toNat

def real (s : String) : Except String Float32 :=
  (DecimalReader.read s).mapError DecimalReader.Fault.message

def dropMarks (first second : Char) : List Char → List Char
  | a :: b :: rest =>
    if a = first ∧ b = second then dropMarks first second rest else a :: b :: rest
  | cs => cs

/-- A control word in hexadecimal digits, behind marks in lower case, then marks in upper case. -/
def controlWord (s : String) : Except String ControlWord :=
  match Integer.readUnsigned 16 0xffffffff (dropMarks '0' 'X' (dropMarks '0' 'x' s.toList)) with
  | .ok bits => .ok ⟨UInt32.ofNat bits⟩
  | .error fault => .error s!"Invalid register word {s}: {fault.message}"

def pairedAntenna (cs : List Char) : Except String Antenna :=
  match Integer.readUnsigned 10 255 (trimBlanks cs) with
  | .ok id => .ok ⟨UInt8.ofNat id⟩
  | .error fault => .error s!"Invalid antenna {String.ofList cs}: {fault.message}"

def antennaPair (s : String) : Except String (Antenna × Antenna) :=
  let cs := s.toList
  match cs.dropWhile (· != ',') with
  | [] => .error ("Expected two comma separated antennas: " ++ s)
  | _ :: second => do
    let a ← pairedAntenna (cs.takeWhile (· != ','))
    let b ← pairedAntenna second
    return (a, b)

def items (s : String) : List String :=
  s.splitOn ","

end OptionValue

end DirectionFinding
