import DirectionFinding.Basic

/-!
Compact records. A record is its fields in ascending order of their numbers; each field starts with
a byte that joins its kind and its distance from the field before it. Integers are written in groups
of seven bits, signed ones folded first so that small magnitudes stay short.
-/
namespace DirectionFinding.Compact

/-- A number in groups of seven bits, lowest first; every byte but the last has its high bit set. -/
def groups (n : Nat) : Bytes :=
  if _h : n < 128 then [UInt8.ofNat n]
  else UInt8.ofNat (n % 128 + 128) :: groups (n / 128)
termination_by n

/-- Numbers both ways from zero in turn: 0, -1, 1, -2 and so on. -/
def fold : Int → Nat
  | .ofNat n => 2 * n
  | .negSucc n => 2 * n + 1

def signed (n : Int) : Bytes :=
  groups (fold n)

inductive Kind where
  | yes
  | no
  | byte
  | short
  | int
  | long
  | binary
  | list
  | record
  deriving DecidableEq, Repr

def Kind.code : Kind → Nat
  | yes => 1
  | no => 2
  | byte => 3
  | short => 4
  | int => 5
  | long => 6
  | binary => 8
  | list => 9
  | record => 12

structure Field where
  number : Nat
  kind : Kind
  payload : Bytes
  deriving DecidableEq, Repr

def counted (bytes : Bytes) : Bytes :=
  groups bytes.length ++ bytes

def items (kind : Kind) (contents : List Bytes) : Bytes :=
  let count := contents.length
  (if count < 15 then [UInt8.ofNat (16 * count + kind.code)]
    else UInt8.ofNat (16 * 15 + kind.code) :: groups count) ++ contents.flatten

namespace Field

def flag (number : Nat) (b : Bool) : Field := ⟨number, if b then .yes else .no, []⟩
def byte (number : Nat) (b : UInt8) : Field := ⟨number, .byte, [b]⟩
def short (number : Nat) (n : Int) : Field := ⟨number, .short, signed n⟩
def int (number : Nat) (n : Int) : Field := ⟨number, .int, signed n⟩
def long (number : Nat) (n : Int) : Field := ⟨number, .long, signed n⟩
def binary (number : Nat) (bytes : Bytes) : Field := ⟨number, .binary, counted bytes⟩
def text (number : Nat) (s : String) : Field := binary number s.toUTF8.toList

def list (number : Nat) (kind : Kind) (contents : List Bytes) : Field :=
  ⟨number, .list, items kind contents⟩

def longs (number : Nat) (ns : List Nat) : Field :=
  list number .long (ns.map fun n => signed (Int.ofNat n))

def nested (number : Nat) (record : Bytes) : Field := ⟨number, .record, record⟩

/-- A field behind the field `previous`; far ones carry their number. -/
def encode (previous : Nat) (f : Field) : Bytes :=
  let distance := f.number - previous
  (if 0 < distance ∧ distance ≤ 15 then [UInt8.ofNat (16 * distance + f.kind.code)]
    else UInt8.ofNat f.kind.code :: signed f.number) ++ f.payload

end Field

def recordFrom (previous : Nat) : List Field → Bytes
  | [] => [0]
  | f :: rest => f.encode previous ++ recordFrom f.number rest

def record (fields : List Field) : Bytes :=
  recordFrom 0 fields

end DirectionFinding.Compact
