/-!
Words that all parts of the program share: antenna identifiers, capacities of the radio and of the
buffers that are sized for its densest schedule, bytes, and totals of counts.
-/
namespace DirectionFinding

structure Antenna where
  id : UInt8
  deriving DecidableEq, Repr, Inhabited

namespace Antenna

/-- Stands for no antenna: the sample fell into a switch transient. -/
def switching : Antenna := ⟨255⟩

def isValid (a : Antenna) : Bool :=
  a != switching

def text (a : Antenna) : String :=
  Nat.repr a.id.toNat

end Antenna

namespace Limits

/-- Slots of one switching period: 148 µs at the shortest spacing, doubled by switch slots. -/
def slots : Nat := 296

/-- Half of an 8 µs switch spacing sampled every 125 ns. -/
def samplesPerSlot : Nat := 32

/-- Samples of an 8 µs reference period taken every 125 ns. -/
def referenceSamples : Nat := 64

def recordSamples : Nat := referenceSamples + slots * samplesPerSlot

/-- Counts below this one fit a 64-bit word. -/
def counts : Nat := 0x10000000000000000

/-- Instants of the timeline below this one fit a 32-bit word. -/
def clock : Nat := 0x100000000

/-- Bytes that gather in front of a file before they are passed on to it. -/
def fileBuffer : Nat := 8192

def switchSequence : Nat := 48

def switchPatterns : Nat := 16

end Limits

abbrev Bytes := List UInt8

def littleEndian : Nat → Nat → Bytes
  | 0, _ => []
  | width + 1, n => UInt8.ofNat n :: littleEndian width (n / 0x100)

def total : List Nat → Nat
  | [] => 0
  | count :: counts => count + total counts

theorem length_flatMap_total {α β : Type} (f : α → List β) (xs : List α) :
    (xs.flatMap f).length = total (xs.map fun x => (f x).length) := by
  induction xs with
  | nil => rfl
  | cons x xs ih => rw [List.flatMap_cons, List.length_append, ih, List.map_cons, total]

end DirectionFinding
