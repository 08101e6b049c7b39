import DirectionFinding.Error
import DirectionFinding.Phasor

/-!
A burst as the radio delivers it, with its samples in the order in which they were taken, and a burst
whose samples are assigned to antennas: reference samples of one antenna, then slots of the switching
period. Samples may be of any type; what is said of their order does not depend on what they are.
Slots live in rows that are laid out once; `length` counts the rows in use. Rows behind it, and cells
behind the samples of a row, keep what was stored last. `slots` is the view of the rows in use, and
each operation is described by what it does to that view.
-/
namespace DirectionFinding

/-- Samples of one extension, the announced count and the carrier frequency in MHz. -/
structure RawBurst (σ : Type) where
  announced : UInt32
  frequency : UInt32
  samples : List σ
  deriving DecidableEq, Repr

namespace RawBurst

variable {σ : Type}

def ofSamples (frequency : UInt32) (samples : List σ) : RawBurst σ :=
  ⟨UInt32.ofNat samples.length, frequency, samples⟩

def valid (b : RawBurst σ) : List σ :=
  b.samples.take b.announced.toNat

end RawBurst

/-- Storage of one slot: its antenna, and cells of which the first `count` are in use. -/
structure Row (σ : Type) where
  antenna : Antenna
  count : Nat
  cells : List σ
  deriving DecidableEq, Repr

structure Slot (σ : Type) where
  antenna : Antenna
  samples : List σ
  deriving DecidableEq, Repr

namespace Row

variable {σ : Type}

def slot (r : Row σ) : Slot σ :=
  ⟨r.antenna, r.cells.take r.count⟩

def store (r : Row σ) (antenna : Antenna) (samples : List σ) : Row σ :=
  ⟨antenna, samples.length, samples ++ r.cells.drop samples.length⟩

def mapSamples (f : Nat → σ → σ) (r : Row σ) : Row σ :=
  { r with cells := r.cells.mapIdx fun i z => if i < r.count then f i z else z }

end Row

structure SlottedBurst (σ : Type) where
  length : Nat
  frequency : UInt32
  referenceAntenna : Antenna
  reference : List σ
  rows : List (Row σ)
  columns : Nat
  deriving DecidableEq, Repr

namespace SlottedBurst

variable {σ : Type}

def withCapacity [Inhabited σ] (slots samplesPerSlot : Nat) : Located (SlottedBurst σ) :=
  if Limits.slots < slots ∨ Limits.samplesPerSlot < samplesPerSlot then
    .error (.invalidArgument (.burstTooLarge slots samplesPerSlot))
  else
    .ok {
      length := 0
      frequency := 0
      referenceAntenna := .switching
      reference := []
      rows := List.replicate slots ⟨.switching, 0, List.replicate samplesPerSlot default⟩
      columns := samplesPerSlot }

def capacity (b : SlottedBurst σ) : Nat :=
  b.rows.length

def slots (b : SlottedBurst σ) : List (Slot σ) :=
  (b.rows.take b.length).map Row.slot

/-- Replaces the reference period; answers with the burst after it, also when it is refused. -/
def setReference (b : SlottedBurst σ) (antenna : Antenna) (samples : List σ) :
    Located Unit × SlottedBurst σ :=
  if Limits.referenceSamples < samples.length then
    (.error (.invalidArgument (.tooManyReferenceSamples samples.length)), b)
  else (.ok (), { b with referenceAntenna := antenna, reference := samples })

def pushSlot (b : SlottedBurst σ) (antenna : Antenna) (samples : List σ) :
    Located Unit × SlottedBurst σ :=
  if b.capacity ≤ b.length then
    (.error (.invalidArgument (.slotsExhausted b.capacity)), b)
  else if b.columns < samples.length then
    (.error (.invalidArgument (.slotTooLong samples.length b.columns)), b)
  else
    (.ok (), { b with
      rows := b.rows.modify b.length fun r => r.store antenna samples
      length := b.length + 1 })

def requireStored (b : SlottedBurst σ) : Located Unit :=
  if b.capacity < b.length then .error (.outsideStorage b.length b.capacity) else .ok ()

/-- The slot at a place, if it is in use. A row that is not there, and a row that claims more cells
than it has, are refused. -/
def slot? (b : SlottedBurst σ) (i : Nat) : Located (Option (Slot σ)) :=
  if b.length ≤ i then .ok none
  else
    match b.rows[i]? with
    | some row =>
      if row.cells.length < row.count then .error (.outsideStorage row.count row.cells.length)
      else .ok (some row.slot)
    | none => .error (.outsideStorage b.length b.capacity)

def modifySlot (b : SlottedBurst σ) (i : Nat) (f : Nat → σ → σ) :
    Located (Option Nat × SlottedBurst σ) :=
  (b.slot? i).map fun
    | some slot =>
      (some slot.samples.length, { b with rows := b.rows.modify i (Row.mapSamples f) })
    | none => (none, b)

def antennas (b : SlottedBurst σ) : List Antenna :=
  (b.rows.take b.length).map Row.antenna

def switchingSamples (b : SlottedBurst σ) : Nat :=
  total ((b.rows.take b.length).map Row.count)

def readSlots (b : SlottedBurst σ) : Located (List (Slot σ)) := do
  let read ← (List.range b.length).mapM b.slot?
  return read.filterMap id

def readAntennas (b : SlottedBurst σ) : Located (List Antenna) := do
  b.requireStored
  return b.antennas

def countSwitchingSamples (b : SlottedBurst σ) : Located Nat := do
  b.requireStored
  return b.switchingSamples

def moveRow (rows : List (Row σ)) (source target : Nat) : List (Row σ) :=
  match rows[source]? with
  | some row => if source = target then rows else rows.set target row
  | none => rows

/-- Moves the rows that hold an antenna to the front, in place: `read` runs over `left` rows and
`write` follows it. Answers with the rows and the number of them that are kept. -/
def compactFrom (rows : List (Row σ)) (read write : Nat) : Nat → List (Row σ) × Nat
  | 0 => (rows, write)
  | left + 1 =>
    match rows[read]? with
    | some row =>
      if row.antenna.isValid then
        compactFrom (moveRow rows read write) (read + 1) (write + 1) left
      else compactFrom rows (read + 1) write left
    | none => compactFrom rows (read + 1) write left

def removeSwitchSlots (b : SlottedBurst σ) : Located (Nat × SlottedBurst σ) := do
  b.requireStored
  let (rows, kept) := compactFrom b.rows 0 0 b.length
  return (b.length - kept, { b with rows := rows, length := kept })

end SlottedBurst

end DirectionFinding
