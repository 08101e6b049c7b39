import DirectionFinding.Burst.Slotted

/-!
Carrier drift. One antenna is sampled at a time, and the carrier turns between two samples. The
turn per reference sample is measured on the reference period and taken back from every sample,
as if all had been taken at once.
-/
namespace DirectionFinding

def neighbours {α : Type} (xs : List α) : List (α × α) :=
  xs.zip xs.tail

section
variable [Trigonometry]

def sumTurns : Float32 → List (Phasor × Phasor) → Located Float32
  | sum, [] => .ok sum
  | sum, (earlier, later) :: rest =>
    if later.isUsable then sumTurns (sum + (earlier / later).arg) rest
    else .error (.degenerateSignal .unusableReferenceSample)

/-- Mean turn from a reference sample back to the one before it, in radians. -/
def estimateDrift (reference : List Phasor) : Located Float32 := do
  if reference.length < 2 then
    throw (.degenerateSignal .driftNeedsTwoSamples)
  let sum ← sumTurns 0 (neighbours reference)
  let drift := sum / Float32.ofNat (reference.length - 1)
  if drift.isFinite then return drift
  else throw (.degenerateSignal .nonFiniteReference)

/-- The turn that belongs to a delay counted in reference samples. -/
def turn (drift : Float32) (delay : Nat) (z : Phasor) : Phasor :=
  z * Phasor.unit (drift * Float32.ofNat delay)

end

namespace SlottedBurst

variable {σ : Type}

/-- Delay of a switching sample. Slots follow each other at twice their length, because a switch
slot of the same length lies between them, and the first one starts a slot length after the
reference period. -/
def delayOf (referenceSamples samplesPerSlot slot i : Nat) : Nat :=
  referenceSamples + samplesPerSlot + i + slot * (samplesPerSlot * 2)

def turnBack (turn : Nat → σ → σ) (samplesPerSlot : Nat) (b : SlottedBurst σ) :
    SlottedBurst σ :=
  let delay := delayOf b.reference.length samplesPerSlot
  { b with
    reference := b.reference.mapIdx turn
    rows := b.rows.mapIdx fun slot r =>
      if slot < b.length then r.mapSamples fun i => turn (delay slot i) else r }

def finalDelays (b : SlottedBurst σ) (samplesPerSlot : Nat) : List Nat :=
  let delay := delayOf b.reference.length samplesPerSlot
  ((b.rows.take b.length).mapIdx fun slot r =>
    if r.count = 0 then [] else [delay slot (r.count - 1)]).flatten

/-- Takes the drift back from every sample of a burst without switch slots. The slot length, its
double and every delay must be countable. -/
def correctDrift [Trigonometry] (b : SlottedBurst Phasor) (samplesPerSlot : Nat)
    (drift : Float32) : Located (SlottedBurst Phasor) := do
  requireCount (b.reference.length + samplesPerSlot)
  requireCount (samplesPerSlot * 2)
  b.requireStored
  (b.finalDelays samplesPerSlot).forM requireCount
  return b.turnBack (turn drift) samplesPerSlot

end SlottedBurst

end DirectionFinding
