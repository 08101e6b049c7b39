import DirectionFinding.Sampling.Settings

/-!
The control word of the radio that fixes a sampling schedule: its bit fields and the settings that
they stand for.
-/
namespace DirectionFinding

structure ControlWord where
  bits : UInt32
  deriving DecidableEq, Repr

namespace ControlWord

def field (w : ControlWord) (start width : Nat) : Nat :=
  (w.bits.toNat >>> start) % (1 <<< width)

def cteUnits (w : ControlWord) : Nat := w.field 0 6
def inExtension (w : ControlWord) : Nat := w.field 7 1
def switchSpacing (w : ControlWord) : Nat := w.field 8 3
def referenceSpacing (w : ControlWord) : Nat := w.field 12 3
def sampleType (w : ControlWord) : Nat := w.field 15 1
def sampleSpacing (w : ControlWord) : Nat := w.field 16 3
def repeatPattern (w : ControlWord) : Nat := w.field 20 4
def gainBackoff (w : ControlWord) : Nat := w.field 24 4

def ofBytes : List UInt8 → Located ControlWord
  | b0 :: b1 :: b2 :: b3 :: _ =>
    .ok ⟨UInt32.ofNat
      (b0.toNat + 0x100 * b1.toNat + 0x10000 * b2.toNat + 0x1000000 * b3.toNat)⟩
  | bytes => .error (.truncated 4 bytes.length)

/-- The settings behind the word. Offsets live in another register and stay zero; samples given
as magnitude and phase are refused. -/
def settings (w : ControlWord) : Located SamplingSettings := do
  if w.sampleType ≠ 0 then
    throw (.invalidConfiguration .magnitudeSampling)
  let settings : SamplingSettings := {
    cteUnits := UInt8.ofNat w.cteUnits
    guardPeriod := 4
    referencePeriod := 8
    switchSpacing := ← SwitchSpacing.ofCode (UInt8.ofNat w.switchSpacing)
    sampleSpacing := ← SampleSpacing.ofCode (UInt8.ofNat w.sampleSpacing)
    referenceSpacing := ← SampleSpacing.ofCode (UInt8.ofNat w.referenceSpacing)
    sampleOffset := 0
    switchOffset := 0 }
  settings.validate
  return settings

end ControlWord

end DirectionFinding
