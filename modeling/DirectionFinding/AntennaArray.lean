import DirectionFinding.Error

/-!
The antenna array: which antenna serves the reference period, in which order the others are
switched on, and the output pattern that selects each of them.
-/
namespace DirectionFinding

structure AntennaArray where
  reference : Antenna := ⟨11⟩
  idle : Antenna := ⟨11⟩
  sequence : List Antenna := [12, 1, 2, 10, 3, 9, 4, 8, 7, 6, 5].map Antenna.mk
  patterns : List UInt8 := [0, 5, 6, 4, 9, 10, 8, 13, 14, 12, 1, 2, 0]
  deriving DecidableEq, Repr

namespace AntennaArray

/-- Antennas that need a pattern, in the order in which they are examined. -/
def named (a : AntennaArray) : List Antenna :=
  a.reference :: a.idle :: a.sequence

def validate (a : AntennaArray) : Located Unit :=
  let length := a.sequence.length
  let known := a.patterns.length
  if length = 0 then
    .error (.invalidConfiguration .emptySequence)
  else if Limits.switchSequence < length then
    .error (.invalidConfiguration (.sequenceTooLong length))
  else if known = 0 ∨ Limits.switchPatterns < known then
    .error (.invalidConfiguration (.patternCount known))
  else
    match a.named.find? (fun antenna => known ≤ antenna.id.toNat) with
    | some antenna => .error (.invalidConfiguration (.unknownAntenna antenna known))
    | none => .ok ()

def switchPatterns (a : AntennaArray) : Located (List UInt8) := do
  a.validate
  return a.sequence.map fun antenna => a.patterns.getD antenna.id.toNat 0

end AntennaArray

end DirectionFinding
