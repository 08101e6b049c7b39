import DirectionFinding.Proofs.Capture.Codec
import DirectionFinding.Proofs.Number.Nearest

/-!
What a record keeps of a burst. Whatever the samples hold and whatever follows the record, the burst
that is read back has the announced samples only, each part the nearest whole number of 16 bits.
-/
namespace DirectionFinding

def Single.KeptAs (s kept : Single) : Prop :=
  ∃ n, Binary32.Quantized s.value n ∧ kept = .number (Float32.ofInt n)

structure Phasor.KeptAs (z kept : Phasor) : Prop where
  re : z.re.KeptAs kept.re
  im : z.im.KeptAs kept.im

theorem Single.keptAs_iff {s kept : Single} :
    s.KeptAs kept ↔ kept = .number (Float32.ofInt (Binary32.round16 s.value)) := by
  have quantized := Binary32.quantized_round16 s.value
  constructor
  · rintro ⟨n, quantized', rfl⟩
    rw [quantized'.unique quantized]
  · rintro rfl
    exact ⟨_, quantized, rfl⟩

namespace Record

theorem keptAs_iff {z kept : Phasor} : z.KeptAs kept ↔ kept = keptSample z := by
  constructor
  · rintro ⟨re, im⟩
    rw [Single.keptAs_iff] at re im
    exact congrArg₂ Phasor.mk re im
  · rintro rfl
    exact ⟨Single.keptAs_iff.mpr rfl, Single.keptAs_iff.mpr rfl⟩

theorem length_encode (b : RawBurst Phasor) : (encode b).length = 8 + 4 * b.valid.length := by
  rw [encode_eq, List.length_append, Header.length_encode, length_flatMap_encodeSample,
    Nat.mul_comm]
  rfl

/-- Extracting undoes encoding up to the rounding of the parts: the announced count shrinks to the
samples that were present, and the bytes behind the record have no say. -/
theorem extract_encode_quantized {b : RawBurst Phasor}
    (fits : b.valid.length ≤ Limits.recordSamples) :
    ∃ burst : RawBurst Phasor,
      (∀ rest, extract (encode b ++ rest) = .ok (burst, 8 + 4 * b.valid.length)) ∧
        burst.announced.toNat = b.valid.length ∧ burst.frequency = b.frequency ∧
        List.Forall₂ Phasor.KeptAs b.valid burst.samples := by
  refine ⟨kept b, fun rest => ?_, toNat_ofNat_valid b, rfl, ?_⟩
  · rw [← length_encode]
    exact extract_encode fits rest
  · exact List.forall₂_map_right_iff.mpr
      (List.forall₂_same.mpr fun z _ => keptAs_iff.mpr rfl)

/-- Three samples are announced and four present; a part may be no number, infinite, halfway between
two whole numbers, or out of range. -/
theorem extract_encode_quantized_mixed :
    let b : RawBurst Phasor := ⟨3, 2440, [⟨.nan 0x7fc00000, .number (Float32.ofBits 0x7f800000)⟩,
      .ofParts 2.5 (-2.5), .ofParts 40000 (-0.4), .ofParts 1 1]⟩
    b.valid.length ≤ Limits.recordSamples ∧ ∃ burst : RawBurst Phasor,
      (∀ rest, extract (encode b ++ rest) = .ok (burst, 20)) ∧
        burst = ⟨3, 2440, [.ofParts 0 32767, .ofParts 3 (-3), .ofParts 32767 0]⟩ ∧
        List.Forall₂ Phasor.KeptAs b.valid burst.samples := by
  intro b
  have fits : b.valid.length ≤ Limits.recordSamples := by decide
  obtain ⟨burst, extracted, -, -, kept⟩ := extract_encode_quantized fits
  have alone : extract (encode b ++ []) =
      .ok (⟨3, 2440, [.ofParts 0 32767, .ofParts 3 (-3), .ofParts 32767 0]⟩, 20) := by
    decide +kernel
  refine ⟨fits, burst, extracted, ?_, kept⟩
  rw [extracted []] at alone
  cases alone
  rfl

end Record

end DirectionFinding
