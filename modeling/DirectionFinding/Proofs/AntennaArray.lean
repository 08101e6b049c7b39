import DirectionFinding.AntennaArray

/-!
Accepted antenna arrays. A pattern for every antenna keeps all of them apart from the identifier
that stands for none.
-/
namespace DirectionFinding

namespace AntennaArray

structure Accepted (a : AntennaArray) : Prop where
  nonempty : a.sequence ≠ []
  length_le : a.sequence.length ≤ Limits.switchSequence
  patterns_le : a.patterns.length ≤ Limits.switchPatterns
  known : ∀ antenna ∈ a.named, antenna.id.toNat < a.patterns.length

theorem validate_accepted {a : AntennaArray} (valid : a.validate = .ok ()) : a.Accepted := by
  unfold validate at valid
  dsimp only at valid
  split at valid
  · contradiction
  · rename_i some
    split at valid
    · contradiction
    · rename_i short
      split at valid
      · contradiction
      · rename_i patterns
        split at valid
        · contradiction
        · rename_i unknown
          rw [List.find?_eq_none] at unknown
          refine ⟨fun empty => some (by rw [empty]; rfl), by omega, by omega, ?_⟩
          intro antenna member
          have inside := unknown antenna member
          rw [decide_eq_true_eq] at inside
          omega

theorem Accepted.isValid {a : AntennaArray} (accepted : a.Accepted) {antenna : Antenna}
    (member : antenna ∈ a.named) : antenna.isValid = true := by
  have known := accepted.known antenna member
  have patterns := accepted.patterns_le
  simp only [Limits.switchPatterns] at patterns
  simp only [Antenna.isValid, bne_iff_ne]
  rintro rfl
  have none : Antenna.switching.id.toNat = 255 := rfl
  omega

theorem Accepted.sequence_isValid {a : AntennaArray} (accepted : a.Accepted) {antenna : Antenna}
    (member : antenna ∈ a.sequence) : antenna.isValid = true :=
  accepted.isValid (List.mem_cons_of_mem _ (List.mem_cons_of_mem _ member))

end AntennaArray

end DirectionFinding
