import DirectionFinding.Smoothing.Track

/-!
One step of an angle history. Both angles are examined before a filter moves, and a filter takes
every angle on the circle; so a step moves both filters it is meant to move, or none.
-/
namespace DirectionFinding

variable {V : Type} [Zero V] [Add V] [Sub V] [HMul V Float32 V] [Compass V]

private theorem AngleFilter.update_onCircle (filter : AngleFilter V) {degrees : Float32}
    (inside : requireOnCircle degrees = .ok ()) :
    ∃ smoothed next, filter.update degrees = (.ok smoothed, next) := by
  cases filter with
  | none => exact ⟨_, _, rfl⟩
  | mean f =>
    simp only [update, WindowMean.update, inside]
    exact ⟨_, _, rfl⟩
  | exponential f =>
    simp only [update, ExponentialFilter.update, inside]
    exact ⟨_, _, rfl⟩
  | weighted f =>
    simp only [update, WeightedMean.update, inside]
    exact ⟨_, _, rfl⟩

namespace Track

theorem requireAngles_ok {raw : Angles} (inside : requireAngles raw = .ok ()) :
    requireOnCircle raw.azimuth = .ok () ∧
      ∀ degrees, raw.elevation = some degrees → requireOnCircle degrees = .ok () := by
  obtain ⟨_, azimuth, rest⟩ := Located.bind_success _ _ _ inside
  refine ⟨azimuth, fun degrees measured => ?_⟩
  rw [measured] at rest
  exact rest

theorem step_onCircle (t : Track V) {raw : Angles} (inside : requireAngles raw = .ok ()) :
    ∃ smoothed next, t.step raw = (.ok smoothed, next) := by
  obtain ⟨azimuthInside, elevationInside⟩ := requireAngles_ok inside
  obtain ⟨smoothed, azimuth, moved⟩ := t.azimuth.update_onCircle azimuthInside
  cases measured : raw.elevation with
  | none =>
    refine ⟨⟨smoothed, none⟩, { t with azimuth := azimuth, steps := t.steps + 1 }, ?_⟩
    simp only [step, inside, moved, measured]
  | some degrees =>
    obtain ⟨smoothedElevation, elevation, movedElevation⟩ :=
      t.elevation.update_onCircle (elevationInside degrees measured)
    refine ⟨⟨smoothed, some smoothedElevation⟩,
      { t with azimuth := azimuth, elevation := elevation, steps := t.steps + 1 }, ?_⟩
    simp only [step, inside, moved, measured, movedElevation]

theorem step_cases (t : Track V) (raw : Angles) :
    (∃ cause, t.step raw = (.error cause, t)) ∨
    (∃ smoothed azimuth, raw.elevation = none ∧
      t.azimuth.update raw.azimuth = (.ok smoothed, azimuth) ∧
      t.step raw = (.ok ⟨smoothed, none⟩, { t with azimuth := azimuth, steps := t.steps + 1 })) ∨
    ∃ degrees smoothed smoothedElevation azimuth elevation, raw.elevation = some degrees ∧
      t.azimuth.update raw.azimuth = (.ok smoothed, azimuth) ∧
      t.elevation.update degrees = (.ok smoothedElevation, elevation) ∧
      t.step raw = (.ok ⟨smoothed, some smoothedElevation⟩,
        { t with azimuth := azimuth, elevation := elevation, steps := t.steps + 1 }) := by
  cases gate : requireAngles raw with
  | error cause =>
    left
    exact ⟨cause, by rw [step, gate]⟩
  | ok =>
    right
    obtain ⟨inside, insideElevation⟩ := requireAngles_ok gate
    obtain ⟨smoothed, azimuth, moved⟩ := t.azimuth.update_onCircle inside
    cases measured : raw.elevation with
    | none =>
      left
      refine ⟨smoothed, azimuth, rfl, moved, ?_⟩
      simp only [step, gate, moved, measured]
    | some degrees =>
      right
      obtain ⟨smoothedElevation, elevation, movedElevation⟩ :=
        t.elevation.update_onCircle (insideElevation degrees measured)
      refine ⟨degrees, smoothed, smoothedElevation, azimuth, elevation, rfl, moved,
        movedElevation, ?_⟩
      simp only [step, gate, moved, measured, movedElevation]

theorem step_error {t next : Track V} {raw : Angles} {cause : LocateError}
    (failed : t.step raw = (.error cause, next)) : next = t := by
  obtain ⟨_, stays⟩ | ⟨_, _, _, _, moves⟩ | ⟨_, _, _, _, _, _, _, _, moves⟩ := t.step_cases raw
  · exact (congrArg Prod.snd (failed.symm.trans stays))
  · cases failed.symm.trans moves
  · cases failed.symm.trans moves

theorem step_ok {t next : Track V} {raw smoothed : Angles}
    (passed : t.step raw = (.ok smoothed, next)) :
    next.steps = t.steps + 1 ∧ next.mode = t.mode := by
  obtain ⟨_, stays⟩ | ⟨_, _, _, _, moves⟩ | ⟨_, _, _, _, _, _, _, _, moves⟩ := t.step_cases raw
  · cases passed.symm.trans stays
  · cases passed.symm.trans moves
    exact ⟨rfl, rfl⟩
  · cases passed.symm.trans moves
    exact ⟨rfl, rfl⟩

end Track

end DirectionFinding
