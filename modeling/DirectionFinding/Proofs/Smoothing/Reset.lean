import DirectionFinding.Proofs.Smoothing.Independence

/-!
A reset makes a track a new one. The cells of its windows keep the old vectors; but a track answers
from the values that its windows hold, and of these a reset leaves none.
-/
namespace DirectionFinding

section
variable {V : Type}

def AngleFilter.cells : AngleFilter V → List V
  | .none | .exponential _ => []
  | .mean f => f.window.cells.toList
  | .weighted f => f.window.cells.toList

namespace AngleFilter

variable [Zero V]

private theorem cells_reset (f : AngleFilter V) : f.reset.cells = f.cells := by
  cases f <;> rfl

private theorem cleared_congr {f g : AngleFilter V} (same : f.held = g.held) :
    f.cleared = g.cleared := by
  cases f with
  | none => cases g with
    | none => rfl
    | mean g | exponential g | weighted g => cases same
  | mean f => cases g with
    | mean g => rfl
    | none | exponential g | weighted g => cases same
  | exponential f => cases g with
    | exponential g =>
      cases same
      rfl
    | none | mean g | weighted g => cases same
  | weighted f => cases g with
    | weighted g => rfl
    | none | mean g | exponential g => cases same

variable [Add V] [Sub V] [HMul V Float32 V] [Compass V]

private theorem moved_congr {f g next : AngleFilter V} (same : f.held = g.held) {degrees : Float32}
    {answer : Located Float32} (moved : f.update degrees = (answer, next)) :
    ∃ other, g.update degrees = (answer, other) ∧ next.held = other.held := by
  obtain ⟨answers, held⟩ := update_congr same degrees
  rw [moved] at answers held
  exact ⟨(g.update degrees).2, Prod.ext answers.symm rfl, held⟩

end AngleFilter

/-- What a call answers, which for a reset is nothing, and the steps that are counted after it. -/
abbrev CallRecord := Option (Located Angles) × Nat

namespace Track

def transcript [Zero V] [Add V] [Sub V] [HMul V Float32 V] [Compass V] :
    Track V → List TrackCall → List CallRecord
  | _, [] => []
  | t, .step raw :: rest =>
    (some (t.step raw).1, (t.step raw).2.steps) :: transcript (t.step raw).2 rest
  | t, .reset :: rest => (none, t.reset.steps) :: transcript t.reset rest

structure Alike (t s : Track V) : Prop where
  azimuth : t.azimuth.held = s.azimuth.held
  elevation : t.elevation.held = s.elevation.held
  steps : t.steps = s.steps

variable {t s : Track V}

theorem Alike.trans {r : Track V} (first : t.Alike s) (second : s.Alike r) : t.Alike r where
  azimuth := first.azimuth.trans second.azimuth
  elevation := first.elevation.trans second.elevation
  steps := first.steps.trans second.steps

variable [Zero V]

private theorem alike_reset (azimuth : t.azimuth.cleared = s.azimuth.cleared)
    (elevation : t.elevation.cleared = s.elevation.cleared) : t.reset.Alike s.reset where
  azimuth := (AngleFilter.held_reset _).trans (azimuth.trans (AngleFilter.held_reset _).symm)
  elevation := (AngleFilter.held_reset _).trans (elevation.trans (AngleFilter.held_reset _).symm)
  steps := rfl

theorem Alike.reset (alike : t.Alike s) : t.reset.Alike s.reset :=
  alike_reset (AngleFilter.cleared_congr alike.azimuth) (AngleFilter.cleared_congr alike.elevation)

private theorem reset_reset (t : Track V) : t.reset.reset.Alike t.reset :=
  alike_reset (AngleFilter.cleared_reset _) (AngleFilter.cleared_reset _)

private theorem reset_ofMode [Inhabited V] {mode : Smoothing} (made : ofMode mode = .ok t) :
    t.reset.Alike t := by
  obtain ⟨fresh, azimuthMade, made⟩ := Located.bind_success _ _ _ made
  obtain ⟨other, elevationMade, made⟩ := Located.bind_success _ _ _ made
  cases made
  exact ⟨(AngleFilter.held_reset _).trans (AngleFilter.cleared_ofMode azimuthMade),
    (AngleFilter.held_reset _).trans (AngleFilter.cleared_ofMode elevationMade), rfl⟩

variable [Add V] [Sub V] [HMul V Float32 V] [Compass V]

theorem Alike.step (alike : t.Alike s) (raw : Angles) :
    (t.step raw).1 = (s.step raw).1 ∧ (t.step raw).2.Alike (s.step raw).2 := by
  -- Both tracks take one branch: the gate reads the angles, and a filter answers from what it holds.
  cases gate : requireAngles raw with
  | error cause =>
    simp only [Track.step, gate]
    exact ⟨trivial, alike⟩
  | ok =>
    have counted : t.steps + 1 = s.steps + 1 := congrArg (· + 1) alike.steps
    obtain ⟨smoothed, azimuth, absent, moved, passes⟩ |
      ⟨degrees, smoothed, smoothedElevation, azimuth, elevation, measured, moved, movedElevation,
        passes⟩ := t.step_accepted ((requireAngles_iff raw).mp gate)
    · obtain ⟨other, moved, held⟩ := AngleFilter.moved_congr alike.azimuth moved
      rw [passes]
      simp only [Track.step, gate, moved, absent]
      exact ⟨trivial, held, alike.elevation, counted⟩
    · obtain ⟨other, moved, held⟩ := AngleFilter.moved_congr alike.azimuth moved
      obtain ⟨otherElevation, movedElevation, heldElevation⟩ :=
        AngleFilter.moved_congr alike.elevation movedElevation
      rw [passes]
      simp only [Track.step, gate, moved, measured, movedElevation]
      exact ⟨trivial, held, heldElevation, counted⟩

theorem Alike.transcript (alike : t.Alike s) (calls : List TrackCall) :
    t.transcript calls = s.transcript calls := by
  induction calls generalizing t s with
  | nil => rfl
  | cons call rest ih =>
    cases call with
    | step raw =>
      obtain ⟨answer, next⟩ := alike.step raw
      simp only [Track.transcript, answer, next.steps, ih next]
    | reset => simp only [Track.transcript, alike.reset.steps, ih alike.reset]

private theorem reset_step (t : Track V) (raw : Angles) : (t.step raw).2.reset.Alike t.reset := by
  obtain ⟨cause, stays⟩ | ⟨_, azimuth, -, moved, passes⟩ |
    ⟨degrees, _, _, azimuth, elevation, -, moved, movedElevation, passes⟩ := t.step_cases raw
  · rw [stays]
    exact alike_reset rfl rfl
  · have kept := t.azimuth.cleared_update raw.azimuth
    rw [moved] at kept
    rw [passes]
    exact alike_reset kept rfl
  · have kept := t.azimuth.cleared_update raw.azimuth
    have keptElevation := t.elevation.cleared_update degrees
    rw [moved] at kept
    rw [movedElevation] at keptElevation
    rw [passes]
    exact alike_reset kept keptElevation

private theorem reset_run (t : Track V) (calls : List TrackCall) :
    (t.run calls).2.reset.Alike t.reset := by
  induction calls generalizing t with
  | nil => exact alike_reset rfl rfl
  | cons call rest ih =>
    cases call with
    | step raw => exact (ih _).trans (t.reset_step raw)
    | reset => exact (ih _).trans t.reset_reset

/-- A reset forgets everything. Wherever its calls have brought a track, after a reset it answers all
further calls and counts its steps as a new track of its mode does, with every cell of its windows
still as it was. -/
theorem reset_forgets [Inhabited V] {mode : Smoothing} {t : Track V} (made : ofMode mode = .ok t)
    (calls more : List TrackCall) :
    let reached := (t.run calls).2
    reached.reset.transcript more = t.transcript more ∧
      reached.reset.azimuth.cells = reached.azimuth.cells ∧
      reached.reset.elevation.cells = reached.elevation.cells := by
  intro reached
  have fresh : reached.reset.Alike t := (t.reset_run calls).trans (reset_ofMode made)
  exact ⟨fresh.transcript more, AngleFilter.cells_reset _, AngleFilter.cells_reset _⟩

/-- Two angles in the window, one refused, and two steps behind the reset. -/
theorem reset_forgets_mean :
    let _ : Trigonometry := .platform
    let track : Track Phasor := ⟨.mean, .mean .empty, .mean .empty, 0⟩
    let calls : List TrackCall := [.step ⟨10, some 20⟩, .step ⟨400, none⟩, .step ⟨350, none⟩]
    let more : List TrackCall := [.step ⟨200, some 40⟩, .step ⟨210, none⟩]
    ofMode .mean = .ok track ∧
      (track.run calls).2.reset.transcript more = track.transcript more ∧
      (track.run calls).2.reset.azimuth.cells.take 2 =
        [Compass.ofDegrees 10, Compass.ofDegrees 350] := by
  intro _ track calls more
  have made : ofMode .mean = .ok track := rfl
  obtain ⟨alike, azimuth, -⟩ := reset_forgets made calls more
  exact ⟨made, alike, by rw [azimuth]; rfl⟩

end Track

end

end DirectionFinding
