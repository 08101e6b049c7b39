import DirectionFinding.Proofs.Smoothing.Range
import DirectionFinding.Proofs.Smoothing.Window

/-!
Answers on the circle. What a filter of vectors answers after any calls is an angle that it would
accept itself. The running sum of the mean is never computed anew, so its rounding errors add up
without end; but it does not leave the bound at which adding one more vector rounds back.
-/
namespace DirectionFinding

structure OnCircle (degrees : Float32) : Prop where
  number : degrees.isNaN = false
  lower : 0 ≤ degrees
  upper : degrees < 360

private theorem onCircle_of_between {degrees : Float32} (inside : 0 ≤ degrees ∧ degrees < 360) :
    OnCircle degrees :=
  ⟨(Binary32.lt_iff.mp inside.2).1, inside.1, inside.2⟩

/-- An angle off the circle refused, or any other answered with an angle of some range. -/
inductive Answered (range : Float32 → Prop) (degrees : Float32) : Located Float32 → Prop where
  | refused (off : OffCircle degrees) :
    Answered range degrees (.error (.invalidArgument (.angleOutsideCircle degrees)))
  | smoothed {smoothed : Float32} (on : ¬ OffCircle degrees) (inside : range smoothed) :
    Answered range degrees (.ok smoothed)

namespace Smoother

variable {F : Type}

/-- A property of a filter that every call keeps, and that keeps the answers to accepted angles in a
range. -/
structure KeepsRange (s : Smoother F) (range : Float32 → Prop) (P : F → Prop) : Prop where
  refused : ∀ f {degrees}, OffCircle degrees →
    s.update f degrees = (.error (.invalidArgument (.angleOutsideCircle degrees)), f)
  accepted : ∀ {f}, P f → ∀ {degrees}, requireOnCircle degrees = .ok () →
    ∃ smoothed next, s.update f degrees = (.ok smoothed, next) ∧ range smoothed ∧ P next
  restart : ∀ {f}, P f → P (s.restart f)

namespace KeepsRange

variable {s : Smoother F} {range : Float32 → Prop} {P : F → Prop} {f : F}

theorem update (keeps : s.KeepsRange range P) (held : P f) (degrees : Float32) :
    Answered range degrees (s.update f degrees).1 ∧ P (s.update f degrees).2 := by
  by_cases off : OffCircle degrees
  · rw [keeps.refused f off]
    exact ⟨.refused off, held⟩
  · obtain ⟨smoothed, next, moved, inside, kept⟩ :=
      keeps.accepted held ((requireOnCircle_iff degrees).mpr off)
    rw [moved]
    exact ⟨.smoothed off inside, kept⟩

theorem reached (keeps : s.KeepsRange range P) (start : P f) (calls : List FilterCall) :
    P (s.run f calls).2 :=
  s.run_keeps P (fun _ degrees held => (keeps.update held degrees).2)
    (fun _ held => keeps.restart held) start calls

theorem answers (keeps : s.KeepsRange range P) (start : P f) (calls : List FilterCall) :
    List.Forall₂ (Answered range) (FilterCall.updates calls) (s.run f calls).1 :=
  (s.run_answers_iff (Answered range) f calls).mpr fun before degrees _ =>
    (keeps.update (keeps.reached start before) degrees).1

end KeepsRange

end Smoother

section
variable [Trigonometry]

theorem WindowMean.keepsCircle (ranges : Trigonometry.PolarRanges) :
    (smoother : Smoother (WindowMean Phasor)).KeepsRange OnCircle Bounded where
  refused := keepsWindow.refused
  accepted bounded _ gate := by
    obtain ⟨smoothed, next, moved, inside, kept⟩ := bounded.update ranges gate
    exact ⟨smoothed, next, moved, onCircle_of_between inside, kept⟩
  restart bounded := ⟨bounded.window, bounded_empty.sum⟩

theorem WeightedMean.keepsCircle (ranges : Trigonometry.PolarRanges) :
    (smoother : Smoother (WeightedMean Phasor)).KeepsRange OnCircle Bounded where
  refused := (keepsWindow filterWeights).refused
  accepted bounded _ gate := by
    obtain ⟨smoothed, next, moved, inside, kept⟩ := bounded.update ranges gate
    exact ⟨smoothed, next, moved, onCircle_of_between inside, kept⟩
  restart bounded := bounded

/-- Whatever is asked of a mean or of a weighted mean of vectors, in whatever order and for however
long, every angle off the circle is refused and every other one is answered with a number from zero
to below 360. -/
theorem vectorSmoothing_onCircle (ranges : Trigonometry.PolarRanges) (calls : List FilterCall) :
    List.Forall₂ (Answered OnCircle) (FilterCall.updates calls)
        (WindowMean.smoother.run (.empty : WindowMean Phasor) calls).1 ∧
      List.Forall₂ (Answered OnCircle) (FilterCall.updates calls)
        (WeightedMean.smoother.run (.empty : WeightedMean Phasor) calls).1 :=
  ⟨(WindowMean.keepsCircle ranges).answers WindowMean.bounded_empty calls,
    (WeightedMean.keepsCircle ranges).answers WeightedMean.bounded_empty calls⟩

end

/-- Right angles, one that is refused, and a restart. -/
theorem vectorSmoothing_onCircle_right :
    let right : Trigonometry :=
      ⟨fun x => if x == 0 then 0 else 1, fun x => if x == 0 then 1 else Float32.ofBits 0xb33bbd2e,
        fun _ => pi / 2, fun y _ => if y == 0 then 0 else pi / 2, fun x _ => x⟩
    let calls : List FilterCall :=
      [.update 90, .update 400, .restart, .update 90, .update 90]
    right.PolarRanges ∧ FilterCall.updates calls = [90, 400, 90, 90] ∧
      List.Forall₂ (Answered OnCircle) (FilterCall.updates calls)
        (WindowMean.smoother.run (.empty : WindowMean Phasor) calls).1 ∧
      List.Forall₂ (Answered OnCircle) (FilterCall.updates calls)
        (WeightedMean.smoother.run (.empty : WeightedMean Phasor) calls).1 := by
  intro right calls
  have sine (x : Float32) : Trigonometry.sin x = if x == 0 then 0 else 1 := rfl
  have cosine (x : Float32) :
      Trigonometry.cos x = if x == 0 then 1 else Float32.ofBits 0xb33bbd2e := rfl
  have angle (y x : Float32) : Trigonometry.atan2 y x = if y == 0 then 0 else pi / 2 := rfl
  have ranges : right.PolarRanges := {
    sin := fun x _ => by
      rw [sine]
      split <;> decide +kernel
    cos := fun x _ => by
      rw [cosine]
      split <;> decide +kernel
    atan2 := fun y x _ _ => by
      rw [angle]
      split <;> decide +kernel }
  exact ⟨ranges, rfl, vectorSmoothing_onCircle ranges calls⟩

end DirectionFinding
