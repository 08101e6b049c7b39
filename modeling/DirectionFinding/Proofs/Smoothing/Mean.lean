import DirectionFinding.Proofs.Smoothing.Window
import Mathlib.Algebra.BigOperators.Group.List.Basic

/-!
The running sum of a window, in any vectors whose sums and differences are exact. Every vector that
enters is added once, and every one that is driven out is subtracted once, so after any calls the sum
is that of the vectors in the window.
-/
namespace DirectionFinding

namespace WindowMean

variable {V : Type} [AddCommGroup V]

def Exact (m : WindowMean V) : Prop :=
  m.sum = m.window.toList.sum

private theorem exact_empty [Inhabited V] : (empty : WindowMean V).Exact := by
  rw [Exact, empty, Ring.toList_fresh (by decide), List.sum_nil]

theorem Exact.reset (m : WindowMean V) : m.reset.Exact := by
  rw [Exact, WindowMean.reset, Ring.toList_reset, List.sum_nil]

theorem Exact.enter {m : WindowMean V} (exact : m.Exact) (v : V) : (m.enter v).Exact := by
  obtain ⟨dropped, held⟩ := m.window.push_eq v (by decide)
  have window : (m.enter v).window.toList = (m.window.push v).2.toList := rfl
  rw [Exact, window, held, List.sum_append, List.sum_singleton]
  simp only [WindowMean.enter, dropped]
  by_cases full : m.window.isFull = true
  · simp only [full, if_true]
    cases values : m.window.toList with
    | nil =>
      -- A window has more than one cell, so a full one holds a value.
      have silent : m.window.length = 0 := by rw [← Ring.length_toList, values, List.length_nil]
      have count := (Ring.isFull_iff _).mp full
      rw [silent] at count
      cases count
    | cons oldest rest =>
      rw [Exact, values, List.sum_cons] at exact
      simp only [List.head?_cons, List.tail_cons, exact, add_sub_cancel_left]
  · simp only [full, Bool.false_eq_true, if_false]
    rw [exact]

variable [Compass V]

theorem Exact.update {m : WindowMean V} (exact : m.Exact) (degrees : Float32) :
    (m.update degrees).2.Exact := by
  cases gate : requireOnCircle degrees with
  | error cause =>
    simp only [WindowMean.update, gate]
    exact exact
  | ok =>
    simp only [WindowMean.update, gate]
    exact exact.enter _

private theorem update_answer (m : WindowMean V) {degrees : Float32} (on : ¬ OffCircle degrees) :
    (m.update degrees).1 = .ok (Compass.toDegrees (m.update degrees).2.sum) := by
  simp only [WindowMean.update, (requireOnCircle_iff degrees).mpr on]

private theorem run_update (m : WindowMean V) (calls : List FilterCall) (degrees : Float32) :
    (smoother.run m (calls ++ [.update degrees])).2 =
      ((smoother.run m calls).2.update degrees).2 :=
  smoother.run_append m calls _

private theorem exact_run [Inhabited V] (calls : List FilterCall) :
    (smoother.run (empty : WindowMean V) calls).2.Exact :=
  smoother.run_keeps Exact (fun _ degrees exact => exact.update degrees) (fun m _ => Exact.reset m)
    exact_empty calls

/-- After any calls, refused updates and restarts among them, a window of vectors that add exactly
holds those of the latest angles accepted since the last restart, and the running sum is theirs. The
next angle is refused without a trace or answered from the sum over the window that ends with it, and
a history with the same latest angles is never told from this one. -/
theorem sum_latest [Inhabited V] (calls : List FilterCall) :
    let reached := (smoother.run (empty : WindowMean V) calls).2
    reached.window.toList = FilterCall.vectors calls ∧
    reached.window.toList.length = min (windowCells - 1) (FilterCall.accepted calls).length ∧
    reached.sum = (FilterCall.vectors calls).sum ∧
    (∀ degrees, OffCircle degrees →
      reached.update degrees = (.error (.invalidArgument (.angleOutsideCircle degrees)), reached)) ∧
    (∀ degrees, ¬ OffCircle degrees →
      (reached.update degrees).1 = .ok (Compass.toDegrees
        (FilterCall.vectors (calls ++ [.update degrees]) : List V).sum)) ∧
    ∀ others, FilterCall.latest (windowCells - 1) others = FilterCall.latest (windowCells - 1) calls →
      ∀ more, (smoother.run (smoother.run (empty : WindowMean V) others).2 more).1 =
        (smoother.run reached more).1 := by
  intro reached
  have fresh : (empty : WindowMean V).window.toList = [] := Ring.toList_fresh (by decide)
  have window : ∀ calls, (smoother.run (empty : WindowMean V) calls).2.window.toList =
      FilterCall.vectors calls := keepsWindow.toList_run fresh
  have sum : ∀ calls, (smoother.run (empty : WindowMean V) calls).2.sum =
      (FilterCall.vectors calls).sum :=
    fun calls => (exact_run calls).trans (congrArg List.sum (window calls))
  refine ⟨window calls, ?_, sum calls, fun degrees => keepsWindow.refused reached, ?_, ?_⟩
  · rw [window calls, FilterCall.length_vectors]
  · intro degrees on
    rw [update_answer reached on, ← run_update, sum]
  · intro others same more
    have alike : (FilterCall.vectors others : List V) = FilterCall.vectors calls :=
      congrArg (List.map Compass.ofDegrees) same
    -- The same vectors may lie in other cells, so the two filters are alike and not equal.
    exact smoother.run_congr (fun m k => m.window.toList = k.window.toList ∧ m.sum = k.sum)
      (fun m k degrees both => update_congr both.1 both.2 degrees)
      (fun m k _ => ⟨(Ring.toList_reset _).trans (Ring.toList_reset _).symm, rfl⟩)
      ⟨by rw [window, window, alike], by rw [sum, sum, alike]⟩ more

/-- A restart, a refusal, and a second history that ends in the same window. -/
theorem sum_latest_refused :
    let _ : Compass ℤ := ⟨Binary32.truncate32, Float32.ofInt⟩
    let calls : List FilterCall := [.update 7, .restart, .update 10, .update 400, .update 350]
    let others : List FilterCall := [.update 10, .update 350]
    let reached := (smoother.run (empty : WindowMean ℤ) calls).2
    reached.window.toList = [10, 350] ∧ reached.sum = 360 ∧
      reached.update 400 = (.error (.invalidArgument (.angleOutsideCircle 400)), reached) ∧
      (reached.update 40).1 = .ok 400 ∧
      ∀ more, (smoother.run (smoother.run (empty : WindowMean ℤ) others).2 more).1 =
        (smoother.run reached more).1 := by
  intro _ calls others reached
  obtain ⟨window, -, sum, refused, answer, alike⟩ := sum_latest (V := ℤ) calls
  have held : reached.window.toList = [10, 350] := window.trans (by decide +kernel)
  have total : reached.sum = 360 := sum.trans (by decide +kernel)
  have next : (reached.update 40).1 = .ok 400 :=
    (answer 40 (by decide +kernel)).trans (by decide +kernel)
  exact ⟨held, total, refused 400 (by decide +kernel), next, alike others (by decide +kernel)⟩

end WindowMean

end DirectionFinding
