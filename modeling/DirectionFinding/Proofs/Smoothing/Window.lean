import DirectionFinding.Proofs.Smoothing.Calls
import DirectionFinding.Proofs.Smoothing.Ring

/-!
The filters that keep a window. Under any calls the window holds the vectors of the latest angles
accepted since the last restart, as many as it has room for; and filters whose windows hold the same
vectors answer alike.
-/
namespace DirectionFinding

private theorem rtake_rtake {α : Type} {few many : Nat} (fewer : few ≤ many) (xs : List α) :
    (xs.rtake many).rtake few = xs.rtake few := by
  have behind : xs.length - many + (xs.length - (xs.length - many) - few) = xs.length - few := by
    omega
  rw [List.rtake, List.rtake, List.rtake, List.length_drop, List.drop_drop, behind]

namespace Ring

variable {α : Type} {n : Nat}

theorem toList_push (room : 2 ≤ n) (r : Ring α n) (value : α) :
    (r.push value).2.toList = r.toList.rtake (n - 2) ++ [value] := by
  obtain ⟨-, held⟩ := r.push_eq value room
  have few := r.length_lt
  rw [held, isFull_toList]
  congr 1
  by_cases full : r.toList.length + 1 = n
  · have oldest : r.toList.length - (n - 2) = 1 := by omega
    rw [if_pos (decide_eq_true full), List.rtake, oldest, List.drop_one]
  · have all : r.toList.length - (n - 2) = 0 := by
      rw [length_toList] at full ⊢
      omega
    rw [if_neg (by simpa using full), List.rtake, all, List.drop_zero]

end Ring

section
variable {V F : Type} [Compass V]

namespace FilterCall

/-- Vectors of the latest accepted angles, oldest first, as many as a window has room for. -/
def vectors (calls : List FilterCall) : List V :=
  (latest (windowCells - 1) calls).map Compass.ofDegrees

theorem length_vectors (calls : List FilterCall) :
    (vectors calls : List V).length = min (windowCells - 1) (accepted calls).length := by
  rw [vectors, List.length_map, length_latest]

private theorem vectors_restart (calls : List FilterCall) :
    (vectors (calls ++ [.restart]) : List V) = [] := by
  rw [vectors, latest, accepted_restart]
  rfl

private theorem vectors_refused (calls : List FilterCall) {degrees : Float32}
    (off : OffCircle degrees) : (vectors (calls ++ [.update degrees]) : List V) = vectors calls := by
  rw [vectors, latest, accepted_refused calls off, vectors, latest]

private theorem vectors_update (calls : List FilterCall) {degrees : Float32}
    (on : ¬ OffCircle degrees) :
    (vectors (calls ++ [.update degrees]) : List V) =
      (vectors calls).rtake (windowCells - 2) ++ [Compass.ofDegrees degrees] := by
  have newest : latest (windowCells - 1) (calls ++ [.update degrees]) =
      latest (windowCells - 2) calls ++ [degrees] := latest_update _ calls on
  have older : latest (windowCells - 2) calls =
      (latest (windowCells - 1) calls).rtake (windowCells - 2) := (rtake_rtake (by decide) _).symm
  rw [vectors, newest, older, List.map_append, vectors, List.rtake, List.rtake, List.map_drop,
    List.length_map]
  rfl

end FilterCall

/-- A filter that refuses an angle off the circle and stays as it was, enters the vector of any other
angle into its window, and empties the window at a restart. -/
structure Smoother.KeepsWindow (s : Smoother F) (window : F → Window V) : Prop where
  refused : ∀ f {degrees}, OffCircle degrees →
    s.update f degrees = (.error (.invalidArgument (.angleOutsideCircle degrees)), f)
  accepted : ∀ f {degrees}, ¬ OffCircle degrees →
    window (s.update f degrees).2 = ((window f).push (Compass.ofDegrees degrees)).2
  restart : ∀ f, window (s.restart f) = (window f).reset

theorem Smoother.KeepsWindow.toList_run {s : Smoother F} {window : F → Window V}
    (keeps : s.KeepsWindow window) {f : F} (fresh : (window f).toList = [])
    (calls : List FilterCall) : (window (s.run f calls).2).toList = FilterCall.vectors calls := by
  -- From the end, since the window grows there and the angles are counted from there.
  induction calls using List.reverseRecOn with
  | nil => exact fresh
  | append_singleton calls call ih =>
    rw [s.run_append]
    generalize (s.run f calls).2 = reached at ih
    cases call with
    | restart =>
      rw [FilterCall.vectors_restart]
      exact (congrArg Ring.toList (keeps.restart reached)).trans (Ring.toList_reset _)
    | update degrees =>
      simp only [run]
      by_cases off : OffCircle degrees
      · rw [keeps.refused reached off, FilterCall.vectors_refused calls off]
        exact ih
      · rw [keeps.accepted reached off, Ring.toList_push (by decide), ih,
          FilterCall.vectors_update calls off]

end

variable {V : Type} [Add V] [Compass V]

namespace WindowMean

variable [Sub V]

theorem update_congr {m k : WindowMean V} (values : m.window.toList = k.window.toList)
    (sum : m.sum = k.sum) (degrees : Float32) :
    (m.update degrees).1 = (k.update degrees).1 ∧
      (m.update degrees).2.window.toList = (k.update degrees).2.window.toList ∧
      (m.update degrees).2.sum = (k.update degrees).2.sum := by
  obtain ⟨dropped, entered⟩ := Ring.push_congr (by decide) values (Compass.ofDegrees degrees)
  have sums : (m.enter (Compass.ofDegrees degrees)).sum =
      (k.enter (Compass.ofDegrees degrees)).sum := by
    simp only [enter, dropped, sum]
  cases gate : requireOnCircle degrees with
  | error cause =>
    simp only [update, gate]
    exact ⟨trivial, values, sum⟩
  | ok =>
    simp only [update, gate, sums]
    exact ⟨trivial, entered, trivial⟩

variable [Zero V]

def smoother : Smoother (WindowMean V) where
  update := update
  restart := reset

theorem keepsWindow : (smoother : Smoother (WindowMean V)).KeepsWindow window where
  refused m degrees off := by
    simp only [smoother, update, requireOnCircle_off off]
  accepted m degrees on := by
    simp only [smoother, update, (requireOnCircle_iff degrees).mpr on]
    rfl
  restart m := rfl

end WindowMean

namespace WeightedMean

variable {S : Type} [Zero V] [HMul V S V]

def updateBy (weights : Nat → List S) (m : WeightedMean V) (degrees : Float32) :
    Located Float32 × WeightedMean V :=
  match requireOnCircle degrees with
  | .error cause => (.error cause, m)
  | .ok () =>
    let (_, window) := m.window.push (Compass.ofDegrees degrees)
    let held := window.toList
    (.ok (Compass.toDegrees (weightedSum held (weights held.length))), ⟨window⟩)

def smootherBy (weights : Nat → List S) : Smoother (WeightedMean V) where
  update := updateBy weights
  restart := reset

def smoother [HMul V Float32 V] : Smoother (WeightedMean V) where
  update := update
  restart := reset

variable (weights : Nat → List S)

theorem keepsWindow : (smootherBy weights : Smoother (WeightedMean V)).KeepsWindow window where
  refused m degrees off := by
    simp only [smootherBy, updateBy, requireOnCircle_off off]
  accepted m degrees on := by
    simp only [smootherBy, updateBy, (requireOnCircle_iff degrees).mpr on]
  restart m := rfl

theorem updateBy_congr {m k : WeightedMean V} (values : m.window.toList = k.window.toList)
    (degrees : Float32) :
    (m.updateBy weights degrees).1 = (k.updateBy weights degrees).1 ∧
      (m.updateBy weights degrees).2.window.toList =
        (k.updateBy weights degrees).2.window.toList := by
  obtain ⟨-, entered⟩ := Ring.push_congr (by decide) values (Compass.ofDegrees degrees)
  cases gate : requireOnCircle degrees with
  | error cause =>
    simp only [updateBy, gate]
    exact ⟨trivial, values⟩
  | ok =>
    simp only [updateBy, gate, entered]
    exact ⟨trivial, trivial⟩

end WeightedMean

end DirectionFinding
