import DirectionFinding.Proofs.Number.Order
import DirectionFinding.Smoothing.Filter
import Mathlib.Data.List.DropRight
import Mathlib.Data.List.Forall2

/-!
Calls on a filter for one stream of angles: updates, with angles it may refuse, and restarts. What a
filter could know after them are the angles it accepted since the last restart. Two filters that agree
at every single call agree on any list of calls.
-/
namespace DirectionFinding

def OffCircle (degrees : Float32) : Prop :=
  degrees.isNaN = true ∨ degrees < 0 ∨ 360 ≤ degrees

instance (degrees : Float32) : Decidable (OffCircle degrees) :=
  inferInstanceAs (Decidable (_ ∨ _ ∨ _))

theorem requireOnCircle_iff (degrees : Float32) :
    requireOnCircle degrees = .ok () ↔ ¬ OffCircle degrees := by
  have zero : Float32.isNaN 0 = false := rfl
  have circle : Float32.isNaN 360 = false := rfl
  have inside : 0 ≤ degrees ∧ degrees < 360 ↔ ¬ OffCircle degrees := by
    -- No comparison holds of what is no number.
    simp only [OffCircle, Binary32.le_iff, Binary32.lt_iff, zero, circle]
    cases degrees.isNaN <;> simp
  rw [← inside, requireOnCircle]
  split_ifs with passes
  · exact iff_of_true rfl passes
  · exact iff_of_false (fun same => by cases same) passes

theorem requireOnCircle_off {degrees : Float32} (off : OffCircle degrees) :
    requireOnCircle degrees = .error (.invalidArgument (.angleOutsideCircle degrees)) := by
  have refused : requireOnCircle degrees ≠ .ok () :=
    fun passes => (requireOnCircle_iff degrees).mp passes off
  rw [requireOnCircle] at refused ⊢
  split_ifs at refused ⊢
  · exact absurd rfl refused
  · rfl

inductive FilterCall where
  | update (degrees : Float32)
  | restart
  deriving DecidableEq, Repr

namespace FilterCall

def isUpdate : FilterCall → Bool
  | .update _ => true
  | .restart => false

def angle? : FilterCall → Option Float32
  | .update degrees => if OffCircle degrees then none else some degrees
  | .restart => none

/-- Angles of all updates, also of those that are refused. -/
def updates : List FilterCall → List Float32
  | [] => []
  | .update degrees :: rest => degrees :: updates rest
  | .restart :: rest => updates rest

def accepted (calls : List FilterCall) : List Float32 :=
  (calls.rtakeWhile isUpdate).filterMap angle?

def latest (count : Nat) (calls : List FilterCall) : List Float32 :=
  (accepted calls).rtake count

theorem accepted_restart (calls : List FilterCall) : accepted (calls ++ [.restart]) = [] := by
  rw [accepted, List.rtakeWhile_concat_neg _ _ _ (by decide), List.filterMap_nil]

theorem accepted_refused (calls : List FilterCall) {degrees : Float32} (off : OffCircle degrees) :
    accepted (calls ++ [.update degrees]) = accepted calls := by
  rw [accepted, List.rtakeWhile_concat_pos _ _ _ rfl, List.filterMap_append, accepted]
  simp [angle?, off]

theorem accepted_update (calls : List FilterCall) {degrees : Float32} (on : ¬ OffCircle degrees) :
    accepted (calls ++ [.update degrees]) = accepted calls ++ [degrees] := by
  rw [accepted, List.rtakeWhile_concat_pos _ _ _ rfl, List.filterMap_append, accepted]
  simp [angle?, on]

theorem length_latest (count : Nat) (calls : List FilterCall) :
    (latest count calls).length = min count (accepted calls).length := by
  rw [latest, List.rtake, List.length_drop]
  omega

theorem latest_update (count : Nat) (calls : List FilterCall) {degrees : Float32}
    (on : ¬ OffCircle degrees) :
    latest (count + 1) (calls ++ [.update degrees]) = latest count calls ++ [degrees] := by
  rw [latest, accepted_update calls on, List.rtake_concat_succ, latest]

end FilterCall

structure Smoother (F : Type) where
  update : F → Float32 → Located Float32 × F
  restart : F → F

namespace Smoother

variable {F : Type}

def run (s : Smoother F) : F → List FilterCall → List (Located Float32) × F
  | f, [] => ([], f)
  | f, .update degrees :: rest =>
    let updated := s.update f degrees
    (updated.1 :: (run s updated.2 rest).1, (run s updated.2 rest).2)
  | f, .restart :: rest => run s (s.restart f) rest

theorem run_append (s : Smoother F) (f : F) (calls more : List FilterCall) :
    (s.run f (calls ++ more)).2 = (s.run (s.run f calls).2 more).2 := by
  induction calls generalizing f with
  | nil => rfl
  | cons call rest ih => cases call <;> exact ih _

theorem run_keeps (s : Smoother F) (P : F → Prop)
    (update : ∀ f degrees, P f → P (s.update f degrees).2)
    (restart : ∀ f, P f → P (s.restart f)) {f : F} (start : P f) (calls : List FilterCall) :
    P (s.run f calls).2 := by
  induction calls generalizing f with
  | nil => exact start
  | cons call rest ih =>
    cases call with
    | update degrees => exact ih (update f degrees start)
    | restart => exact ih (restart f start)

/-- A relation of all angles to their answers is one of every update by itself, made wherever the
calls before it have brought the filter. -/
theorem run_answers_iff (s : Smoother F) (R : Float32 → Located Float32 → Prop) (f : F)
    (calls : List FilterCall) :
    List.Forall₂ R (FilterCall.updates calls) (s.run f calls).1 ↔
      ∀ before degrees, before ++ [.update degrees] <+: calls →
        R degrees (s.update (s.run f before).2 degrees).1 := by
  induction calls generalizing f with
  | nil =>
    refine iff_of_true .nil fun before degrees made => ?_
    exact absurd (List.prefix_nil.mp made) (List.append_ne_nil_of_right_ne_nil _ (by simp))
  | cons call rest ih =>
    cases call with
    | update first =>
      refine List.forall₂_cons.trans ?_
      rw [ih]
      constructor
      · rintro ⟨now, later⟩ before degrees made
        cases before with
        | nil =>
          obtain ⟨same, -⟩ := List.cons_prefix_cons.mp made
          cases same
          exact now
        | cons call before =>
          obtain ⟨rfl, behind⟩ := List.cons_prefix_cons.mp made
          exact later before degrees behind
      · intro each
        refine ⟨each [] first (List.cons_prefix_cons.mpr ⟨rfl, List.nil_prefix⟩), ?_⟩
        intro before degrees made
        exact each (.update first :: before) degrees (List.cons_prefix_cons.mpr ⟨rfl, made⟩)
    | restart =>
      refine (ih (s.restart f)).trans ?_
      constructor
      · intro later before degrees made
        cases before with
        | nil =>
          obtain ⟨same, -⟩ := List.cons_prefix_cons.mp made
          cases same
        | cons call before =>
          obtain ⟨rfl, behind⟩ := List.cons_prefix_cons.mp made
          exact later before degrees behind
      · intro each before degrees made
        exact each (.restart :: before) degrees (List.cons_prefix_cons.mpr ⟨rfl, made⟩)

theorem run_congr (s : Smoother F) (R : F → F → Prop)
    (update : ∀ f g degrees, R f g →
      (s.update f degrees).1 = (s.update g degrees).1 ∧
        R (s.update f degrees).2 (s.update g degrees).2)
    (restart : ∀ f g, R f g → R (s.restart f) (s.restart g)) {f g : F} (start : R f g)
    (calls : List FilterCall) : (s.run f calls).1 = (s.run g calls).1 := by
  induction calls generalizing f g with
  | nil => rfl
  | cons call rest ih =>
    cases call with
    | update degrees =>
      obtain ⟨answer, next⟩ := update f g degrees start
      simp only [run, answer, ih next]
    | restart => exact ih (restart f g start)

end Smoother

end DirectionFinding
