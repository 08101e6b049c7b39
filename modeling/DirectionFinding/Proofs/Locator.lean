import DirectionFinding.Locator
import DirectionFinding.Proofs.Smoothing.Track

/-!
Bursts located one after the other. A burst that fails leaves the history as it was, whatever it
failed of, so that the answers to all other bursts are the same with and without it.
-/
namespace DirectionFinding

namespace Locator

section
variable [Trigonometry]

private theorem locate_error {l : Locator} {raw : RawBurst Phasor} {track next : Track Phasor}
    {cause : LocateError} (failed : l.locate raw track = (.error cause, next)) : next = track := by
  unfold locate at failed
  split at failed
  · exact (congrArg Prod.snd failed).symm
  · split at failed
    · rename_i stepped
      cases failed
      exact Track.step_error stepped
    · cases failed

private theorem locate_ok {l : Locator} {raw : RawBurst Phasor} {track next : Track Phasor}
    {report : Report} (located : l.locate raw track = (.ok report, next)) :
    next.steps = track.steps + 1 := by
  unfold locate at located
  split at located
  · cases located
  · split at located
    · cases located
    · rename_i stepped
      cases located
      exact (Track.step_ok stepped).1

theorem locateAll_append (l : Locator) (track : Track Phasor) (bursts more : List (RawBurst Phasor)) :
    (l.locateAll track (bursts ++ more)).1 =
      (l.locateAll track bursts).1 ++ (l.locateAll (l.locateAll track bursts).2 more).1 := by
  induction bursts generalizing track with
  | nil => rfl
  | cons raw rest ih =>
    simp only [List.cons_append, locateAll]
    rw [ih]

def retain {α : Type} : List Bool → List α → List α
  | true :: keep, x :: xs => x :: retain keep xs
  | false :: keep, _ :: xs => retain keep xs
  | _, _ => []

private theorem locateAll_retain (l : Locator) (track : Track Phasor)
    (bursts : List (RawBurst Phasor)) (keep : List Bool) (matched : keep.length = bursts.length)
    (failing : ∀ i : Nat, keep[i]? = some false →
      ∃ cause, (l.locateAll track bursts).1[i]? = some (.error cause)) :
    l.locateAll track (retain keep bursts) =
      (retain keep (l.locateAll track bursts).1, (l.locateAll track bursts).2) := by
  induction bursts generalizing track keep with
  | nil =>
    rw [List.length_nil, List.length_eq_zero_iff] at matched
    subst matched
    rfl
  | cons raw rest ih =>
    match keep, matched with
    | kept :: keep, matched =>
      rw [List.length_cons, List.length_cons, Nat.add_right_cancel_iff] at matched
      simp only [locateAll] at failing ⊢
      have later := ih (l.locate raw track).2 keep matched fun i dropped => failing (i + 1) dropped
      cases kept with
      | true => simp only [retain, locateAll, later]
      | false =>
        -- The dropped burst left the history as it was, so the rest starts from the same one.
        obtain ⟨cause, failed⟩ := failing 0 rfl
        have stays : (l.locate raw track).2 = track :=
          locate_error (Prod.ext (Option.some.inj failed) rfl)
        simp only [retain, stays]
        rw [stays] at later
        exact later

/-- A burst that fails is as good as never received: it leaves the whole history as it was, while
a burst that is located counts as one step, and bursts that fail can be dropped from any stream with
no other answer changed. -/
theorem locateAll_forgets_failed (l : Locator) (track : Track Phasor) :
    (∀ raw cause next, l.locate raw track = (.error cause, next) → next = track) ∧
    (∀ raw report next, l.locate raw track = (.ok report, next) → next.steps = track.steps + 1) ∧
    ∀ (bursts : List (RawBurst Phasor)) (keep : List Bool), keep.length = bursts.length →
      (∀ i : Nat, keep[i]? = some false →
        ∃ cause, (l.locateAll track bursts).1[i]? = some (.error cause)) →
      l.locateAll track (retain keep bursts) =
        (retain keep (l.locateAll track bursts).1, (l.locateAll track bursts).2) :=
  ⟨fun _ _ _ failed => locate_error failed, fun _ _ _ located => locate_ok located,
    fun bursts keep matched failing => locateAll_retain l track bursts keep matched failing⟩

end

/-- A burst with a sample that is no number comes between two that are located. The second of them is
smoothed from what the first one left. -/
theorem locateAll_forgets_failed_between :
    let _ : Trigonometry :=
      ⟨fun _ => 0, fun _ => 1, fun _ => Float32.ofBits 0x3fc90fdb, fun _ _ => 0, fun _ _ => 1⟩
    let l : Locator :=
      ⟨{ cteUnits := 2 }, {}, ⟨.regular, 4000, 2000, 2000, 1000, 8, 2, 1, 1, 2000⟩, {}⟩
    let track : Track Phasor := ⟨.exponential 0.5, .exponential ⟨0.5, 0⟩, .exponential ⟨0.5, 0⟩, 0⟩
    let whole : RawBurst Phasor := .ofSamples 2440 (List.replicate 10 (.ofParts 1 0))
    let broken : RawBurst Phasor :=
      .ofSamples 2440 (List.replicate 9 (.ofParts 1 0) ++ [.ofParts (Float32.ofBits 0x7fc00000) 0])
    let azimuths (answers : List (Located Report)) : List (Option Float32) :=
      answers.map fun answer => answer.toOption.map fun report => report.fix.smoothed.azimuth
    ofSettings { cteUnits := 2 } {} {} = .ok l ∧ Track.ofMode (.exponential 0.5) = .ok track ∧
      azimuths (l.locateAll track [whole, broken, whole]).1 = [some 45, none, some 67.5] ∧
      azimuths (l.locateAll track [whole, whole]).1 = [some 45, some 67.5] ∧
      (l.locateAll track [whole, whole]).2 = (l.locateAll track [whole, broken, whole]).2 := by
  intro _ l track whole broken azimuths
  have all : azimuths (l.locateAll track [whole, broken, whole]).1 =
      [some 45, none, some 67.5] := by decide +kernel
  have dropped := (locateAll_forgets_failed l track).2.2 [whole, broken, whole] [true, false, true] rfl
  rw [show retain [true, false, true] [whole, broken, whole] = [whole, whole] from rfl] at dropped
  refine ⟨rfl, rfl, all, ?_⟩
  generalize l.locateAll track [whole, broken, whole] = ran at all dropped ⊢
  obtain ⟨answers, last⟩ := ran
  obtain ⟨first, rest, rfl, before, all⟩ := List.map_eq_cons_iff.mp all
  obtain ⟨second, rest, rfl, failed, all⟩ := List.map_eq_cons_iff.mp all
  obtain ⟨third, rest, rfl, behind, all⟩ := List.map_eq_cons_iff.mp all
  cases List.map_eq_nil_iff.mp all
  cases second with
  | ok report => cases failed
  | error cause =>
    have kept := dropped fun i gone => by
      match i, gone with
      | 1, _ => exact ⟨cause, rfl⟩
      | _ + 3, gone => simp at gone
    rw [kept]
    simp only [azimuths, retain, List.map_cons, List.map_nil, before, behind, and_self]

end Locator

end DirectionFinding
