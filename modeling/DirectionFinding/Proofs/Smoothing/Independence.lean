import DirectionFinding.Proofs.Smoothing.Track
import DirectionFinding.Proofs.Smoothing.Window

/-!
A track as two filters that know nothing of each other. Each filter sees the angles of its own kind
that passed the gate, and starts over at a reset. Cells that a reset leaves filled are told from a
fresh filter by nothing: filters that hold the same values answer the same.
-/
namespace DirectionFinding

def Angles.Refused (raw : Angles) : Prop :=
  OffCircle raw.azimuth ∨ ∃ degrees ∈ raw.elevation, OffCircle degrees

instance (raw : Angles) : Decidable raw.Refused :=
  inferInstanceAs (Decidable (_ ∨ _))

inductive TrackCall where
  | step (raw : Angles)
  | reset
  deriving DecidableEq, Repr

namespace TrackCall

def azimuth? : TrackCall → Option FilterCall
  | .step raw => if raw.Refused then none else some (.update raw.azimuth)
  | .reset => some .restart

def elevation? : TrackCall → Option FilterCall
  | .step raw => if raw.Refused then none else raw.elevation.map .update
  | .reset => some .restart

def isStep : TrackCall → Bool
  | .step _ => true
  | .reset => false

def isAccepted : TrackCall → Bool
  | .step raw => !decide raw.Refused
  | .reset => false

end TrackCall

inductive Held (V : Type) where
  | none
  | mean (values : List V) (sum : V)
  | exponential (filter : ExponentialFilter)
  | weighted (values : List V)

section
variable {V : Type}

def AngleFilter.held : AngleFilter V → Held V
  | .none => .none
  | .mean f => .mean f.window.toList f.sum
  | .exponential f => .exponential f
  | .weighted f => .weighted f.window.toList

variable [Zero V]

/-- Answers of a filter that a restart replaces by a fresh one. -/
def Smoother.anew {F : Type} (fresh : F) (update : F → Float32 → Located Float32 × F)
    (calls : List FilterCall) : List (Located Float32) :=
  (Smoother.run ⟨update, fun _ => fresh⟩ fresh calls).1

/-- What the filter of a mode answers by itself. Without smoothing every angle is its own answer. -/
def Smoothing.answers (V : Type) [Inhabited V] [Zero V] [Add V] [Sub V] [HMul V Float32 V]
    [Compass V] (mode : Smoothing) (calls : List FilterCall) : List (Located Float32) :=
  match mode with
  | .none => (FilterCall.updates calls).map .ok
  | .mean => Smoother.anew (.empty : WindowMean V) WindowMean.update calls
  | .exponential alpha => Smoother.anew ⟨alpha, 0⟩ ExponentialFilter.update calls
  | .weighted => Smoother.anew (.empty : WeightedMean V) WeightedMean.update calls

namespace AngleFilter

def cleared : AngleFilter V → Held V
  | .none => .none
  | .mean _ => .mean [] 0
  | .exponential f => .exponential { f with state := 0 }
  | .weighted _ => .weighted []

theorem held_reset (f : AngleFilter V) : f.reset.held = f.cleared := by
  cases f with
  | none | exponential f => rfl
  | mean f => exact congrArg (Held.mean · 0) (Ring.toList_reset f.window)
  | weighted f => exact congrArg Held.weighted (Ring.toList_reset f.window)

theorem cleared_reset (f : AngleFilter V) : f.reset.cleared = f.cleared := by
  cases f <;> rfl

theorem cleared_ofMode [Inhabited V] {mode : Smoothing} {fresh : AngleFilter V}
    (made : ofMode mode = .ok fresh) : fresh.cleared = fresh.held := by
  cases mode with
  | none =>
    cases made
    rfl
  | mean =>
    cases made
    exact congrArg (Held.mean · 0) (Ring.toList_fresh (by decide)).symm
  | weighted =>
    cases made
    exact congrArg Held.weighted (Ring.toList_fresh (by decide)).symm
  | exponential alpha =>
    simp only [ofMode, ExponentialFilter.ofAlpha] at made
    split_ifs at made <;> cases made
    rfl

variable [Add V] [Sub V] [HMul V Float32 V] [Compass V]

def answers (fresh : AngleFilter V) : AngleFilter V → List FilterCall → List (Located Float32)
  | _, [] => []
  | f, .update degrees :: rest => (f.update degrees).1 :: answers fresh (f.update degrees).2 rest
  | _, .restart :: rest => answers fresh fresh rest

section
variable {F : Type} {update : F → Float32 → Located Float32 × F} {wrap : F → AngleFilter V}

private theorem answers_wrapped
    (moves : ∀ f degrees, (wrap f).update degrees = (update f degrees).map id wrap) (fresh f : F)
    (calls : List FilterCall) :
    answers (wrap fresh) (wrap f) calls = (Smoother.run ⟨update, fun _ => fresh⟩ f calls).1 := by
  induction calls generalizing f with
  | nil => rfl
  | cons call rest ih =>
    cases call with
    | update degrees =>
      simp only [answers, moves, Smoother.run]
      exact congrArg₂ List.cons rfl (ih _)
    | restart => exact ih fresh

end

private theorem answers_none (calls : List FilterCall) :
    answers (.none : AngleFilter V) .none calls = (FilterCall.updates calls).map .ok := by
  induction calls with
  | nil => rfl
  | cons call rest ih =>
    cases call with
    | update degrees => exact congrArg₂ List.cons rfl ih
    | restart => exact ih

private theorem answers_ofMode [Inhabited V] {mode : Smoothing} {fresh : AngleFilter V}
    (made : ofMode mode = .ok fresh) (calls : List FilterCall) :
    fresh.answers fresh calls = mode.answers V calls := by
  cases mode with
  | none =>
    cases made
    exact answers_none calls
  | mean =>
    cases made
    exact answers_wrapped (fun _ _ => rfl) _ _ calls
  | weighted =>
    cases made
    exact answers_wrapped (fun _ _ => rfl) _ _ calls
  | exponential alpha =>
    simp only [ofMode, ExponentialFilter.ofAlpha] at made
    split_ifs at made <;> cases made
    exact answers_wrapped (fun _ _ => rfl) _ _ calls

theorem update_congr {f g : AngleFilter V} (same : f.held = g.held) (degrees : Float32) :
    (f.update degrees).1 = (g.update degrees).1 ∧
      (f.update degrees).2.held = (g.update degrees).2.held := by
  cases f with
  | none => cases g with
    | none => exact ⟨rfl, rfl⟩
    | mean g | exponential g | weighted g => cases same
  | mean f => cases g with
    | none | exponential g | weighted g => cases same
    | mean g =>
      obtain ⟨values, sum⟩ := Held.mean.inj same
      obtain ⟨answers, entered, sums⟩ := WindowMean.update_congr values sum degrees
      exact ⟨answers, congrArg₂ Held.mean entered sums⟩
  | exponential f => cases g with
    | none | mean g | weighted g => cases same
    | exponential g =>
      cases same
      exact ⟨rfl, rfl⟩
  | weighted f => cases g with
    | none | mean g | exponential g => cases same
    | weighted g =>
      obtain ⟨answers, entered⟩ :=
        WeightedMean.updateBy_congr filterWeights (Held.weighted.inj same) degrees
      exact ⟨answers, congrArg Held.weighted entered⟩

theorem cleared_update (f : AngleFilter V) (degrees : Float32) :
    (f.update degrees).2.cleared = f.cleared := by
  cases f with
  | none | mean f | weighted f => rfl
  | exponential f =>
    cases gate : requireOnCircle degrees <;>
      simp only [update, ExponentialFilter.update, gate] <;> rfl

end AngleFilter

namespace Track

/-- A track beside two filters that hold the same values, all of which start over from the same
fresh filter. -/
structure Beside (t : Track V) (fresh azimuth elevation : AngleFilter V) : Prop where
  azimuth_held : t.azimuth.held = azimuth.held
  elevation_held : t.elevation.held = elevation.held
  azimuth_cleared : t.azimuth.cleared = fresh.held
  elevation_cleared : t.elevation.cleared = fresh.held

variable {t : Track V} {fresh f g : AngleFilter V}

theorem Beside.reset (beside : t.Beside fresh f g) : t.reset.Beside fresh fresh fresh where
  azimuth_held := (AngleFilter.held_reset _).trans beside.azimuth_cleared
  elevation_held := (AngleFilter.held_reset _).trans beside.elevation_cleared
  azimuth_cleared := (AngleFilter.cleared_reset _).trans beside.azimuth_cleared
  elevation_cleared := (AngleFilter.cleared_reset _).trans beside.elevation_cleared

variable [Add V] [Sub V] [HMul V Float32 V] [Compass V]

theorem requireAngles_iff (raw : Angles) : requireAngles raw = .ok () ↔ ¬ raw.Refused := by
  rw [Angles.Refused, not_or, ← requireOnCircle_iff]
  constructor
  · intro inside
    obtain ⟨azimuth, elevation⟩ := requireAngles_ok inside
    refine ⟨azimuth, fun ⟨degrees, measured, off⟩ => ?_⟩
    exact (requireOnCircle_iff degrees).mp (elevation degrees measured) off
  · intro ⟨azimuth, elevation⟩
    simp only [requireAngles, azimuth, Located.ok_bind]
    cases measured : raw.elevation with
    | none => rfl
    | some degrees =>
      exact (requireOnCircle_iff degrees).mpr fun off => elevation ⟨degrees, measured, off⟩

private theorem step_refused (t : Track V) {raw : Angles} (refused : raw.Refused) :
    ∃ cause, t.step raw = (.error cause, t) := by
  cases gate : requireAngles raw with
  | error cause => exact ⟨cause, by rw [step, gate]⟩
  | ok => exact absurd refused ((requireAngles_iff raw).mp gate)

theorem step_accepted (t : Track V) {raw : Angles} (accepted : ¬ raw.Refused) :
    (∃ smoothed azimuth, raw.elevation = none ∧
      t.azimuth.update raw.azimuth = (.ok smoothed, azimuth) ∧
      t.step raw = (.ok ⟨smoothed, none⟩, { t with azimuth := azimuth, steps := t.steps + 1 })) ∨
    ∃ degrees smoothed smoothedElevation azimuth elevation, raw.elevation = some degrees ∧
      t.azimuth.update raw.azimuth = (.ok smoothed, azimuth) ∧
      t.elevation.update degrees = (.ok smoothedElevation, elevation) ∧
      t.step raw = (.ok ⟨smoothed, some smoothedElevation⟩,
        { t with azimuth := azimuth, elevation := elevation, steps := t.steps + 1 }) := by
  refine (t.step_cases raw).resolve_left fun ⟨cause, stays⟩ => ?_
  obtain ⟨smoothed, next, moves⟩ := t.step_onCircle ((requireAngles_iff raw).mpr accepted)
  cases stays.symm.trans moves

private theorem step_elevation (t : Track V) {raw smoothed : Angles}
    (passed : (t.step raw).1 = .ok smoothed) : smoothed.elevation.isSome = raw.elevation.isSome := by
  have accepted : ¬ raw.Refused := fun refused => by
    obtain ⟨cause, stays⟩ := t.step_refused refused
    cases passed.symm.trans (congrArg Prod.fst stays)
  obtain ⟨_, _, absent, _, passes⟩ | ⟨_, _, _, _, _, measured, _, _, passes⟩ :=
    t.step_accepted accepted
  · cases passed.symm.trans (congrArg Prod.fst passes)
    rw [absent]
  · cases passed.symm.trans (congrArg Prod.fst passes)
    rw [measured]
    rfl

private theorem step_stays (t : Track V) {raw : Angles} (refused : raw.Refused) :
    (t.step raw).2 = t := by
  obtain ⟨_, stays⟩ := t.step_refused refused
  rw [stays]

private theorem step_error_iff (t : Track V) {raw : Angles} :
    (∃ cause, (t.step raw).1 = .error cause) ↔ raw.Refused := by
  constructor
  · intro ⟨cause, failed⟩
    by_contra accepted
    obtain ⟨_, _, _, _, passes⟩ | ⟨_, _, _, _, _, _, _, _, passes⟩ := t.step_accepted accepted <;>
      cases failed.symm.trans (congrArg Prod.fst passes)
  · intro refused
    obtain ⟨cause, stays⟩ := t.step_refused refused
    exact ⟨cause, congrArg Prod.fst stays⟩

def run (t : Track V) : List TrackCall → List (Located Angles) × Track V
  | [] => ([], t)
  | .step raw :: rest => ((t.step raw).1 :: (run (t.step raw).2 rest).1, (run (t.step raw).2 rest).2)
  | .reset :: rest => run t.reset rest

theorem moved_alike {filter next : AngleFilter V} (same : filter.held = f.held)
    (cleared : filter.cleared = fresh.held) {degrees : Float32} {answer : Located Float32}
    (moved : filter.update degrees = (answer, next)) :
    (f.update degrees).1 = answer ∧ next.held = (f.update degrees).2.held ∧
      next.cleared = fresh.held := by
  obtain ⟨answers, held⟩ := AngleFilter.update_congr same degrees
  have kept := filter.cleared_update degrees
  rw [moved] at answers held kept
  exact ⟨answers.symm, held, kept.trans cleared⟩

private theorem run_beside (beside : t.Beside fresh f g) (calls : List TrackCall) :
    ((t.run calls).1.filterMap Except.toOption).map (fun smoothed => .ok smoothed.azimuth) =
        AngleFilter.answers fresh f (calls.filterMap TrackCall.azimuth?) ∧
      ((t.run calls).1.filterMap Except.toOption).filterMap
          (fun smoothed => smoothed.elevation.map .ok) =
        AngleFilter.answers fresh g (calls.filterMap TrackCall.elevation?) := by
  induction calls generalizing t f g with
  | nil => exact ⟨rfl, rfl⟩
  | cons call rest ih =>
    cases call with
    | reset => exact ih beside.reset
    | step raw =>
      by_cases refused : raw.Refused
      · obtain ⟨cause, stays⟩ := t.step_refused refused
        simp only [run, stays, List.filterMap_cons, Except.toOption, TrackCall.azimuth?,
          TrackCall.elevation?, if_pos refused]
        exact ih beside
      · obtain ⟨smoothed, azimuth, absent, moved, passes⟩ |
          ⟨degrees, smoothed, smoothedElevation, azimuth, elevation, measured, moved,
            movedElevation, passes⟩ := t.step_accepted refused
        · -- The filter for the elevation is asked nothing.
          obtain ⟨answer, held, cleared⟩ :=
            moved_alike beside.azimuth_held beside.azimuth_cleared moved
          have next : Beside { t with azimuth := azimuth, steps := t.steps + 1 } fresh
              (f.update raw.azimuth).2 g :=
            ⟨held, beside.elevation_held, cleared, beside.elevation_cleared⟩
          obtain ⟨azimuths, elevations⟩ := ih next
          simp only [run, passes, List.filterMap_cons, Except.toOption, TrackCall.azimuth?,
            TrackCall.elevation?, if_neg refused, absent, Option.map_none, List.map_cons,
            AngleFilter.answers, answer, azimuths]
          exact ⟨trivial, elevations⟩
        · obtain ⟨answer, held, cleared⟩ :=
            moved_alike beside.azimuth_held beside.azimuth_cleared moved
          obtain ⟨answer', held', cleared'⟩ :=
            moved_alike beside.elevation_held beside.elevation_cleared movedElevation
          have next : Beside
              { t with azimuth := azimuth, elevation := elevation, steps := t.steps + 1 } fresh
              (f.update raw.azimuth).2 (g.update degrees).2 := ⟨held, held', cleared, cleared'⟩
          obtain ⟨azimuths, elevations⟩ := ih next
          simp only [run, passes, List.filterMap_cons, Except.toOption, TrackCall.azimuth?,
            TrackCall.elevation?, if_neg refused, measured, Option.map_some, List.map_cons,
            AngleFilter.answers, answer, answer', azimuths, elevations, and_self]

theorem run_append (t : Track V) (calls more : List TrackCall) :
    (t.run (calls ++ more)).2 = ((t.run calls).2.run more).2 := by
  induction calls generalizing t with
  | nil => rfl
  | cons call rest ih => cases call <;> exact ih _

private theorem run_steps (t : Track V) (start : t.steps = 0) (calls : List TrackCall) :
    (t.run calls).2.steps = (calls.rtakeWhile TrackCall.isStep).countP TrackCall.isAccepted := by
  induction calls using List.reverseRecOn with
  | nil => exact start
  | append_singleton calls call ih =>
    rw [run_append, List.rtakeWhile_concat]
    cases call with
    | reset => rfl
    | step raw =>
      rw [if_pos (show (TrackCall.step raw).isStep = true from rfl), List.countP_append, ← ih]
      by_cases refused : raw.Refused
      · obtain ⟨cause, stays⟩ := (t.run calls).2.step_refused refused
        simp only [run, stays, List.countP_singleton, TrackCall.isAccepted, refused, decide_true,
          Bool.not_true, Bool.false_eq_true, if_false, Nat.add_zero]
      · have counted : ((t.run calls).2.step raw).2.steps = (t.run calls).2.steps + 1 := by
          obtain ⟨_, _, _, _, passes⟩ | ⟨_, _, _, _, _, _, _, _, passes⟩ :=
            (t.run calls).2.step_accepted refused <;> rw [passes]
        simp only [run, counted, List.countP_singleton, TrackCall.isAccepted, refused, decide_false,
          Bool.not_false, if_true]

/-- A track is two filters of its mode behind one gate. Wherever its calls have brought it, it refuses
exactly the steps with an angle off the circle and is left by them as it was; the angles it answers
with are those of the mode's own filter for each kind, which sees the accepted angles of that kind and
nothing else and starts over at every reset. -/
theorem run_independent [Inhabited V] {mode : Smoothing} {t : Track V} (made : ofMode mode = .ok t)
    (calls : List TrackCall) :
    let reached := (t.run calls).2
    let accepted := (t.run calls).1.filterMap Except.toOption
    (∀ raw, (∃ cause, (reached.step raw).1 = .error cause) ↔ raw.Refused) ∧
    (∀ raw, raw.Refused → (reached.step raw).2 = reached) ∧
    (∀ raw smoothed, (reached.step raw).1 = .ok smoothed →
      smoothed.elevation.isSome = raw.elevation.isSome) ∧
    accepted.map (fun smoothed => .ok smoothed.azimuth) =
      mode.answers V (calls.filterMap TrackCall.azimuth?) ∧
    accepted.filterMap (fun smoothed => smoothed.elevation.map .ok) =
      mode.answers V (calls.filterMap TrackCall.elevation?) ∧
    reached.steps = (calls.rtakeWhile TrackCall.isStep).countP TrackCall.isAccepted := by
  obtain ⟨fresh, azimuthMade, made⟩ := Located.bind_success _ _ _ made
  obtain ⟨other, elevationMade, made⟩ := Located.bind_success _ _ _ made
  cases azimuthMade.symm.trans elevationMade
  cases made
  have cleared := AngleFilter.cleared_ofMode azimuthMade
  have beside : Beside ⟨mode, fresh, fresh, 0⟩ fresh fresh fresh := ⟨rfl, rfl, cleared, cleared⟩
  obtain ⟨azimuths, elevations⟩ := run_beside beside calls
  rw [AngleFilter.answers_ofMode azimuthMade] at azimuths elevations
  exact ⟨fun raw => step_error_iff _, fun raw refused => step_stays _ refused,
    fun raw smoothed passed => step_elevation _ passed, azimuths, elevations, run_steps _ rfl calls⟩

/-- Every accepted angle takes the filter half of the way to it. One step is off the circle, two have
no elevation, and the last follows a reset. -/
theorem run_independent_halfway :
    let _ : Trigonometry := .platform
    let track : Track Phasor := ⟨.exponential 0.5, .exponential ⟨0.5, 0⟩, .exponential ⟨0.5, 0⟩, 0⟩
    let calls : List TrackCall :=
      [.step ⟨8, some 16⟩, .step ⟨400, some 30⟩, .step ⟨24, none⟩, .step ⟨2, some 40⟩, .reset,
        .step ⟨16, none⟩]
    let accepted := (track.run calls).1.filterMap Except.toOption
    ofMode (.exponential 0.5) = .ok track ∧ (track.run calls).2.steps = 1 ∧
      accepted.map (fun smoothed => (.ok smoothed.azimuth : Located Float32)) =
        [.ok 4, .ok 14, .ok 8, .ok 8] ∧
      accepted.filterMap (fun smoothed => smoothed.elevation.map (.ok : _ → Located Float32)) =
        [.ok 8, .ok 24] := by
  intro _ track calls accepted
  have made : ofMode (.exponential 0.5) = .ok track := by rfl
  have azimuthAnswers : Smoothing.answers Phasor (.exponential 0.5)
      (calls.filterMap TrackCall.azimuth?) = [.ok 4, .ok 14, .ok 8, .ok 8] := by
    decide +kernel
  have elevationAnswers : Smoothing.answers Phasor (.exponential 0.5)
      (calls.filterMap TrackCall.elevation?) = [.ok 8, .ok 24] := by decide +kernel
  have counted : (calls.rtakeWhile TrackCall.isStep).countP TrackCall.isAccepted = 1 := by
    decide +kernel
  obtain ⟨-, -, -, azimuths, elevations, steps⟩ := run_independent made calls
  exact ⟨made, steps.trans counted, azimuths.trans azimuthAnswers,
    elevations.trans elevationAnswers⟩

end Track

end

end DirectionFinding
