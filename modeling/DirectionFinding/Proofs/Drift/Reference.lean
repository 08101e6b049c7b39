import DirectionFinding.Drift
import DirectionFinding.Proofs.Number.Quotient
import DirectionFinding.Proofs.Usable

/-!
References from which a drift is estimated. Every later sample is looked at before it divides the one
before it, and what is no number reaches the mean; the first sample divides nothing, so a zero there,
or an infinite part, can leave the mean finite.
-/
namespace DirectionFinding

private theorem later_neighbours {α : Type} (xs : List α) :
    (neighbours xs).map Prod.snd = xs.tail :=
  List.map_snd_zip (by rw [List.length_tail]; exact Nat.sub_le _ _)

private theorem usable_neighbours {reference : List Phasor} :
    (∀ pair ∈ neighbours reference, pair.2.isUsable = true) ↔
      ∀ z ∈ reference.tail, z.isUsable = true := by
  rw [← later_neighbours, List.forall_mem_map]

/-- Bound on sums of turns: adding half a circle to it rounds back to it. -/
def turnLimit : Float32 := 67108864

/-- Enough samples, all but the first usable, and between neighbours a turn. -/
structure Measurable (reference : List Phasor) : Prop where
  long : 2 ≤ reference.length
  later : ∀ z ∈ reference.tail, z.isUsable = true
  comparable : ∀ pair ∈ neighbours reference, pair.1.Comparable pair.2

namespace Measurable

variable {reference : List Phasor}

theorem known (measurable : Measurable reference) :
    ∀ pair ∈ neighbours reference, (pair.1 / pair.2).IsKnown := fun pair member =>
  (Phasor.isKnown_div_iff (usable_neighbours.mpr measurable.later pair member)).mpr
    (measurable.comparable pair member)

private theorem proper_tail (measurable : Measurable reference) :
    ∀ z ∈ reference.tail, z.Proper := fun z member =>
  Phasor.proper_of_usable (measurable.later z member)

private theorem isKnown_head (measurable : Measurable reference) :
    ∀ z ∈ reference.head?, z.IsKnown := by
  obtain ⟨long, -, comparable⟩ := measurable
  match reference, long with
  | first :: second :: rest, _ =>
    intro z head
    cases head
    exact (comparable (first, second) List.mem_cons_self).left

end Measurable

section
variable [Trigonometry]

def turnSum (sum : Float32) (pairs : List (Phasor × Phasor)) : Float32 :=
  pairs.foldl (fun sum pair => sum + (pair.1 / pair.2).arg) sum

private theorem sumTurns_eq (sum : Float32) (pairs : List (Phasor × Phasor)) :
    sumTurns sum pairs =
      if ∀ pair ∈ pairs, pair.2.isUsable = true then .ok (turnSum sum pairs)
      else .error (.degenerateSignal .unusableReferenceSample) := by
  induction pairs generalizing sum with
  | nil => rfl
  | cons pair pairs ih =>
    rw [sumTurns, ih]
    by_cases usable : pair.2.isUsable = true
    · simp only [List.forall_mem_cons, usable, true_and, if_true]
      rfl
    · simp only [List.forall_mem_cons, usable, false_and, Bool.false_eq_true, if_false]

private theorem turnSum_within (range : Trigonometry.AngleRange) {sum : Float32}
    (inside : Within (-turnLimit) turnLimit sum) {pairs : List (Phasor × Phasor)}
    (known : ∀ pair ∈ pairs, (pair.1 / pair.2).IsKnown) :
    Within (-turnLimit) turnLimit (turnSum sum pairs) := by
  induction pairs generalizing sum with
  | nil => exact inside
  | cons pair pairs ih =>
    obtain ⟨re, im⟩ := known pair List.mem_cons_self
    have turned : Within (-pi) pi (pair.1 / pair.2).arg := range.known _ _ im re
    -- At the bound numbers lie eight apart, and half a circle is less than half of that.
    exact ih (inside.add turned).widen fun other member =>
      known other (List.mem_cons_of_mem pair member)

private theorem turnSum_isNaN {sum : Float32} (strange : sum.isNaN = true)
    (pairs : List (Phasor × Phasor)) : (turnSum sum pairs).isNaN = true := by
  induction pairs generalizing sum with
  | nil => exact strange
  | cons pair pairs ih => exact ih (Binary32.strict_add.left _ _ strange)

private theorem turnSum_lost (angles : Trigonometry.FiniteAngles) (sum : Float32)
    {pairs : List (Phasor × Phasor)} {pair : Phasor × Phasor} (member : pair ∈ pairs)
    (strange : ¬ (pair.1 / pair.2).IsKnown) : (turnSum sum pairs).isNaN = true := by
  induction pairs generalizing sum with
  | nil => cases member
  | cons first pairs ih =>
    rcases List.mem_cons.mp member with rfl | member
    · exact turnSum_isNaN (Binary32.strict_add.right _ _ (Phasor.isNaN_arg angles strange)) pairs
    · exact ih _ member

def meanTurn (reference : List Phasor) : Float32 :=
  turnSum 0 (neighbours reference) / Float32.ofNat (reference.length - 1)

private theorem estimateDrift_eq (reference : List Phasor) :
    estimateDrift reference =
      if reference.length < 2 then .error (.degenerateSignal .driftNeedsTwoSamples)
      else if ∀ z ∈ reference.tail, z.isUsable = true then
        if (meanTurn reference).isFinite then .ok (meanTurn reference)
        else .error (.degenerateSignal .nonFiniteReference)
      else .error (.degenerateSignal .unusableReferenceSample) := by
  by_cases short : reference.length < 2
  · simp only [estimateDrift, if_pos short]
    rfl
  · by_cases usable : ∀ z ∈ reference.tail, z.isUsable = true
    · simp only [estimateDrift, sumTurns_eq, usable_neighbours, if_neg short, if_pos usable]
      rfl
    · simp only [estimateDrift, sumTurns_eq, usable_neighbours, if_neg short, if_neg usable]
      rfl

variable {reference : List Phasor}

private theorem Measurable.isFinite_meanTurn (range : Trigonometry.AngleRange)
    (measurable : Measurable reference) : (meanTurn reference).isFinite = true := by
  have inside : Within (-turnLimit) turnLimit (turnSum 0 (neighbours reference)) :=
    turnSum_within range (by decide +kernel) measurable.known
  have small : (Binary32.height (turnSum 0 (neighbours reference))).natAbs < 2 ^ 276 := by
    have low : -(2 ^ 276 : Int) < Binary32.height (-turnLimit) := by decide +kernel
    have high : Binary32.height turnLimit < 2 ^ 276 := by decide +kernel
    have bounds := inside.heights
    omega
  exact Binary32.isFinite_div inside.finite small
    (Binary32.one_le_ofNat (Nat.sub_pos_of_lt measurable.long))

theorem Measurable.estimateDrift (range : Trigonometry.AngleRange)
    (measurable : Measurable reference) :
    DirectionFinding.estimateDrift reference = .ok (meanTurn reference) := by
  rw [estimateDrift_eq, if_neg (Nat.not_lt.mpr measurable.long), if_pos measurable.later,
    if_pos (measurable.isFinite_meanTurn range)]

private theorem meanTurn_lost (angles : Trigonometry.FiniteAngles)
    (usable : ∀ z ∈ reference.tail, z.isUsable = true)
    (strange : ¬ ∀ pair ∈ neighbours reference, pair.1.Comparable pair.2) :
    ¬ (meanTurn reference).isFinite = true := by
  obtain ⟨pair, strange⟩ := not_forall.mp strange
  obtain ⟨member, strange⟩ := Classical.not_imp.mp strange
  rw [← Phasor.isKnown_div_iff (usable_neighbours.mpr usable pair member)] at strange
  have lost := Binary32.strict_div.left _ (Float32.ofNat (reference.length - 1))
    (turnSum_lost angles 0 member strange)
  intro finite
  cases (Binary32.isNumber finite).symm.trans lost

private theorem estimateDrift_refused (angles : Trigonometry.FiniteAngles)
    (unmeasured : ¬ Measurable reference) :
    ∃ fault, estimateDrift reference = .error (.degenerateSignal fault) := by
  rw [estimateDrift_eq]
  by_cases short : reference.length < 2
  · exact ⟨_, if_pos short⟩
  rw [if_neg short]
  by_cases usable : ∀ z ∈ reference.tail, z.isUsable = true
  · have strange := mt (Measurable.mk (Nat.not_lt.mp short) usable) unmeasured
    rw [if_pos usable, if_neg (meanTurn_lost angles usable strange)]
    exact ⟨_, rfl⟩
  · exact ⟨_, if_neg usable⟩

private theorem measurable_of_ok (angles : Trigonometry.FiniteAngles) {drift : Float32}
    (estimated : estimateDrift reference = .ok drift) : Measurable reference := by
  by_contra unmeasured
  obtain ⟨fault, refused⟩ := estimateDrift_refused angles unmeasured
  cases estimated.symm.trans refused

/-- An estimate rests on proper samples, and a reference with any other sample is degenerate. -/
structure RestsOnProper (reference : List Phasor) : Prop where
  accepted : ∀ drift, estimateDrift reference = .ok drift →
    2 ≤ reference.length ∧ ∀ z ∈ reference, z.Proper
  refused : (∃ z ∈ reference, ¬ z.Proper) →
    ∃ fault, estimateDrift reference = .error (.degenerateSignal fault)

private theorem restsOnProper_of_head (angles : Trigonometry.FiniteAngles)
    (head : ∀ z ∈ reference.head?, z.Proper) : RestsOnProper reference := by
  have proper (measurable : Measurable reference) : ∀ z ∈ reference, z.Proper := by
    have tail := measurable.proper_tail
    cases reference with
    | nil => exact nofun
    | cons first rest => exact List.forall_mem_cons.mpr ⟨head first rfl, tail⟩
  constructor
  · intro drift estimated
    have measurable := measurable_of_ok angles estimated
    exact ⟨measurable.long, proper measurable⟩
  · rintro ⟨z, member, improper⟩
    exact estimateDrift_refused angles fun measurable => improper (proper measurable z member)

/-- Only the first sample of an accepted reference can be improper, and then it is zero or infinite:
a part of it that is no number is noticed. -/
theorem restsOnProper_iff (range : Trigonometry.AngleRange) (reference : List Phasor) :
    (∀ drift, estimateDrift reference = .ok drift →
      2 ≤ reference.length ∧ (∀ z ∈ reference.tail, z.Proper) ∧ ∀ z ∈ reference.head?, z.IsKnown) ∧
    (RestsOnProper reference ↔ (∀ z ∈ reference.head?, z.Proper) ∨ ¬ Measurable reference) := by
  have angles := range.finiteAngles
  refine ⟨fun drift estimated => ?_, fun rests => ?_, fun either => ?_⟩
  · have measurable := measurable_of_ok angles estimated
    exact ⟨measurable.long, measurable.proper_tail, measurable.isKnown_head⟩
  · -- What is measurable is accepted, so it must be proper from its first sample on.
    by_cases measurable : Measurable reference
    · have proper := (rests.accepted _ (measurable.estimateDrift range)).2
      exact .inl fun z head => proper z (List.mem_of_mem_head? head)
    · exact .inr measurable
  · rcases either with head | unmeasured
    · exact restsOnProper_of_head angles head
    · have refused := estimateDrift_refused angles unmeasured
      refine ⟨fun drift estimated => ?_, fun _ => refused⟩
      exact absurd (measurable_of_ok angles estimated) unmeasured

end

/-- A quarter turn between two proper samples. -/
theorem restsOnProper_iff_quarter :
    let _ : Trigonometry := .axis
    let reference : List Phasor := [.ofParts 0 1, .ofParts 1 0]
    Trigonometry.AngleRange ∧ (∀ z ∈ reference.head?, z.Proper) ∧
      estimateDrift reference = .ok (pi / 2) ∧ RestsOnProper reference := by
  intro _ reference
  have range : Trigonometry.AngleRange := Trigonometry.angleRange_axis
  have head : ∀ z ∈ reference.head?, z.Proper := by decide +kernel
  have estimated : estimateDrift reference = .ok (pi / 2) := by decide +kernel
  exact ⟨range, head, estimated, (restsOnProper_iff range reference).2.mpr (.inl head)⟩

/-- A zero in front of a proper sample passes for a reference without drift. -/
theorem not_restsOnProper_zero :
    let _ : Trigonometry := .axis
    Trigonometry.AngleRange ∧ estimateDrift [0, .ofParts 1 0] = .ok 0 ∧
      ¬ RestsOnProper [0, .ofParts 1 0] := by
  intro _
  have estimated : estimateDrift [0, .ofParts 1 0] = .ok 0 := by decide +kernel
  have improper : ¬ (0 : Phasor).Proper := by decide +kernel
  refine ⟨Trigonometry.angleRange_axis, estimated, fun rests => improper ?_⟩
  exact (rests.accepted 0 estimated).2 0 List.mem_cons_self

end DirectionFinding
