import DirectionFinding.Proofs.Report.Line
import DirectionFinding.Proofs.Report.Writer

/-!
Texts of reports are read back. A text tells its lines, since no line holds the character that ends
it, and the lines tell the reports, since each report ends with the only closing line in it. So two
lists of reports have the same text exactly if they say the same, report by report.
-/
namespace DirectionFinding

/-- Parts that each end with a mark, and hold none before it, are found again between the marks. -/
theorem splitOn_flatMap {α β : Type} [BEq β] [LawfulBEq β] {mark : β} {part : α → List β}
    (unmarked : ∀ x, mark ∉ part x) (xs : List α) :
    (xs.flatMap fun x => part x ++ [mark]).splitOn mark = xs.map part ++ [[]] := by
  induction xs with
  | nil => simp
  | cons x xs ih =>
    rw [List.flatMap_cons, List.append_assoc, List.singleton_append,
      List.splitOn_append_cons_self_of_not_mem (unmarked x), ih]
    rfl

def Fix.elevationDegrees (fix : Fix) : Option (Int × Int) :=
  match fix.raw.elevation, fix.smoothed.elevation with
  | some raw, some smoothed => some (Binary32.truncate32 raw, Binary32.truncate32 smoothed)
  | _, _ => none

structure TimelinePoint.AgreesInText (p q : TimelinePoint Phasor) : Prop where
  index : p.index = q.index
  time : p.time = q.time
  antenna : p.antenna = q.antenna
  quadrature : Binary32.truncate32 p.sample.im.value = Binary32.truncate32 q.sample.im.value
  inPhase : Binary32.truncate32 p.sample.re.value = Binary32.truncate32 q.sample.re.value

private theorem ReportLine.ofPoint_eq_iff {p q : TimelinePoint Phasor} :
    ofPoint p = ofPoint q ↔ p.AgreesInText q := by
  rw [ofPoint, ofPoint, sample.injEq, UInt8.toNat_inj]
  constructor
  · rintro ⟨index, time, antenna, quadrature, inPhase⟩
    exact ⟨index, time, congrArg Antenna.mk antenna, quadrature, inPhase⟩
  · rintro ⟨index, time, antenna, quadrature, inPhase⟩
    exact ⟨index, time, congrArg Antenna.id antenna, quadrature, inPhase⟩

private theorem ReportLine.ofPoints_eq_iff {points others : List (TimelinePoint Phasor)} :
    points.map ofPoint = others.map ofPoint ↔
      List.Forall₂ TimelinePoint.AgreesInText points others := by
  rw [← List.forall₂_eq_eq_eq, List.forall₂_map_left_iff, List.forall₂_map_right_iff]
  simp only [ofPoint_eq_iff]

namespace Report

/-- Reports that say the same in whole numbers: spacings, frequency, phase and angles in degrees,
elevation in both or in neither, and the points of the timeline. -/
structure AgreesInText (r s : Report) : Prop where
  switchSpacing : r.plan.switchSpacing = s.plan.switchSpacing
  referenceSpacing : r.plan.referenceSpacing = s.plan.referenceSpacing
  sampleSpacing : r.plan.sampleSpacing = s.plan.sampleSpacing
  frequency : r.fix.frequency = s.fix.frequency
  phase : Binary32.truncate32 (toDegrees r.fix.phase) = Binary32.truncate32 (toDegrees s.fix.phase)
  elevation : r.fix.elevationDegrees = s.fix.elevationDegrees
  rawAzimuth : Binary32.truncate32 r.fix.raw.azimuth = Binary32.truncate32 s.fix.raw.azimuth
  smoothedAzimuth :
    Binary32.truncate32 r.fix.smoothed.azimuth = Binary32.truncate32 s.fix.smoothed.azimuth
  points : List.Forall₂ TimelinePoint.AgreesInText (timeline r.plan r.burst)
    (timeline s.plan s.burst)

def body (r : Report) : List ReportLine :=
  r.lines.dropLast

private theorem body_eq (r : Report) :
    r.body =
      [ReportLine.opening, .switchSpacing r.plan.switchSpacing,
        .referenceSpacing r.plan.referenceSpacing, .sampleSpacing r.plan.sampleSpacing,
        .frequency r.fix.frequency.toNat, .phase (Binary32.truncate32 (toDegrees r.fix.phase))] ++
      elevationLines r.fix ++
      [ReportLine.rawAzimuth (Binary32.truncate32 r.fix.raw.azimuth),
        .smoothedAzimuth (Binary32.truncate32 r.fix.smoothed.azimuth)] ++
      (timeline r.plan r.burst).map ReportLine.ofPoint :=
  List.dropLast_concat

private theorem lines_eq (r : Report) : r.lines = r.body ++ [.closing] := by
  rw [body_eq]
  rfl

private theorem elevationLines_eq (fix : Fix) :
    elevationLines fix =
      match fix.elevationDegrees with
      | some (raw, smoothed) => [.rawElevation raw, .smoothedElevation smoothed]
      | none => [] := by
  unfold elevationLines Fix.elevationDegrees
  cases fix.raw.elevation <;> cases fix.smoothed.elevation <;> rfl

private theorem closing_notMem_body (r : Report) : .closing ∉ r.body := by
  have points : .closing ∉ (timeline r.plan r.burst).map ReportLine.ofPoint := by
    simp [ReportLine.ofPoint]
  rw [body_eq, elevationLines_eq]
  cases r.fix.elevationDegrees <;> simp [points]

theorem elevationDegrees_eq {fix other : Fix} {rest later : List ReportLine} {raw raw' : Int}
    (same : elevationLines fix ++ .rawAzimuth raw :: rest =
      elevationLines other ++ .rawAzimuth raw' :: later) :
    fix.elevationDegrees = other.elevationDegrees ∧ raw = raw' ∧ rest = later := by
  rw [elevationLines_eq, elevationLines_eq] at same
  cases here : fix.elevationDegrees with
  | none =>
    cases there : other.elevationDegrees with
    | none => simpa [here, there] using same
    | some degrees => simp [here, there] at same
  | some degrees =>
    cases there : other.elevationDegrees with
    | none => simp [here, there] at same
    | some degrees' => simpa [here, there, Prod.ext_iff, and_assoc] using same

private theorem body_eq_iff {r s : Report} : r.body = s.body ↔ r.AgreesInText s := by
  constructor
  · intro same
    simp only [body_eq, List.append_assoc, List.cons_append, List.nil_append, List.cons.injEq,
      ReportLine.switchSpacing.injEq, ReportLine.referenceSpacing.injEq,
      ReportLine.sampleSpacing.injEq, ReportLine.frequency.injEq, ReportLine.phase.injEq,
      UInt32.toNat_inj, true_and] at same
    obtain ⟨switch, reference, sample, frequency, phase, angles⟩ := same
    obtain ⟨elevation, raw, behind⟩ := elevationDegrees_eq angles
    obtain ⟨smoothed, points⟩ := List.cons.inj behind
    exact ⟨switch, reference, sample, frequency, phase, elevation, raw,
      ReportLine.smoothedAzimuth.inj smoothed, ReportLine.ofPoints_eq_iff.mp points⟩
  · rintro ⟨switch, reference, sample, frequency, phase, elevation, raw, smoothed, points⟩
    simp only [body_eq, elevationLines_eq, switch, reference, sample, frequency, phase, elevation,
      raw, smoothed, ReportLine.ofPoints_eq_iff.mpr points]

theorem toList_textOf (reports : List Report) :
    (textOf reports).toList =
      (reports.flatMap lines).flatMap fun line => line.upToFeed ++ ['\n'] := by
  simp [textOf, Report.text, ReportLine.upToFeed, List.flatMap_map, List.flatMap_assoc]

theorem splitOn_textOf (reports : List Report) :
    (textOf reports).toList.splitOn '\n' =
      (reports.flatMap lines).map ReportLine.upToFeed ++ [[]] := by
  rw [toList_textOf]
  exact splitOn_flatMap ReportLine.feed_notMem_upToFeed _

private theorem flatMap_lines (reports : List Report) :
    reports.flatMap lines = reports.flatMap fun r => r.body ++ [.closing] := by
  rw [funext lines_eq]

private theorem splitOn_lines (reports : List Report) :
    (reports.flatMap lines).splitOn .closing = reports.map body ++ [[]] := by
  rw [flatMap_lines]
  exact splitOn_flatMap closing_notMem_body _

theorem textOf_eq_iff {reports others : List Report} :
    textOf reports = textOf others ↔ reports.map body = others.map body := by
  constructor
  · intro same
    -- First the text is cut at line feeds, then the lines are cut at the closing ones.
    have split := congrArg (fun text => text.toList.splitOn '\n') same
    simp only [splitOn_textOf, List.append_cancel_right_eq] at split
    have joined := List.map_injective_iff.mpr ReportLine.upToFeed_injective split
    have bodies := congrArg (·.splitOn .closing) joined
    simpa only [splitOn_lines, List.append_cancel_right_eq] using bodies
  · intro same
    have joined : reports.flatMap lines = others.flatMap lines := by
      have closed := congrArg (fun bodies => bodies.flatMap (· ++ [ReportLine.closing])) same
      simpa only [flatMap_lines, List.flatMap_map] using closed
    apply String.toList_injective
    rw [toList_textOf, toList_textOf, joined]

private theorem count_closing (reports : List Report) :
    (reports.flatMap lines).count .closing = reports.length := by
  induction reports with
  | nil => rfl
  | cons r reports ih =>
    rw [List.flatMap_cons, List.count_append, ih, lines_eq, List.count_append,
      List.count_eq_zero_of_not_mem r.closing_notMem_body, List.length_cons]
    exact Nat.add_comm 1 _

private theorem toUTF8_injective {s t : String} (same : s.toUTF8.toList = t.toUTF8.toList) :
    s = t := by
  simp only [ByteArray.toList, toList_loop, List.reverse_nil, List.nil_append,
    List.drop_zero] at same
  apply String.toByteArray_inj.mp
  ext1
  exact Array.toList_inj.mp same

theorem textOf_bytes (reports : List Report) :
    (reports.flatMap fun r => r.text.toUTF8.toList) = (textOf reports).toUTF8.toList := by
  rw [textOf, toUTF8_join, List.flatMap_map]

theorem texts_eq_nil {reports : List Report}
    (empty : (reports.flatMap fun r => r.text.toUTF8.toList) = []) : reports = [] := by
  have none : textOf reports = textOf [] := by
    apply toUTF8_injective
    rw [← textOf_bytes, ← textOf_bytes, empty]
    rfl
  exact List.map_eq_nil_iff.mp (textOf_eq_iff.mp none)

/-- Texts written one after the other are the same bytes exactly if they come from as many reports,
which agree one by one; and as many lines of them close a report as there are reports. These are the
texts that a file gets of reports whose clock passes `Report.requireClock`; it takes no others. -/
theorem texts_eq_iff (reports others : List Report) :
    ((reports.flatMap fun r => r.text.toUTF8.toList) =
        (others.flatMap fun r => r.text.toUTF8.toList) ↔
      List.Forall₂ AgreesInText reports others) ∧
    ((textOf reports).toList.splitOn '\n').count "DF_END\r".toList = reports.length := by
  constructor
  · have agree : List.Forall₂ AgreesInText reports others ↔ reports.map body = others.map body := by
      rw [← List.forall₂_eq_eq_eq, List.forall₂_map_left_iff, List.forall₂_map_right_iff]
      simp only [body_eq_iff]
    rw [textOf_bytes, textOf_bytes, agree, ← textOf_eq_iff]
    exact ⟨toUTF8_injective, fun same => by rw [same]⟩
  · have closing : "DF_END\r".toList = ReportLine.closing.upToFeed := rfl
    rw [splitOn_textOf, List.count_append, closing,
      List.count_map_of_injective _ _ ReportLine.upToFeed_injective, count_closing]
    rfl

end Report

end DirectionFinding
