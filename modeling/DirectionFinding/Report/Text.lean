import DirectionFinding.Report.Timeline
import DirectionFinding.Text.Integer

/-!
Text form of a report: one field per line as a key, a colon and an integer, framed by an opening
and a closing line. Lines end with carriage return and line feed, and numbers lose their fraction.
Elevation is written only when it was measured and smoothed.
-/
namespace DirectionFinding

inductive ReportLine where
  | opening
  | switchSpacing (nanoseconds : Nat)
  | referenceSpacing (nanoseconds : Nat)
  | sampleSpacing (nanoseconds : Nat)
  | frequency (megahertz : Nat)
  | phase (degrees : Int)
  | rawElevation (degrees : Int)
  | smoothedElevation (degrees : Int)
  | rawAzimuth (degrees : Int)
  | smoothedAzimuth (degrees : Int)
  | sample (index time antenna : Nat) (quadrature inPhase : Int)
  | closing
  deriving DecidableEq, Repr

namespace ReportLine

def text : ReportLine → String
  | opening => "DF_BEGIN"
  | switchSpacing n => "SW:" ++ Nat.repr n
  | referenceSpacing n => "RR:" ++ Nat.repr n
  | sampleSpacing n => "SS:" ++ Nat.repr n
  | frequency n => "FR:" ++ Nat.repr n
  | phase n => "PH:" ++ Integer.text n
  | rawElevation n => "ME:" ++ Integer.text n
  | smoothedElevation n => "KE:" ++ Integer.text n
  | rawAzimuth n => "MA:" ++ Integer.text n
  | smoothedAzimuth n => "KA:" ++ Integer.text n
  | sample index time antenna q i =>
    "IQ:" ++ String.intercalate ","
      [Nat.repr index, Nat.repr time, Nat.repr antenna, Integer.text q, Integer.text i]
  | closing => "DF_END"

/-- The line of a point of the timeline; the quadrature part comes first. -/
def ofPoint (p : TimelinePoint Phasor) : ReportLine :=
  .sample p.index p.time p.antenna.id.toNat (Binary32.truncate32 p.sample.im.value)
    (Binary32.truncate32 p.sample.re.value)

end ReportLine

namespace Report

def elevationLines (fix : Fix) : List ReportLine :=
  match fix.raw.elevation, fix.smoothed.elevation with
  | some raw, some smoothed =>
    [.rawElevation (Binary32.truncate32 raw), .smoothedElevation (Binary32.truncate32 smoothed)]
  | _, _ => []

def lines (r : Report) : List ReportLine :=
  [.opening, .switchSpacing r.plan.switchSpacing, .referenceSpacing r.plan.referenceSpacing,
    .sampleSpacing r.plan.sampleSpacing, .frequency r.fix.frequency.toNat,
    .phase (Binary32.truncate32 (toDegrees r.fix.phase))] ++
  elevationLines r.fix ++
  [.rawAzimuth (Binary32.truncate32 r.fix.raw.azimuth),
    .smoothedAzimuth (Binary32.truncate32 r.fix.smoothed.azimuth)] ++
  (timeline r.plan r.burst).map ReportLine.ofPoint ++
  [.closing]

def text (r : Report) : String :=
  String.join (r.lines.map fun line => line.text ++ "\r\n")

def textOf (reports : List Report) : String :=
  String.join (reports.map text)

end Report

end DirectionFinding
