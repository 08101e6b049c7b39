import DirectionFinding.Report.Timeline

/-!
Table form of reports: one row per report, one column per field, and the timeline in four columns
of lists.
-/
namespace DirectionFinding

inductive ColumnKind where
  | word
  | byte
  | real
  | listOf (item : ColumnKind)
  deriving DecidableEq, Repr

def ColumnKind.text : ColumnKind → String
  | word => "UInt32"
  | byte => "UInt8"
  | real => "Float32"
  | listOf item => "list of " ++ item.text

inductive Cell where
  | absent
  | word (n : UInt32)
  | byte (n : UInt8)
  | real (x : Float32)
  | words (ns : List UInt32)
  | bytes (ns : List UInt8)
  | reals (xs : List Single)
  deriving DecidableEq, Repr

structure ColumnHead where
  name : String
  kind : ColumnKind
  nullable : Bool
  deriving DecidableEq, Repr

structure Column extends ColumnHead where
  cell : Report → Cell

structure StoredColumn extends ColumnHead where
  batches : List (List Cell)
  deriving DecidableEq, Repr

def StoredColumn.cells (c : StoredColumn) : List Cell :=
  c.batches.flatten

namespace Column

def store (c : Column) (batches : List (List Report)) : StoredColumn where
  toColumnHead := c.toColumnHead
  batches := batches.map fun batch => batch.map c.cell

def ofOption (x : Option Float32) : Cell :=
  match x with
  | some x => .real x
  | none => .absent

def points (r : Report) : List (TimelinePoint Phasor) :=
  timeline r.plan r.burst

/-- Columns of the table in order. Counts beyond a 32-bit word keep their low bits. -/
def all : List Column := [
  ⟨⟨"frequency", .word, false⟩, fun r => .word r.fix.frequency⟩,
  ⟨⟨"switch_spacing_ns", .word, false⟩, fun r => .word (UInt32.ofNat r.plan.switchSpacing)⟩,
  ⟨⟨"sample_spacing_ns", .word, false⟩, fun r => .word (UInt32.ofNat r.plan.sampleSpacing)⟩,
  ⟨⟨"phase", .real, false⟩, fun r => .real r.fix.phase⟩,
  ⟨⟨"azimuth", .real, false⟩, fun r => .real r.fix.raw.azimuth⟩,
  ⟨⟨"filtered_azimuth", .real, false⟩, fun r => .real r.fix.smoothed.azimuth⟩,
  ⟨⟨"elevation", .real, true⟩, fun r => ofOption r.fix.raw.elevation⟩,
  ⟨⟨"filtered_elevation", .real, true⟩, fun r => ofOption r.fix.smoothed.elevation⟩,
  ⟨⟨"samples_used", .word, false⟩, fun r => .word (UInt32.ofNat r.fix.samplesUsed)⟩,
  ⟨⟨"iq_antenna", .listOf .byte, false⟩, fun r => .bytes ((points r).map (·.antenna.id))⟩,
  ⟨⟨"iq_time", .listOf .word, false⟩, fun r => .words ((points r).map fun p => UInt32.ofNat p.time)⟩,
  ⟨⟨"iq_i", .listOf .real, false⟩, fun r => .reals ((points r).map (·.sample.re))⟩,
  ⟨⟨"iq_q", .listOf .real, false⟩, fun r => .reals ((points r).map (·.sample.im))⟩]

end Column

end DirectionFinding
