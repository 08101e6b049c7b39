import DirectionFinding.Capture.Sink
import DirectionFinding.Report.Table
import DirectionFinding.Report.Text
import DirectionFinding.Text.LowerCase

/-!
Files of reports. Batches are appended until the file is finished; what the file then tells depends on
the reports and their order, never on how they were batched. Text gathers in a buffer and a table is
only written when it is finished, so a destination that refuses bytes may show late.
-/
namespace DirectionFinding

inductive ReportForm where
  | text
  | table
  deriving DecidableEq, Repr

/-- Reads a form in any case; the message quotes the text as it was given. -/
def ReportForm.ofText (s : String) : Except String ReportForm :=
  let lower := lowerCase s
  if lower = "text" ∨ lower = "txt" then .ok .text
  else if lower = "parquet" then .ok .table
  else .error ("Invalid file type: " ++ s)

inductive ReportContent where
  | text (content : String)
  | table (rows : Nat) (columns : List StoredColumn)
  deriving DecidableEq, Repr

structure ReportFile where
  form : ReportForm
  destination : Destination := .file
  batches : List (List Report) := []
  finished : Bool := false
  deriving DecidableEq, Repr

namespace ReportFile

def reports (f : ReportFile) : List Report :=
  f.batches.flatten

def content (f : ReportFile) : ReportContent :=
  match f.form with
  | .text => .text (Report.textOf f.reports)
  | .table => .table f.reports.length (Column.all.map fun c => c.store f.batches)

def isPassedOn (f : ReportFile) : Bool :=
  let sizes := f.reports.map fun r => r.text.utf8ByteSize
  Limits.fileBuffer < total sizes || sizes.any (Limits.fileBuffer ≤ ·)

/-- Appends a batch of text; a finished file takes none. -/
def addText (f : ReportFile) (batch : List Report) : Except ReportError ReportFile := do
  if f.finished then
    throw (.io (.device "writer has been finalized"))
  batch.forM Report.requireClock
  let next := { f with batches := f.batches ++ [batch] }
  match f.destination.refusal? with
  | some cause => if next.isPassedOn then throw (.io cause) else return next
  | none => return next

/-- Appends a batch of rows, which are looked at even if the file is finished and takes none. -/
def addRows (f : ReportFile) (batch : List Report) : Except ReportError ReportFile := do
  batch.forM Report.requireClock
  if f.finished then
    throw .tableFinished
  return { f with batches := f.batches ++ [batch] }

def add (f : ReportFile) (batch : List Report) : Except ReportError ReportFile :=
  match f.form with
  | .text => f.addText batch
  | .table => f.addRows batch

/-- Finishes the file. A text file may be finished again, a table may not. A destination that
refuses bytes refuses every table, and text unless there is none. -/
def finish (f : ReportFile) : Except ReportError ReportFile :=
  if f.finished && f.form == .table then .error .tableClosedTwice
  else
    match f.form, f.destination.refusal? with
    | .text, some cause =>
      if f.reports.isEmpty then .ok { f with finished := true } else .error (.io cause)
    | .table, some cause => .error (.tableRefused cause)
    | _, none => .ok { f with finished := true }

end ReportFile

/-- Reports that are batched before they are appended to a file. -/
def ReportFile.batchSize : Nat := 1000

structure ReportWriter where
  file : ReportFile
  waiting : List Report := []
  deriving DecidableEq, Repr

namespace ReportWriter

def take (w : ReportWriter) (report : Report) : Except ReportError ReportWriter :=
  let waiting := w.waiting ++ [report]
  if waiting.length < ReportFile.batchSize then .ok { w with waiting := waiting }
  else do
    let file ← w.file.add waiting
    return { file := file }

def close (w : ReportWriter) : Except ReportError ReportFile :=
  if w.waiting.isEmpty then .ok w.file else w.file.add w.waiting

end ReportWriter

def ReportFile.ofStream (form : ReportForm) (destination : Destination) (reports : List Report) :
    Except ReportError ReportFile := do
  let writer ← reports.foldlM ReportWriter.take
    { file := { form := form, destination := destination } }
  writer.close

end DirectionFinding
