import DirectionFinding.AngleEstimate
import DirectionFinding.Basic
import DirectionFinding.AntennaArray
import DirectionFinding.Burst.Assignment
import DirectionFinding.Burst.Slotted
import DirectionFinding.Capture.Feed
import DirectionFinding.Capture.Reader
import DirectionFinding.Capture.Record
import DirectionFinding.Capture.Sink
import DirectionFinding.Capture.Writer
import DirectionFinding.Columnar.Chunk
import DirectionFinding.Columnar.ColumnData
import DirectionFinding.Columnar.Compact
import DirectionFinding.Columnar.Compression
import DirectionFinding.Columnar.Dictionary
import DirectionFinding.Columnar.Paging
import DirectionFinding.Columnar.RunLength
import DirectionFinding.Columnar.SchemaMessage
import DirectionFinding.Columnar.TableFile
import DirectionFinding.CommandLine.Arguments
import DirectionFinding.CommandLine.Command
import DirectionFinding.CommandLine.FileTree
import DirectionFinding.CommandLine.Inquiry
import DirectionFinding.CommandLine.OptionName
import DirectionFinding.CommandLine.PlainText
import DirectionFinding.CommandLine.Run
import DirectionFinding.CommandLine.Settings
import DirectionFinding.CommandLine.UsageFault
import DirectionFinding.CommandLine.Value
import DirectionFinding.Drift
import DirectionFinding.Error
import DirectionFinding.LaneSum
import DirectionFinding.Locator
import DirectionFinding.Main
import DirectionFinding.Monitor.Monitor
import DirectionFinding.Monitor.Output
import DirectionFinding.Monitor.Watch
import DirectionFinding.Number.Binary32
import DirectionFinding.Number.Decimal
import DirectionFinding.Number.DecimalReader
import DirectionFinding.Number.Single
import DirectionFinding.Number.Trigonometry
import DirectionFinding.Phasor
import DirectionFinding.ReferenceQuality
import DirectionFinding.Report.Bytes
import DirectionFinding.Report.File
import DirectionFinding.Report.Table
import DirectionFinding.Report.Text
import DirectionFinding.Report.Timeline
import DirectionFinding.Sampling.ControlWord
import DirectionFinding.Sampling.Plan
import DirectionFinding.Sampling.Settings
import DirectionFinding.Sampling.Spacing
import DirectionFinding.Smoothing.Compass
import DirectionFinding.Smoothing.Filter
import DirectionFinding.Smoothing.Ring
import DirectionFinding.Smoothing.Track
import DirectionFinding.Text.Integer
import DirectionFinding.Text.LowerCase
import DirectionFinding.Text.LowerCaseTable
import DirectionFinding.Proofs.Sampling.Plan
import DirectionFinding.Proofs.AntennaArray
import DirectionFinding.Proofs.Burst.Compaction
import DirectionFinding.Proofs.Burst.Assignment
import DirectionFinding.Proofs.Burst.Sampled
import DirectionFinding.Proofs.Burst.Visits
import DirectionFinding.Proofs.Drift.Instant
import DirectionFinding.Proofs.Drift.Turn
import DirectionFinding.Proofs.Number.Integer
import DirectionFinding.Proofs.Number.Product
import DirectionFinding.Proofs.AngleEstimate
import DirectionFinding.Proofs.Locator
import DirectionFinding.Proofs.Measurement
import DirectionFinding.Proofs.Locatable
import DirectionFinding.Proofs.Capture.Delivery
import DirectionFinding.Proofs.Capture.Extraction
import DirectionFinding.Proofs.Capture.Walk
import DirectionFinding.Proofs.Capture.Codec
import DirectionFinding.Proofs.Capture.Canonical
import DirectionFinding.Proofs.Capture.Recording
import DirectionFinding.Proofs.Monitor.Interleaving
import DirectionFinding.Proofs.Monitor.Refinement
import DirectionFinding.Proofs.Monitor.Received
import DirectionFinding.Proofs.Monitor.Subscription
import DirectionFinding.Proofs.Monitor.Replay
import DirectionFinding.Proofs.Report.Timeline
import DirectionFinding.Proofs.Report.Writer
import DirectionFinding.Proofs.CommandLine.Run
import DirectionFinding.Proofs.CommandLine.Agreement
import DirectionFinding.Proofs.Burst.Dwells
import DirectionFinding.Proofs.Report.Instant
import DirectionFinding.Proofs.Number.Order
import DirectionFinding.Proofs.Number.Rounding
import DirectionFinding.Proofs.Number.Arithmetic
import DirectionFinding.Proofs.Number.Interval
import DirectionFinding.Proofs.Number.Nearest
import DirectionFinding.Proofs.Number.Sign
import DirectionFinding.Proofs.Number.Undefined
import DirectionFinding.Proofs.Number.Quotient
import DirectionFinding.Proofs.Smoothing.Independence
import DirectionFinding.Proofs.Smoothing.Range
import DirectionFinding.Proofs.Range
import DirectionFinding.Proofs.Smoothing.Ring
import DirectionFinding.Proofs.Smoothing.Queue
import DirectionFinding.Proofs.Smoothing.Calls
import DirectionFinding.Proofs.Smoothing.Window
import DirectionFinding.Proofs.Smoothing.Mean
import DirectionFinding.Proofs.Smoothing.Weighted
import DirectionFinding.Proofs.Smoothing.Reset
import DirectionFinding.Proofs.Burst.SlotList
import DirectionFinding.Proofs.Smoothing.Circle
import DirectionFinding.Proofs.Smoothing.Exponential
import DirectionFinding.Proofs.Usable
import DirectionFinding.Proofs.Capture.Quantization
import DirectionFinding.Proofs.Capture.Resumption
import DirectionFinding.Proofs.Drift.Reference
import DirectionFinding.Proofs.PhaseDifference
import DirectionFinding.Proofs.ArcCosine
import DirectionFinding.Proofs.Separation
import DirectionFinding.Proofs.Sampling.Tiling
import DirectionFinding.Proofs.Report.Order
import DirectionFinding.Proofs.Report.Line
import DirectionFinding.Proofs.Report.Decoding
import DirectionFinding.Proofs.Capture.Filling
import DirectionFinding.Proofs.Columnar.Paging
import DirectionFinding.Proofs.Report.Table
