import DirectionFinding.Basic
import DirectionFinding.Number.Decimal

/-!
Causes of failure. A cause keeps the values it is about; its wording is one function per kind of
cause. Every failure belongs to a single event: it leaves the state of its caller as it was.
-/
namespace DirectionFinding

inductive ArgumentFault where
  | angleOutsideCircle (degrees : Float32)
  | coefficientOutsideUnit (alpha : Float32)
  | burstTooLarge (slots samplesPerSlot : Nat)
  | tooManyReferenceSamples (count : Nat)
  | slotsExhausted (capacity : Nat)
  | slotTooLong (count capacity : Nat)
  | emptySequence
  | distanceNotPositive (meters : Float32)
  | pairNotDistinct (a b : Antenna)
  | sameAntennaTwice (a : Antenna)
  | phaseNotFinite (phase : Float32)
  | frequencyNotPositive (hertz : Float32)
  | recordTooLong (announced : Nat)
  | secondReportSink
  | secondRawSink
  | noSourceLeft
  deriving DecidableEq, Repr

inductive Divisor where
  | switchSpacing
  | sampleSpacing
  | referenceSpacing
  | spacingRatio
  deriving DecidableEq, Repr

inductive ConfigurationFault where
  | unknownSwitchSpacing (code : UInt8)
  | unknownSampleSpacing (code : UInt8)
  | cteLength (units : Nat)
  | noSwitchingPeriod (cteMicroseconds preambleMicroseconds : Nat)
  | cteShorterThanPreamble (cteNanoseconds preambleNanoseconds : Nat)
  | emptySequence
  | sequenceTooLong (length : Nat)
  | patternCount (count : Nat)
  | unknownAntenna (a : Antenna) (known : Nat)
  | zeroDivisor (divisor : Divisor)
  | emptySlot
  | zeroAntennaStep
  | exceedsCapacity (slots samplesPerSlot referenceSamples : Nat)
  | tooFewReferenceSamples
  | magnitudeSampling
  deriving DecidableEq, Repr

inductive SignalFault where
  | driftNeedsTwoSamples
  | unusableReferenceSample
  | nonFiniteReference
  | silentFirstAntenna
  | silentSecondAntenna
  | statisticsNeedTwoSamples
  deriving DecidableEq, Repr

inductive IoFault where
  | notFound
  | isDirectory
  | notDirectory
  | noSpace
  | nameTooLong
  | device (text : String)
  deriving DecidableEq, Repr

inductive LocateError where
  | invalidArgument (fault : ArgumentFault)
  | invalidConfiguration (fault : ConfigurationFault)
  | truncated (required available : Nat)
  | degenerateSignal (fault : SignalFault)
  | io (fault : IoFault)
  | outsideStorage (place stored : Nat)
  | countOverflow (count : Nat)
  deriving DecidableEq, Repr

inductive ReportError where
  | tableFinished
  | tableClosedTwice
  | tableRefused (fault : IoFault)
  | clockOverflow (time : Nat)
  | io (fault : IoFault)
  deriving DecidableEq, Repr

def ArgumentFault.message : ArgumentFault → String
  | angleOutsideCircle degrees => s!"angle {Decimal.text degrees} is outside [0, 360)"
  | coefficientOutsideUnit alpha => s!"IIR coefficient {Decimal.text alpha} is outside [0, 1]"
  | burstTooLarge slots samplesPerSlot =>
    s!"{slots} slots of {samplesPerSlot} samples exceed the mapped packet limits"
  | tooManyReferenceSamples count =>
    s!"{count} reference samples exceed capacity of {Limits.referenceSamples}"
  | slotsExhausted capacity => s!"slot capacity of {capacity} exhausted"
  | slotTooLong count capacity => s!"{count} samples exceed slot capacity of {capacity}"
  | emptySequence => "antenna switch sequence is empty"
  | distanceNotPositive meters => s!"antenna distance {Decimal.text meters} m must be positive"
  | pairNotDistinct a b => s!"antenna pair ({a.text}, {b.text}) must name two distinct antennas"
  | sameAntennaTwice a => s!"phase difference needs two distinct antennas, got {a.text} twice"
  | phaseNotFinite phase => s!"phase {Decimal.text phase} is not finite"
  | frequencyNotPositive hertz => s!"frequency {Decimal.text hertz} Hz must be positive"
  | recordTooLong announced =>
    s!"record announces {announced} samples, at most {Limits.recordSamples} are supported"
  | secondReportSink => "Cant set two report sinks (currently)"
  | secondRawSink => "Cant set two raw sinks (currently)"
  | noSourceLeft => "Bee has no packet source left to scout"

def Divisor.text : Divisor → String
  | switchSpacing => "switch spacing"
  | sampleSpacing => "sample spacing"
  | referenceSpacing => "reference sample spacing"
  | spacingRatio => "sample to switch spacing ratio"

def ConfigurationFault.message : ConfigurationFault → String
  | unknownSwitchSpacing code => s!"switch spacing code {code} has no duration mapping"
  | unknownSampleSpacing code => s!"sample spacing code {code} has no duration mapping"
  | cteLength units => s!"CTE length of {units} x 8us is outside 2..=20"
  | noSwitchingPeriod cte preamble =>
    s!"CTE of {cte}us leaves no switching period after {preamble}us of guard and reference"
  | cteShorterThanPreamble cte preamble =>
    s!"CTE of {cte}ns is shorter than guard and reference periods ({preamble}ns)"
  | emptySequence => "antenna switch sequence is empty"
  | sequenceTooLong length =>
    s!"antenna switch sequence of {length} exceeds {Limits.switchSequence}"
  | patternCount count => s!"{count} GPIO patterns given, expected 1..={Limits.switchPatterns}"
  | unknownAntenna a known => s!"antenna {a.text} has no GPIO pattern ({known} known)"
  | zeroDivisor divisor => s!"{divisor.text} evaluates to a zero divisor"
  | emptySlot => "sampling slot holds no samples"
  | zeroAntennaStep => "antenna step evaluates to zero"
  | exceedsCapacity slots samplesPerSlot reference =>
    s!"{slots} slots of {samplesPerSlot} samples with {reference} reference samples exceed capacity"
  | tooFewReferenceSamples => "phase drift estimation needs at least two reference samples"
  | magnitudeSampling => "magnitude/phase sampling is not supported"

def SignalFault.message : SignalFault → String
  | driftNeedsTwoSamples => "phase drift needs at least two reference samples"
  | unusableReferenceSample => "zero magnitude or non-finite reference sample"
  | nonFiniteReference => "non-finite reference sample"
  | silentFirstAntenna => "no usable signal on the first antenna of the pair"
  | silentSecondAntenna => "no usable signal on the second antenna of the pair"
  | statisticsNeedTwoSamples => "reference statistics need at least two samples"

def IoFault.message : IoFault → String
  | notFound => "No such file or directory (os error 2)"
  | isDirectory => "Is a directory (os error 21)"
  | notDirectory => "Not a directory (os error 20)"
  | noSpace => "No space left on device (os error 28)"
  | nameTooLong => "File name too long (os error 36)"
  | device text => text

def LocateError.message : LocateError → String
  | invalidArgument fault => "Invalid argument: " ++ fault.message
  | invalidConfiguration fault => "Invalid configuration: " ++ fault.message
  | truncated required available =>
    s!"Received packet of insufficient sample number: {available} (required: {required})"
  | degenerateSignal fault => "Degenerate signal: " ++ fault.message
  | io fault => "IO error while reading packets: " ++ fault.message
  | outsideStorage place stored => s!"place {place} lies outside {stored} stored ones"
  | countOverflow count => s!"a count of {count} exceeds a 64-bit word"

def ReportError.message : ReportError → String
  | tableFinished => "Error in writing parquet file: Writer has been finalized"
  | tableClosedTwice => "Error in writing parquet file: Writer already finalized"
  | tableRefused fault => "Error in writing parquet file: External: " ++ fault.message
  | clockOverflow time => s!"an instant of {time} time units exceeds a 32-bit word"
  | io fault => "IO error in file persistence: " ++ fault.message

abbrev Located := Except LocateError

/-- What a change in place left behind, if it was not refused. -/
def Located.after {α : Type} (changed : Located Unit × α) : Located α :=
  changed.1.map fun _ => changed.2

theorem Located.ok_bind {α β : Type} (value : α) (next : α → Located β) :
    (.ok value >>= next) = next value :=
  rfl

theorem Located.after_ok {α : Type} (next : α) : Located.after (.ok (), next) = .ok next :=
  rfl

theorem Located.bind_success {α β : Type} (first : Located α) (next : α → Located β) (result : β)
    (ok : (first >>= next) = .ok result) : ∃ value, first = .ok value ∧ next value = .ok result := by
  cases first with
  | error cause => simp [bind, Except.bind] at ok
  | ok value => exact ⟨value, rfl, ok⟩

theorem forM_eq_ok {ε α : Type} {check : α → Except ε Unit} {xs : List α}
    (passes : ∀ x ∈ xs, check x = .ok ()) : xs.forM check = .ok () := by
  induction xs with
  | nil => rfl
  | cons x xs ih =>
    rw [List.forM_eq_forM, List.forM_cons, passes x List.mem_cons_self]
    exact ih fun y member => passes y (List.mem_cons_of_mem _ member)

theorem mapM_eq_ok {ε α β : Type} {f : α → Except ε β} {g : α → β} {xs : List α}
    (answers : ∀ x ∈ xs, f x = .ok (g x)) : xs.mapM f = .ok (xs.map g) := by
  induction xs with
  | nil => rfl
  | cons x xs ih =>
    rw [List.mapM_cons, answers x List.mem_cons_self,
      ih fun y member => answers y (List.mem_cons_of_mem _ member)]
    rfl

theorem Located.mapM_success {α β : Type} {f : α → Located β} {xs : List α} {ys : List β}
    (ok : xs.mapM f = .ok ys) : ∀ x ∈ xs, ∃ y, f x = .ok y := by
  induction xs generalizing ys with
  | nil => exact fun x member => absurd member List.not_mem_nil
  | cons x xs ih =>
    rw [List.mapM_cons] at ok
    obtain ⟨y, first, ok⟩ := bind_success _ _ _ ok
    obtain ⟨rest, later, _⟩ := bind_success _ _ _ ok
    intro z member
    rcases List.mem_cons.mp member with rfl | member
    · exact ⟨y, first⟩
    · exact ih later z member

def requireCount (count : Nat) : Located Unit :=
  if count < Limits.counts then .ok () else .error (.countOverflow count)

end DirectionFinding
