import DirectionFinding.Burst.Slotted
import DirectionFinding.Basic
import DirectionFinding.Error

/-!
The record that keeps one burst in a capture: sample count and frequency as 32-bit words, then a
pair of signed 16-bit numbers per sample, in-phase part first, all with the lowest byte first.
Writing rounds every part to an integer and saturates it. A capture is its records, one after the
other, with nothing between them.
-/
namespace DirectionFinding

namespace Record

def headerLength : Nat := 8

def sampleLength : Nat := 4

def encodeWord (w : UInt32) : Bytes :=
  littleEndian 4 w.toNat

def decodeWord (b0 b1 b2 b3 : UInt8) : UInt32 :=
  UInt32.ofNat (b0.toNat + 0x100 * b1.toNat + 0x10000 * b2.toNat + 0x1000000 * b3.toNat)

def encodeShort (n : Int) : Bytes :=
  littleEndian 2 (n % 0x10000).toNat

def decodeShort (b0 b1 : UInt8) : Int :=
  let m : Nat := b0.toNat + 0x100 * b1.toNat
  if m < 0x8000 then (m : Int) else (m : Int) - 0x10000

def encodeSample (z : Phasor) : Bytes :=
  encodeShort (Binary32.round16 z.re.value) ++ encodeShort (Binary32.round16 z.im.value)

/-- Samples of a payload; bytes of an incomplete sample at its end are left out. -/
def decodeSamples : Bytes → List Phasor
  | b0 :: b1 :: b2 :: b3 :: rest =>
    .ofParts (Float32.ofInt (decodeShort b0 b1)) (Float32.ofInt (decodeShort b2 b3)) ::
      decodeSamples rest
  | _ => []

/-- The record of a burst; only announced samples are kept. -/
def encode (b : RawBurst Phasor) : Bytes :=
  let samples := b.valid
  encodeWord (UInt32.ofNat samples.length) ++ encodeWord b.frequency ++
    samples.flatMap encodeSample

structure Header where
  announced : UInt32
  frequency : UInt32
  deriving DecidableEq, Repr

def Header.payloadLength (h : Header) : Nat :=
  h.announced.toNat * sampleLength

/-- Reads a header from the first eight of the given bytes; a count beyond every schedule is
refused. -/
def parseHeader : Bytes → Located Header
  | b0 :: b1 :: b2 :: b3 :: b4 :: b5 :: b6 :: b7 :: _ =>
    let header : Header := ⟨decodeWord b0 b1 b2 b3, decodeWord b4 b5 b6 b7⟩
    if Limits.recordSamples < header.announced.toNat then
      .error (.invalidArgument (.recordTooLong header.announced.toNat))
    else .ok header
  | bytes => .error (.truncated headerLength bytes.length)

def Header.burst (h : Header) (payload : Bytes) : RawBurst Phasor :=
  ⟨h.announced, h.frequency, decodeSamples payload⟩

def extract (bytes : Bytes) : Located (RawBurst Phasor × Nat) := do
  let header ← parseHeader bytes
  let length := headerLength + header.payloadLength
  if bytes.length < length then
    throw (.truncated length bytes.length)
  return (header.burst ((bytes.drop headerLength).take header.payloadLength), length)

end Record

end DirectionFinding
