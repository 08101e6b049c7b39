import DirectionFinding.Columnar.Compact

/-!
Compression by literals and copies. Bytes are cut into blocks, and a block into literals and copies
of earlier bytes of the block. Places are remembered in a table by a hash of the four bytes that
start there; where no match is found for long, the search takes longer and longer strides.
-/
namespace DirectionFinding.Compression

inductive Element where
  | literal (bytes : Bytes)
  | copy (offset length : Nat)
  deriving DecidableEq, Repr

namespace Element

def encodeLiteral (bytes : Bytes) : Bytes :=
  let last := bytes.length - 1
  (if last < 60 then [UInt8.ofNat (4 * last)]
    else if last < 256 then [UInt8.ofNat (4 * 60), UInt8.ofNat last]
    else UInt8.ofNat (4 * 61) :: littleEndian 2 last) ++ bytes

/-- A copy of at most 64 bytes; a short one from nearby takes two bytes. -/
def encodeCopy (offset length : Nat) : Bytes :=
  if length ≤ 11 ∧ offset ≤ 2047 then
    [UInt8.ofNat (offset / 0x100 * 0x20 + (length - 4) * 4 + 1), UInt8.ofNat offset]
  else UInt8.ofNat ((length - 1) * 4 + 2) :: littleEndian 2 offset

/-- Lengths of the copies that a match is divided into; none is shorter than four. -/
def copyLengths (length : Nat) : List Nat :=
  if _h : 68 ≤ length then 64 :: copyLengths (length - 64)
  else if 64 < length then [60, length - 60]
  else [length]
termination_by length

def encode : Element → Bytes
  | literal bytes => if bytes = [] then [] else encodeLiteral bytes
  | copy offset length => (copyLengths length).flatMap (encodeCopy offset)

end Element

def blockLength : Nat := 0x10000

/-- Bytes at the end of a block in which no match starts. -/
def margin : Nat := 15

/-- Binary logarithm of the table's size: between 8 and 14, and no less than the block asks for. -/
def tableBits (length : Nat) : Nat :=
  min 14 (max 8 ((length - 1).log2 + 1))

structure Search where
  source : Array UInt8
  bits : Nat
  table : Array Nat

namespace Search

def ofBlock (source : Array UInt8) : Search :=
  let bits := tableBits source.size
  ⟨source, bits, Array.replicate (1 <<< bits) 0⟩

def byteAt (s : Search) (i : Nat) : Nat :=
  (s.source.getD i 0).toNat

def wordAt (s : Search) (i : Nat) : Nat :=
  s.byteAt i + 0x100 * s.byteAt (i + 1) + 0x10000 * s.byteAt (i + 2) +
    0x1000000 * s.byteAt (i + 3)

def hash (s : Search) (word : Nat) : Nat :=
  (word * 0x1e35a7bd % 0x100000000) >>> (32 - s.bits)

def remember (s : Search) (i : Nat) : Nat × Search :=
  let key := s.hash (s.wordAt i)
  (s.table.getD key 0, { s with table := s.table.setIfInBounds key i })

def matchLength (s : Search) (i j : Nat) : Nat → Nat
  | 0 => 0
  | room + 1 => if s.byteAt i = s.byteAt j then s.matchLength (i + 1) (j + 1) room + 1 else 0

def slice (s : Search) (start stop : Nat) : Bytes :=
  (s.source.extract start stop).toList

def lastLiteral (s : Search) (emitted : Nat) : List Element :=
  [.literal (s.slice emitted s.source.size)]

/-- Elements of the block behind `emitted`. The search stands at `i`; behind a match (`matched`) it
looks for another one right there, and else it passes on in strides of `skip / 32`. Every step moves
on, so the length of the block is `fuel` enough. -/
def elements (limit : Nat) : Nat → Search → Nat → Nat → Bool → Nat → List Element
  | 0, s, emitted, _, _, _ => s.lastLiteral emitted
  | fuel + 1, s, emitted, i, matched, skip =>
    let stride := skip / 32
    if (if matched then limit ≤ i else limit < i + stride) then s.lastLiteral emitted
    else
      let s := if matched then (s.remember (i - 1)).2 else s
      let (candidate, s) := s.remember i
      if s.wordAt i = s.wordAt candidate then
        let length := 4 + s.matchLength (i + 4) (candidate + 4) (s.source.size - (i + 4))
        let next := i + length
        .literal (s.slice emitted i) :: .copy (i - candidate) length ::
          elements limit fuel s next next true 32
      else if matched then elements limit fuel s emitted (i + 1) false 32
      else elements limit fuel s emitted (i + stride) false (skip + stride)

end Search

/-- Elements of a block; a short one is a single literal. -/
def blockElements (block : Array UInt8) : List Element :=
  if block.size < margin + 2 then [.literal block.toList]
  else Search.elements (block.size - margin) block.size (.ofBlock block) 0 1 false 32

def blocks (bytes : Array UInt8) : List (Array UInt8) :=
  (List.range ((bytes.size + blockLength - 1) / blockLength)).map fun k =>
    bytes.extract (k * blockLength) ((k + 1) * blockLength)

def compress (bytes : Bytes) : Bytes :=
  Compact.groups bytes.length ++
    ((blocks bytes.toArray).flatMap blockElements).flatMap Element.encode

end DirectionFinding.Compression
