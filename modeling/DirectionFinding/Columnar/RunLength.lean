import DirectionFinding.Columnar.Compact

/-!
Small numbers of a fixed number of bits, as runs and packed groups. Numbers are taken in groups of
eight: a group of eight equal numbers starts a run, which then takes all equal numbers that follow;
other groups are packed bit by bit, and neighbouring groups share a head. An incomplete group at
the end is a short run if it is uniform and stands alone, and else is filled up with zeros.
-/
namespace DirectionFinding.RunLength

inductive Segment where
  | run (count value : Nat)
  | packed (groups : List (List Nat))
  deriving DecidableEq, Repr

/-- Groups that one head can announce. -/
def groupLimit : Nat := 63

def close (pending : List (List Nat)) : List Segment :=
  if pending = [] then [] else [.packed pending.reverse]

def segmentsFrom (pending : List (List Nat)) (values : List Nat) : List Segment :=
  match _h : values with
  | [] => close pending
  | first :: _ =>
    let group := values.take 8
    let rest := values.drop 8
    let uniform := group.all (· == first)
    if group.length < 8 then
      if pending = [] ∧ uniform then [.run group.length first]
      else close ((group ++ List.replicate (8 - group.length) 0) :: pending)
    else if uniform then
      close pending ++ .run (8 + (rest.takeWhile (· == first)).length) first ::
        segmentsFrom [] (rest.dropWhile (· == first))
    else if pending.length + 1 = groupLimit then
      close (group :: pending) ++ segmentsFrom [] rest
    else segmentsFrom (group :: pending) rest
termination_by values.length
decreasing_by
  · have := (List.dropWhile_suffix (· == first) (l := values.drop 8)).length_le
    simp only [List.length_drop] at this
    subst _h
    simp only [List.length_cons] at *
    omega
  · subst _h
    simp only [List.length_drop, List.length_cons]
    omega
  · subst _h
    simp only [List.length_drop, List.length_cons]
    omega

/-- A group of numbers of `width` bits, the first in the lowest bits. -/
def packedGroup (width : Nat) (group : List Nat) : Bytes :=
  littleEndian width (group.foldr (fun value above => value + above <<< width) 0)

def Segment.encode (width : Nat) : Segment → Bytes
  | run count value => Compact.groups (2 * count) ++ littleEndian ((width + 7) / 8) value
  | packed groups => UInt8.ofNat (2 * groups.length + 1) :: groups.flatMap (packedGroup width)

def encode (width : Nat) (values : List Nat) : Bytes :=
  (segmentsFrom [] values).flatMap (Segment.encode width)

def bitsFor (n : Nat) : Nat :=
  if n = 0 then 0 else n.log2 + 1

end DirectionFinding.RunLength
