import DirectionFinding.Error

/-!
Where bytes go. A destination is a file that keeps them, or a device that drops them, shows them or
refuses every one. A sink of limited room takes what fits before it refuses the rest. A buffer in front
of a sink gathers bytes and passes them on when the next ones would not fit; what it could not pass
on stays in it.
-/
namespace DirectionFinding

inductive Console where
  | output
  | error
  deriving DecidableEq, Repr

inductive Destination where
  | file
  | drain
  | console (stream : Console)
  | refusing (cause : IoFault)
  deriving DecidableEq, Repr

def Destination.refusal? : Destination → Option IoFault
  | refusing cause => some cause
  | _ => none

/-- A sink with the bytes it holds, the place where the next ones go, its room if that is limited,
and what it answers when it is full and, if at all, when it is flushed while full. -/
structure ByteSink where
  held : Bytes := []
  position : Nat := 0
  room : Option Nat := none
  whenFull : IoFault := .noSpace
  whenFullOnFlush : Option IoFault := none
  deriving DecidableEq, Repr

/-- Puts bytes over others at a place; a gap in front of them is filled with zeros. -/
def Bytes.overlay (held : Bytes) (position : Nat) (bytes : Bytes) : Bytes :=
  if bytes.isEmpty then held
  else
    held.take position ++
      (List.replicate (position - held.length) 0 ++ (bytes ++ held.drop (position + bytes.length)))

namespace ByteSink

def take (s : ByteSink) (bytes : Bytes) : ByteSink :=
  { s with
    held := Bytes.overlay s.held s.position bytes
    position := s.position + bytes.length }

/-- Takes all bytes or, of those that do not fit, as many as do. -/
def write (s : ByteSink) (bytes : Bytes) : Except IoFault Unit × ByteSink :=
  match s.room with
  | none => (.ok (), s.take bytes)
  | some room =>
    let free := room - s.position
    (if free < bytes.length then .error s.whenFull else .ok (), s.take (bytes.take free))

def flush (s : ByteSink) : Except IoFault Unit :=
  match s.whenFullOnFlush with
  | some cause => if s.room = some s.position then .error cause else .ok ()
  | none => .ok ()

/-- Drops what the sink holds; the place where the next bytes go stays. -/
def truncate (s : ByteSink) : ByteSink :=
  { s with held := [] }

end ByteSink

structure BufferedSink where
  target : ByteSink := {}
  capacity : Nat := 0
  pending : Bytes := []
  deriving DecidableEq, Repr

namespace BufferedSink

def ofDestination (d : Destination) : BufferedSink :=
  let target : ByteSink := match d with
    | .refusing cause => { room := some 0, whenFull := cause }
    | _ => {}
  { target := target, capacity := Limits.fileBuffer }

def settle (s : BufferedSink) : Except IoFault Unit × BufferedSink :=
  let (answer, target) := s.target.write s.pending
  (answer,
    { s with target := target, pending := s.pending.drop (target.position - s.target.position) })

/-- Takes bytes. What waits is passed on first if it would outgrow the buffer, and bytes that fill
the buffer by themselves pass it by. -/
def write (s : BufferedSink) (bytes : Bytes) : Except IoFault Unit × BufferedSink :=
  let (answer, s) := if s.capacity < s.pending.length + bytes.length then s.settle else (.ok (), s)
  match answer with
  | .error cause => (.error cause, s)
  | .ok () =>
    if s.capacity ≤ bytes.length then
      let (answer, target) := s.target.write bytes
      (answer, { s with target := target })
    else (.ok (), { s with pending := s.pending ++ bytes })

def flush (s : BufferedSink) : Except IoFault Unit × BufferedSink :=
  match s.settle with
  | (.ok (), s) => (s.target.flush, s)
  | (.error cause, s) => (.error cause, s)

end BufferedSink

end DirectionFinding
