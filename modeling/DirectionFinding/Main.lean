import DirectionFinding.CommandLine.Run

/-!
The program: looks at the files that a command names, shows what the command answers, and writes the
files that it leaves.
-/
namespace DirectionFinding

def IoFault.ofError : IO.Error → IoFault
  | .noFileOrDirectory .. => .notFound
  | .inappropriateType _ 21 _ => .isDirectory
  | .inappropriateType .. => .notDirectory
  | .resourceExhausted _ 28 _ => .noSpace
  | .invalidArgument _ 36 _ => .nameTooLong
  | cause => .device (toString cause)

def Path.place (p : Path) : Place :=
  (if p.fromRoot then "" else ".") :: p.steps.filter (· ≠ ".")

def Place.text (place : Place) : String :=
  String.intercalate "/" place

def openInput (path : String) : IO (Except IoFault OpenedInput) := do
  let place := (Path.ofText path).place
  try
    let bytes ← IO.FS.readBinFile path
    return .ok ⟨place, Feed.ofBytes bytes.data.toList⟩
  catch cause =>
    match IoFault.ofError cause with
    | .isDirectory => return .ok ⟨place, ⟨[], .fault .isDirectory⟩⟩
    | fault => return .error fault

/-- What becomes of bytes that are written to a path. A file that is there is not touched, and one
that is missing is not made yet: whether it can be is read off its directory. -/
def openOutput (path : String) : IO (Except IoFault OpenedOutput) := do
  let parsed := Path.ofText path
  let place := parsed.place
  if parsed.fromRoot then
    if let .ok opened := (FileTree.ofFiles []).output path then
      if opened.destination ≠ .file then
        return .ok opened
  try
    let _ ← IO.FS.Handle.mk path .readWrite
    return .ok ⟨place, .file⟩
  catch cause =>
    match IoFault.ofError cause with
    | .notFound =>
      try
        let _ ← IO.FS.Handle.mk (Place.text place.dropLast ++ "/") .read
        return if parsed.asDirectory then .error .isDirectory else .ok ⟨place, .file⟩
      catch cause => return .error (.ofError cause)
    | fault => return .error fault

/-- Surroundings that know the paths of one command. No path leads through a file that the command
has made. -/
def surroundingsOf (command : Command) : IO Surroundings := do
  let mut input : Except IoFault OpenedInput := .error .notFound
  if let some path := command.input? then
    input ← openInput path
  let mut outputs : List (String × Except IoFault OpenedOutput) := []
  for path in command.outputs do
    outputs := (path, ← openOutput path) :: outputs
  let opened := input
  let known := outputs
  return {
    input := fun _ => opened
    output := fun made path =>
      let place := (Path.ofText path).place
      if made.any fun file => file ≠ place && file.isPrefixOf place then .error .notDirectory
      else (known.lookup path).getD (.error .notFound) }

def Response.deliver (r : Response) : IO UInt32 := do
  (← IO.getStdout).write (ByteArray.mk r.out.toArray)
  (← IO.getStderr).write (ByteArray.mk r.err.toArray)
  for (place, content) in r.files do
    IO.FS.writeBinFile (Place.text place) (ByteArray.mk content.bytes.toArray)
  return UInt32.ofNat r.exit

end DirectionFinding

open DirectionFinding in
def main (words : List String) : IO UInt32 := do
  let surroundings ← match Invocation.ofWords words with
    | .ok invocation => surroundingsOf invocation.command
    | .error _ => pure (FileTree.surroundings (.ofFiles []))
  (@respond .platform surroundings words).deliver
