import DirectionFinding.Capture.Feed
import DirectionFinding.Capture.Sink

/-!
What a command finds at a path, and what becomes of bytes written there. A path is walked step by
step; every step but the last must lead into a directory, a link stands for the place it leads to,
and the first step that fails names the fault. A file can be created in any directory that is not
closed; from then on it is there for every later path.
-/
namespace DirectionFinding

abbrev Place := List String

structure OpenedInput where
  place : Place
  feed : Feed
  deriving DecidableEq, Repr

structure OpenedOutput where
  place : Place
  destination : Destination
  deriving DecidableEq, Repr

/-- The place of the file that opening an output makes or empties, if it does. -/
def OpenedOutput.made (o : OpenedOutput) : List Place :=
  if o.destination = .file then [o.place] else []

/-- Answers of the surroundings of a command to opening a path. An output is opened beside the files
that the command has made before. -/
structure Surroundings where
  input : String → Except IoFault OpenedInput
  output : (made : List Place) → String → Except IoFault OpenedOutput

/-- What a place holds. A closed directory takes nothing new, and a barred place does not open. -/
inductive Node where
  | directory (closed : Option IoFault)
  | file (bytes : Bytes)
  | device (destination : Destination)
  | barred (cause : IoFault)
  | link (target : Place)
  deriving DecidableEq, Repr

structure FileTree where
  working : Place
  nodes : List (Place × Node)
  deriving DecidableEq, Repr

/-- A path cut at its slashes. A slash at the end asks for a directory. -/
structure Path where
  fromRoot : Bool
  steps : List String
  asDirectory : Bool
  deriving DecidableEq, Repr

def Path.ofText (text : String) : Path where
  fromRoot := text.toList.head? == some '/'
  steps := (text.splitOn "/").filter (· ≠ "")
  asDirectory := text.toList.getLast? == some '/'

namespace FileTree

def nameLimit : Nat := 255

def pathLimit : Nat := 4095

def node? (t : FileTree) (place : Place) : Option Node :=
  if place = [] then some (.directory none) else t.nodes.lookup place

/-- The place that a link leads to; any other place is its own. No link leads to a link. -/
def resolve (t : FileTree) (place : Place) : Place :=
  match t.node? place with
  | some (.link target) => target
  | _ => place

def requireDirectory (t : FileTree) (place : Place) : Except IoFault Unit :=
  match t.node? place with
  | none => .error .notFound
  | some (.directory _) => .ok ()
  | some _ => .error .notDirectory

/-- The place that steps lead to, whether or not it holds anything. Two dots lead back, at the root
to the root itself. -/
def follow (t : FileTree) : Place → List String → Except IoFault Place
  | place, [] => .ok place
  | place, step :: rest => do
    t.requireDirectory place
    if step = "." then t.follow place rest
    else if step = ".." then t.follow place.dropLast rest
    else if nameLimit < step.utf8ByteSize then .error .nameTooLong
    else t.follow (t.resolve (place ++ [step])) rest

def start (t : FileTree) (path : Path) : Place :=
  if path.fromRoot then [] else t.working

def parse (text : String) : Except IoFault Path :=
  if pathLimit < text.utf8ByteSize then .error .nameTooLong else .ok (Path.ofText text)

/-- Opens a path for reading. A directory opens and then refuses to be read; a device has nothing to
read. -/
def input (t : FileTree) (text : String) : Except IoFault OpenedInput := do
  let path ← parse text
  let place ← t.follow (t.start path) path.steps
  let plain (feed : Feed) : Except IoFault OpenedInput :=
    if path.asDirectory then .error .notDirectory else .ok ⟨place, feed⟩
  match t.node? place with
  | none | some (.link _) => .error .notFound
  | some (.directory _) => return ⟨place, ⟨[], .fault .isDirectory⟩⟩
  | some (.file bytes) => plain (Feed.ofBytes bytes)
  | some (.device _) => plain (Feed.ofBytes [])
  | some (.barred cause) => .error cause

def output (t : FileTree) (text : String) : Except IoFault OpenedOutput := do
  let path ← parse text
  let parent ← t.follow (t.start path) path.steps.dropLast
  t.requireDirectory parent
  match path.steps.getLast? with
  | none | some "." | some ".." => .error .isDirectory
  | some name =>
    if path.asDirectory then .error .isDirectory
    else if nameLimit < name.utf8ByteSize then .error .nameTooLong
    else
      let place := t.resolve (parent ++ [name])
      match t.node? place, t.node? parent with
      | some (.directory _), _ => .error .isDirectory
      | some (.file _), _ => return ⟨place, .file⟩
      | some (.device destination), _ => return ⟨place, destination⟩
      | some (.barred cause), _ => .error cause
      | none, some (.directory (some cause)) => .error cause
      | _, _ => return ⟨place, .file⟩

def withFiles (t : FileTree) (made : List Place) : FileTree :=
  { t with nodes := made.map (fun place => (place, .file [])) ++ t.nodes }

def surroundings (t : FileTree) : Surroundings :=
  ⟨t.input, fun made => (t.withFiles made).output⟩

def devices : List (Place × Node) :=
  [("null", .drain), ("zero", .drain), ("random", .drain), ("urandom", .drain),
    ("full", .refusing .noSpace)].map fun (name, destination) =>
      (["dev", name], .device destination)

/-- Where a process finds itself: its streams by their numbers, and the terminal that it has not.
What is written to its input is lost. -/
def process : List (Place × Node) :=
  [(["proc", "self", "fd", "0"], .device .drain),
    (["proc", "self", "fd", "1"], .device (.console .output)),
    (["proc", "self", "fd", "2"], .device (.console .error)),
    (["dev", "tty"], .barred (.device "No such device or address (os error 6)"))]

/-- Directories that every system has. Two of them show the state of the system and are closed. -/
def directories : List (Place × Node) :=
  ([["proc"], ["proc", "self"], ["proc", "self", "fd"]].map fun place =>
    (place, .directory (some .notFound))) ++
  (["sys"], .directory (some (.device "Read-only file system (os error 30)"))) ::
  ([["boot"], ["dev"], ["dev", "shm"], ["etc"], ["home"], ["media"], ["mnt"], ["opt"], ["root"],
    ["run"], ["srv"], ["tmp"], ["usr"], ["usr", "bin"], ["usr", "include"], ["usr", "lib"],
    ["usr", "local"], ["usr", "sbin"], ["usr", "share"], ["usr", "src"], ["var"],
    ["var", "cache"], ["var", "lib"], ["var", "log"], ["var", "tmp"]].map fun place =>
      (place, .directory none))

def files : List (Place × Node) :=
  [["etc", "passwd"], ["etc", "group"], ["etc", "hosts"], ["usr", "bin", "sh"],
    ["usr", "bin", "env"]].map fun place => (place, .file [])

/-- Links that every system has, but for those that depend on the working directory. -/
def links : List (Place × Node) :=
  [(["dev", "fd"], ["proc", "self", "fd"]), (["dev", "stdin"], ["proc", "self", "fd", "0"]),
    (["dev", "stdout"], ["proc", "self", "fd", "1"]),
    (["dev", "stderr"], ["proc", "self", "fd", "2"]), (["bin"], ["usr", "bin"]),
    (["lib"], ["usr", "lib"]), (["sbin"], ["usr", "sbin"]), (["var", "run"], ["run"]),
    (["proc", "self", "root"], [])].map fun (place, target) => (place, .link target)

/-- A working directory that holds the given files, in a system that is otherwise as usual. Its own
name is one that no path can spell, so only what starts there leads into it. -/
def ofFiles (given : List (String × Bytes)) : FileTree :=
  let working := ["tmp", ""]
  { working := working
    nodes := (given.map fun (name, bytes) => (working ++ [name], .file bytes)) ++
      (working, .directory none) :: (["proc", "self", "cwd"], .link working) ::
      devices ++ process ++ directories ++ files ++ links }

end FileTree

end DirectionFinding
