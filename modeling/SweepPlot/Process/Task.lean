import SweepPlot.Process.Child
import SweepPlot.FileTree.Access
import SweepPlot.Text.ByteChars

/-!
# Running programs

A `Task` is what a running program works with: the tree of files, and the files that it has open
under small numbers. `Task.readFront` and `Task.write` move bytes, which a program sees as
characters. `Task.start` starts a program with an input, and `Child.ofTask` says what it has done
when it ends.
-/

namespace SweepPlot

/-- A file that has been opened. -/
inductive Stream
  /-- A pipe to read from: what has not been read yet. -/
  | source (rest : Bytes)
  /-- A pipe to write to: what has been written, the latest first. -/
  | sink (written : List Bytes)
  /-- A file in the tree, with the position in it; every write may go to its end. -/
  | file (loc : Location) (position : Nat) (appends : Bool)
  deriving Repr, Inhabited

/-- What a running program works with. -/
structure Task where
  tree : FileTree
  /-- All that has been opened. -/
  streams : Array Stream
  /-- The numbers of open files, with the stream that each stands for. -/
  descriptors : List (Nat × Nat)
  deriving Repr, Inhabited

/-- Work with files. -/
abbrev TaskM := StateM Task

/-- What a file is opened for. -/
inductive OpenMode
  | reading
  /-- It is emptied and written. -/
  | writing
  | appending
  deriving DecidableEq, Repr

namespace Task

/-- The stream with the number of an open file, and its own number. -/
def stream? (t : Task) (fd : Nat) : Option (Nat × Stream) := do
  let id ← t.descriptors.lookup fd
  return (id, ← t.streams[id]?)

/-- A stream in another state. -/
def setStream (t : Task) (id : Nat) (s : Stream) : Task :=
  { t with streams := t.streams.setIfInBounds id s }

/-- One more stream: its number. -/
def addStream (s : Stream) : TaskM Nat := fun t =>
  (t.streams.size, { t with streams := t.streams.push s })

/-- A number stands for a stream from now on. -/
def attach (fd id : Nat) : TaskM Unit :=
  modify fun t => { t with descriptors := (fd, id) :: t.descriptors.filter (·.1 ≠ fd) }

/-- A number stands for nothing from now on. -/
def close (fd : Nat) : TaskM Unit :=
  modify fun t => { t with descriptors := t.descriptors.filter (·.1 ≠ fd) }

/-- Read a front of what is left. -/
def readFront (front : Bytes → Bytes) (fd : Nat) : TaskM (Except OsError (List Char)) := fun t =>
  match t.stream? fd with
  | some (id, .source rest) =>
    let taken := front rest
    (.ok (Text.ByteChars.ofBytes taken), t.setStream id (.source (rest.drop taken.length)))
  | some (id, .file loc position appends) =>
    match t.tree.readAt loc with
    | .error _ => (.error .isADirectory, t)
    | .ok content =>
      let taken := front (content.drop position)
      (.ok (Text.ByteChars.ofBytes taken),
        t.setStream id (.file loc (position + taken.length) appends))
  | _ => (.error .badDescriptor, t)

/-- Read so many bytes at most; none at the end. -/
def read (limit : Nat) : Nat → TaskM (Except OsError (List Char)) := readFront (List.take limit)

/-- Read all that is left. -/
def readAll : Nat → TaskM (Except OsError (List Char)) := readFront id

/-- A content with bytes written at a position. -/
def overwrite (content : Bytes) (position : Nat) (bytes : Bytes) : Bytes :=
  content.take position ++ List.replicate (position - content.length) 0 ++ bytes ++
    content.drop (position + bytes.length)

/-- Write bytes. What a number without an open file is given is lost. -/
def write (fd : Nat) (cs : List Char) : TaskM Unit := modify fun t =>
  let bytes := Text.ByteChars.toBytes cs
  match t.stream? fd with
  | some (id, .sink written) => t.setStream id (.sink (bytes :: written))
  | some (id, .file loc position appends) =>
    match t.tree.lookup loc with
    | some (.file content) =>
      let position := if appends then content.length else position
      { t.setStream id (.file loc (position + bytes.length) appends) with
        tree := t.tree.set loc (.file (overwrite content position bytes)) }
    | _ => t
  | _ => t

/-- The error of the operating system behind a fault. -/
def osError : IoFault → OsError
  | .os e => e
  | _ => .notFound

/-- Open the file at a location from its beginning: its stream. -/
def openAt (mode : OpenMode) (loc : Location) : TaskM Nat := do
  if mode = .writing then
    modify fun t => match t.tree.lookup loc with
      | some (.file _) => { t with tree := t.tree.set loc (.file []) }
      | _ => t
  addStream (.file loc 0 (mode = .appending))

/-- Open what a number stands for once more. A pipe cannot be opened again, but only shared. -/
def reopen (mode : OpenMode) (fd : Nat) : TaskM (Except OsError Nat) := do
  match (← get).stream? fd with
  | some (_, .file loc _ _) => return .ok (← openAt mode loc)
  | some (id, _) => return .ok id
  | none => return .error .notFound

/-- The location that a path leads to when it is opened, and the tree in which it exists. -/
def place (mode : OpenMode) (path : String) (tree : FileTree) :
    Except IoFault (Location × FileTree) :=
  match mode with
  | .reading => (tree.openRead path).map fun loc => (loc, tree)
  | _ => tree.openWrite (mode = .writing) path

/-- Open a file: its stream. -/
def openFile (mode : OpenMode) (path : String) : TaskM (Except OsError Nat) := do
  match place mode path (← get).tree with
  | .error fault => return .error (osError fault)
  | .ok (loc, tree) =>
    modify fun t => { t with tree := tree }
    match tree.lookup loc with
    | some (.device (.descriptor fd)) => reopen mode fd
    | _ => return .ok (← openAt mode loc)

/-- The content of the file at a path. -/
def content (path : String) : TaskM (Except OsError (List Char)) := do
  match (← get).tree.openRead path with
  | .error fault => return .error (osError fault)
  | .ok loc =>
    match (← get).tree.lookup loc with
    | some (.device (.descriptor fd)) => readAll fd
    | _ =>
      match (← get).tree.readAt loc with
      | .ok bytes => return .ok (Text.ByteChars.ofBytes bytes)
      | .error fault => return .error (osError fault)

/-- A program is started: it reads its input as number 0, writes its output as number 1 and
complains to number 2. -/
def start (tree : FileTree) (input : Bytes) : Task :=
  { tree := tree
    streams := #[.source input, .sink [], .sink []]
    descriptors := [(0, 0), (1, 1), (2, 2)] }

/-- What has been written to a stream. -/
def written (t : Task) (id : Nat) : Bytes :=
  match t.streams[id]? with
  | some (.sink chunks) => chunks.reverse.flatten
  | _ => []

/-- What has not been read from a stream. -/
def unread (t : Task) (id : Nat) : Bytes :=
  match t.streams[id]? with
  | some (.source rest) => rest
  | _ => []

end Task

/-- The number of unread bytes that a pipe holds. -/
def pipeCapacity : Nat := 65536

/-- What a program has done that was started with an input. It is taken to end when it has been
handed as much of the input as the pipe holds; a rest is refused. -/
def Child.ofTask (t : Task) (status : ExitStatus) : Child where
  handed := if (t.unread 0).length ≤ pipeCapacity then .ok () else .error (.os .brokenPipe)
  output := t.written 1
  complaint := t.written 2
  status := .ok status

end SweepPlot
