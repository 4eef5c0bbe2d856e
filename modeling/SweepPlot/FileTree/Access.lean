import SweepPlot.FileTree.Walk

/-!
# Reading and changing files by path

The operations follow links at the end of a path except where they remove or create the name
itself. Each reports the fault that stopped it.
-/

namespace SweepPlot.FileTree

/-- A place where something stands, as the route asks for it. -/
def present (s : Spot) : Except IoFault Node :=
  match s.node with
  | none => .error (.os .notFound)
  | some .dir => .ok .dir
  | some node => if s.dirOnly then .error (.os .notADirectory) else .ok node

/-- What a path leads to, links followed. -/
def stat (t : FileTree) (path : String) : Except IoFault Node := do
  present (← t.locate .target path)

/-- What a name leads to, links followed, in the directory `dir` that stands at a path. -/
def statAt (t : FileTree) (path : String) (dir : Location) (name : FileName) :
    Except IoFault Node := do
  if maxPathLength < (Path.join path "").utf8ByteSize + name.byteLength then
    .error (.os .nameTooLong)
  else present (← t.walk .target maxLinks dir [.down name] false)

/-- Whether a path leads to a directory. -/
def isDir (t : FileTree) (path : String) : Bool :=
  match t.stat path with
  | .ok .dir => true
  | _ => false

/-- The location of a file or directory that is opened for reading. -/
def openRead (t : FileTree) (path : String) : Except IoFault Location := do
  let s ← t.locate .target path
  let _ ← present s
  return s.location

/-- The content of what stands at a location; a device is empty, and a directory has none to
read. -/
def readAt (t : FileTree) (loc : Location) : Except IoFault Bytes :=
  match t.lookup loc with
  | some (.file content) => .ok content
  | some (.device _) => .ok []
  | _ => .error (.os .isADirectory)

/-- The content of a file. -/
def read (t : FileTree) (path : String) : Except IoFault Bytes := do
  t.readAt (← t.openRead path)

/-- Open a file for writing: its location and the tree in which it exists, emptied if `truncate`
holds. -/
def openWrite (t : FileTree) (truncate : Bool) (path : String) :
    Except IoFault (Location × FileTree) := do
  let s ← t.locate .writing path
  if s.dirOnly then .error (.os .isADirectory)
  else match s.node with
    | none => .ok (s.location, t.set s.location (.file []))
    | some (.file _) => .ok (s.location, if truncate then t.set s.location (.file []) else t)
    | some (.device _) => .ok (s.location, t)
    | some .dir => .error (.os .isADirectory)
    | some (.link _) => .error (.os .tooManyLinks)

/-- Add bytes to what stands at a location, unless it is a device that takes none. -/
def addAt (t : FileTree) (loc : Location) (bytes : Bytes) : Except IoFault Unit × FileTree :=
  if t.lookup loc = some (.device .full) ∧ bytes ≠ [] then (.error (.os .noSpace), t)
  else (.ok (), t.append loc bytes)

/-- Give a file a content, whether it exists or not. -/
def write (t : FileTree) (path : String) (content : Bytes) : Except IoFault FileTree := do
  let (loc, t) ← t.openWrite true path
  match t.addAt loc content with
  | (.ok (), t) => .ok t
  | (.error fault, _) => .error fault

/-- Make a link whose name is still free. -/
def createLink (t : FileTree) (path target : String) : Except IoFault FileTree := do
  let s ← t.locate .name path
  match s.node with
  | none => .ok (t.set s.location (.link target))
  | some _ => .error (.os .alreadyExists)

/-- Create a directory whose name is still free. -/
def createDir (t : FileTree) (path : String) : Except IoFault (Location × FileTree) := do
  let s ← t.locate .name path
  match s.node with
  | none => .ok (s.location, t.set s.location .dir)
  | some _ => .error (.os .alreadyExists)

/-- Create the first of the directories, and before it those of the following ones that are
missing. A directory that stands already is no fault. -/
def createDirs (t : FileTree) : List String → Except IoFault Unit × FileTree
  | [] => (.error (.other "failed to create whole tree"), t)
  | path :: parents =>
    if path = "" then (.ok (), t)
    else match t.createDir path with
      | .ok (_, t) => (.ok (), t)
      | .error (.os .notFound) =>
        match t.createDirs parents with
        | (.error e, t) => (.error e, t)
        | (.ok (), t) =>
          match t.createDir path with
          | .ok (_, t) => (.ok (), t)
          | .error e => if t.isDir path then (.ok (), t) else (.error e, t)
      | .error e => if t.isDir path then (.ok (), t) else (.error e, t)

/-- Create a directory and those on the way to it. -/
def createDirAll (t : FileTree) (path : String) : Except IoFault Unit × FileTree :=
  t.createDirs (Path.ancestors path)

/-- Remove a file, or a link without what it leads to. -/
def removeFile (t : FileTree) (path : String) : Except IoFault FileTree := do
  let s ← t.locate .name path
  match ← present s with
  | .dir => .error (.os .isADirectory)
  | _ => .ok (t.remove s.location)

end SweepPlot.FileTree
