/-!
# Faults of the file system and of reading

`OsError` lists the errors that the operating system can report here, with number, kind and
wording. `IoFault` adds the faults that arise without a report of the system.
-/

namespace SweepPlot

/-- An error reported by the operating system. -/
inductive OsError
  | notFound
  | badDescriptor
  | permissionDenied
  | alreadyExists
  | notADirectory
  | isADirectory
  | fileTooLarge
  | noSpace
  | brokenPipe
  | nameTooLong
  | tooManyLinks
  deriving DecidableEq, Repr, Inhabited

namespace OsError

/-- The number of the error. -/
def code : OsError → Nat
  | notFound => 2
  | badDescriptor => 9
  | permissionDenied => 13
  | alreadyExists => 17
  | notADirectory => 20
  | isADirectory => 21
  | fileTooLarge => 27
  | noSpace => 28
  | brokenPipe => 32
  | nameTooLong => 36
  | tooManyLinks => 40

/-- The wording of the error. -/
def message : OsError → String
  | notFound => "No such file or directory"
  | badDescriptor => "Bad file descriptor"
  | permissionDenied => "Permission denied"
  | alreadyExists => "File exists"
  | notADirectory => "Not a directory"
  | isADirectory => "Is a directory"
  | fileTooLarge => "File too large"
  | noSpace => "No space left on device"
  | brokenPipe => "Broken pipe"
  | nameTooLong => "File name too long"
  | tooManyLinks => "Too many levels of symbolic links"

/-- The kind of the error. -/
def kind : OsError → String
  | notFound => "NotFound"
  | badDescriptor => "Uncategorized"
  | permissionDenied => "PermissionDenied"
  | alreadyExists => "AlreadyExists"
  | notADirectory => "NotADirectory"
  | isADirectory => "IsADirectory"
  | fileTooLarge => "FileTooLarge"
  | noSpace => "StorageFull"
  | brokenPipe => "BrokenPipe"
  | nameTooLong => "InvalidFilename"
  | tooManyLinks => "FilesystemLoop"

end OsError

/-- A fault of an input or output operation. -/
inductive IoFault
  | os (e : OsError)
  | notUtf8
  | nulInPath
  | nulInProgram
  /-- A fault that names the path it arose at. -/
  | atPath (path : String) (fault : IoFault)
  /-- A fault of some other origin, with its own wording. -/
  | other (text : String)
  deriving DecidableEq, Repr, Inhabited

end SweepPlot
