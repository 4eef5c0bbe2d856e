import SweepPlot.FileTree.Walk

/-!
# The files of the system

Around the files of a run there are the directories of the system, its devices and the installed
programs. `FileTree.systemNodes` lists them.
-/

namespace SweepPlot.FileTree

/-- The location of an absolute path without links. -/
def locationOf (path : String) : Location :=
  (Route.ofPath path).steps.filterMap fun
    | .down name => some name
    | _ => none

/-- The directories of the system. -/
def systemDirs : List String :=
  ["/boot", "/dev", "/dev/shm", "/etc", "/home", "/media", "/mnt", "/opt", "/proc", "/proc/self",
   "/proc/self/fd", "/root", "/run", "/srv", "/sys", "/tmp", "/usr", "/usr/bin", "/usr/games",
   "/usr/include", "/usr/lib", "/usr/local", "/usr/local/bin", "/usr/local/lib",
   "/usr/local/sbin", "/usr/sbin", "/usr/share", "/usr/src", "/var", "/var/lib", "/var/log",
   "/var/tmp"]

/-- The links of the system: each leads to a path. -/
def systemLinks : List (String × String) :=
  [("/bin", "usr/bin"), ("/lib", "usr/lib"), ("/sbin", "usr/sbin"), ("/dev/fd", "/proc/self/fd"),
   ("/dev/stdin", "/proc/self/fd/0"), ("/dev/stdout", "/proc/self/fd/1"),
   ("/dev/stderr", "/proc/self/fd/2"), ("/usr/bin/sh", "dash"), ("/var/run", "/run")]

/-- The devices of the system. -/
def systemDevices : List (String × Device) :=
  [("/dev/null", .null), ("/dev/full", .full), ("/proc/self/fd/0", .descriptor 0),
   ("/proc/self/fd/1", .descriptor 1), ("/proc/self/fd/2", .descriptor 2)]

/-- The directories that programs stand in. -/
def programDirs : List Location :=
  ["/usr/bin", "/bin", "/usr/sbin", "/sbin", "/usr/local/bin", "/usr/local/sbin"].map locationOf

/-- The first bytes of a program, which are no text. -/
def programBytes : Bytes := [0x7f, 0x45, 0x4c, 0x46, 0x02, 0x01, 0x01, 0x00, 0xff]

/-- The nodes of the system with the programs of some names. -/
def systemNodes (programs : List String) : List (Location × Node) :=
  systemDirs.map (fun path => (locationOf path, .dir)) ++
    systemLinks.map (fun (path, target) => (locationOf path, .link target)) ++
    systemDevices.map (fun (path, d) => (locationOf path, .device d)) ++
    [(locationOf "/etc/passwd",
      .file (Text.Utf8.encode "root:x:0:0:root:/root:/bin/bash\n"))] ++
    programs.map fun name => (locationOf ("/usr/bin/" ++ name), .file programBytes)

/-- The name of the program that stands at a location: that of a file in a directory of programs. -/
def programAt? (t : FileTree) (loc : Location) : Option String :=
  match loc.getLast?, t.lookup loc with
  | some (.text name), some (.file _) =>
    if programDirs.contains loc.dropLast then some name else none
  | _, _ => none

end SweepPlot.FileTree
