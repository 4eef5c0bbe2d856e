import SweepPlot.Extraction

/-!
# The journal of a run

A run records what it does: the lines it prints, the log messages it gives, the calls it makes to
the extractor and to the renderer, each with the files as they were at that moment, and the steps
that fail.
-/

namespace SweepPlot

/-- How important a log message is. -/
inductive LogLevel
  | error
  | warn
  | info
  | debug
  | trace
  deriving DecidableEq, Repr, Inhabited

namespace LogLevel

/-- How much detail a level stands for. -/
def rank : LogLevel → Nat
  | error => 1
  | warn => 2
  | info => 3
  | debug => 4
  | trace => 5

/-- The level as it stands in a log line. -/
def display : LogLevel → String
  | error => "ERROR"
  | warn => "WARN"
  | info => "INFO"
  | debug => "DEBUG"
  | trace => "TRACE"

end LogLevel

/-- The part of the program that gives a log message. -/
inductive LogSource
  | command
  | plotting
  | discovery
  | extraction
  deriving DecidableEq, Repr, Inhabited

namespace LogSource

/-- The name of a part, by which log messages are filtered. -/
def path : LogSource → String
  | command => "benchplot"
  | plotting => "benchplot::driver"
  | discovery => "benchplot::selector"
  | extraction => "benchplot::extract"

end LogSource

/-- A log message. -/
structure LogEntry where
  level : LogLevel
  source : LogSource
  message : String
  deriving DecidableEq, Repr, Inhabited

/-- Something that a run does. -/
inductive Event
  | log (entry : LogEntry)
  | print (line : String)
  /-- The extractor is called while the files are as in `tree`. -/
  | extracting (source tag dest : String) (mode : WriteMode) (tree : FileTree)
  /-- The renderer is called while the files are as in `tree`. -/
  | rendering (script output : String) (tree : FileTree)
  /-- A step that changes files fails. -/
  | failed (cause : Failure)
  deriving DecidableEq, Repr

/-- Whether an event is a call of the renderer. -/
def Event.isRendering : Event → Bool
  | .rendering .. => true
  | _ => false

/-- The files and what has happened so far. -/
structure RunState where
  tree : FileTree
  /-- What has happened, the earliest first. -/
  journal : List Event
  deriving DecidableEq, Repr

/-- An activity that changes files, records what it does, and may fail; what it did before it
failed stays. -/
abbrev RunM := ExceptT Failure (StateM RunState)

namespace RunM

/-- Record an event. -/
def record (e : Event) : RunM Unit :=
  modify fun s => { s with journal := s.journal ++ [e] }

/-- Give a log message. -/
def log (level : LogLevel) (source : LogSource) (message : String) : RunM Unit :=
  record (.log ⟨level, source, message⟩)

/-- Print a line. -/
def print (line : String) : RunM Unit := record (.print line)

/-- Change the files by an operation; if it fails, that is recorded and ends the activity. -/
def changing {α : Type} (op : FileTree → Except Failure α × FileTree) : RunM α := fun s =>
  match op s.tree with
  | (.ok a, tree) => (.ok a, { s with tree := tree })
  | (.error e, tree) => (.error e, { tree := tree, journal := s.journal ++ [.failed e] })

/-- Run an activity and remove a location afterwards, however the activity ended. -/
def thenRemoving {α : Type} (loc : Location) (activity : RunM α) : RunM α := fun s =>
  let (result, s) := activity s
  (result, { s with tree := s.tree.remove loc })

end RunM

end SweepPlot
