import SweepPlot.FileTree.Change
import SweepPlot.Process.Installed
import SweepPlot.Shell.Syntax
import SweepPlot.Text.Decimal

/-!
# Sessions of the shell

A `Session` is all that a shell knows while it runs a script: its files, its variables, where it
reads commands from, and what the last command reported. `ShellM` is work in a session that may
stop.
-/

namespace SweepPlot.Shell

/-- A word after expansion: one character for each byte. -/
abbrev Word := List Char

/-- A word that a script or a message of the shell spells out. -/
def word (s : String) : Word := Text.ByteChars.ofString s

/-- The name that a word spells. -/
def nameOf (w : Word) : String := String.ofList w

/-- Why a shell stops. -/
inductive Stop
  /-- It has been told to end. -/
  | ended
  /-- It cannot go on after an error that it has reported. -/
  | failed
  | killed (signal : Nat)
  /-- It went on for longer than is waited for. -/
  | exhausted
  deriving DecidableEq, Repr, Inhabited

/-- What becomes of the commands that follow. -/
inductive Skip
  | nothing
  /-- They are passed over to the end of so many loops. -/
  | breaking (loops : Nat)
  /-- They are passed over to the next round of a loop so many loops further out. -/
  | continuing (loops : Nat)
  /-- They are passed over to the end of the function or of the script. -/
  | returning
  deriving DecidableEq, Repr, Inhabited

/-- A text that commands are read from. -/
structure Script where
  /-- The characters that have been read and not used. -/
  rest : List Char
  /-- More of them come from the input of the shell. -/
  fromInput : Bool
  line : Nat
  deriving DecidableEq, Repr, Inhabited

/-- The smallest things that commands are made of. -/
inductive Token
  | endOfFile
  | newline
  | semicolon
  | background
  | andThen
  | orElse
  | pipe
  | openParen
  | closeParen
  | endCase
  | word
  | redirection
  | not
  | keyCase
  | keyDo
  | keyDone
  | keyElif
  | keyElse
  | keyEsac
  | keyFi
  | keyFor
  | keyIf
  | keyIn
  | keyThen
  | keyUntil
  | keyWhile
  | openBrace
  | closeBrace
  deriving DecidableEq, Repr, Inhabited

/-- A text of the script that is still to be read: it begins after the next line end and ends
before a line that equals its mark. -/
structure PendingText where
  number : Nat
  mark : Word
  /-- Tabs at the beginning of its lines are dropped. -/
  dropTabs : Bool
  /-- Nothing in it is expanded. -/
  literal : Bool
  deriving DecidableEq, Repr, Inhabited

/-- Where the reading of commands stands. -/
structure ReaderState where
  token : Token
  /-- The token is used once more. -/
  pushedBack : Bool
  /-- The parts of the last word. -/
  parts : List Part
  /-- The redirection that was read last, without its path or mark. -/
  redirection : Redirection
  pending : List PendingText
  /-- The number of texts so far. -/
  textCount : Nat

instance : Inhabited ReaderState := ⟨⟨.newline, false, [], .text 0 0, [], 0⟩⟩

/-- What a shell knows while it runs a script. -/
structure Session where
  task : Task
  /-- The name that the shell was started under. -/
  name : Word
  /-- Where commands are read from, the latest first. -/
  scripts : List Script
  reader : ReaderState
  /-- The texts of scripts that have been read, by their numbers. -/
  texts : List (Nat × List Part)
  bindings : List (String × Word)
  functions : List (String × Command)
  /-- The positional parameters. -/
  arguments : List Word
  /-- The letters of the options that are set. -/
  options : List Char
  /-- The status of the last command. -/
  status : Nat
  /-- The status of the last command whose output was used. -/
  outputStatus : Nat
  /-- The line of the command that is running. -/
  line : Nat
  /-- The name of the builtin command that is running. -/
  command : Option Word
  /-- The number of loops around the command that is running. -/
  loops : Nat
  skip : Skip

/-- Work in a session that may stop. -/
abbrev ShellM := ExceptT Stop (StateM Session)

namespace Session

/-- The number of the process of a shell. -/
def processId : Nat := 4242

/-- A shell that starts under a name with files. -/
def start (task : Task) (name : Word) : Session :=
  { task := task
    name := name
    scripts := []
    reader := default
    texts := []
    bindings :=
      [("HOME", word "/root"), ("PATH", word Installed.searched),
       ("PWD", word (Location.path task.tree.workDir))]
    functions := []
    arguments := []
    options := []
    status := 0
    outputStatus := 0
    line := 1
    command := none
    loops := 0
    skip := .nothing }

/-- Whether an option is set. -/
def has (s : Session) (option : Char) : Bool := s.options.contains option

end Session

/-! ## Files and complaints -/

/-- Work with files in a session. -/
def withTask {α : Type} (x : TaskM α) : ShellM α := fun s =>
  let (a, task) := x s.task
  (.ok a, { s with task := task })

/-- Write to the output. -/
def put (cs : List Char) : ShellM Unit := withTask (Utility.print cs)

/-- Write to the error output. -/
def complain (cs : List Char) : ShellM Unit := do
  let _ ← withTask (Task.write 2 cs)

/-- Complain under the name of the shell, the line and the builtin command that is running. -/
def warn (message : List Char) : ShellM Unit := do
  let s ← get
  let front := s.name ++ word ": " ++ Text.Decimal.digits s.line ++ word ": "
  let command := match s.command with
    | some name => name ++ word ": "
    | none => []
  complain (front ++ command ++ message ++ ['\n'])

/-- Complain about something, and stop with a status. -/
def stopWith {α : Type} (status : Nat) (stop : Stop) (message : List Char) : ShellM α := do
  warn message
  modify fun s => { s with status := status }
  throw stop

/-- Complain about an error, and stop. -/
def fail {α : Type} (message : List Char) : ShellM α := stopWith 2 .failed message

/-- Complain about an argument that is no number. -/
def badNumber {α : Type} (w : Word) : ShellM α := fail (word "Illegal number: " ++ w)

/-- Give an argument as a number. -/
def numberOf (w : Word) : ShellM Nat := do
  match Utility.number? w with
  | some n => if n ≤ 2147483647 then return n else badNumber w
  | none => badNumber w

/-! ## Control -/

/-- The number of rounds that are waited for. -/
def patience : Nat := 100000000

/-- Repeat a step until it has a result, so many times at most. -/
def repeatFor {σ α : Type} (step : σ → ShellM (σ ⊕ α)) : Nat → σ → ShellM α
  | 0, _ => throw .exhausted
  | n + 1, a => fun session =>
    match step a session with
    | (.ok (.inl b), session) => repeatFor step n b session
    | (.ok (.inr result), session) => (.ok result, session)
    | (.error stop, session) => (.error stop, session)

/-- Repeat a step until it has a result. -/
def iterate {σ α : Type} (start : σ) (step : σ → ShellM (σ ⊕ α)) : ShellM α :=
  repeatFor step patience start

/-- Do something, and change the session afterwards, even if the shell stops; what it was before is
known to the change. -/
def restoring {α : Type} (restore : Session → Session → Session) (x : ShellM α) : ShellM α :=
  fun before =>
    let (result, after) := x before
    (result, restore before after)

/-! ## Variables -/

/-- Whether a character may begin a name. -/
def isNameStart (c : Char) : Bool := c.isAlpha || c == '_'

/-- Whether a character may stand in a name. -/
def isNameChar (c : Char) : Bool := c.isAlphanum || c == '_'

/-- Whether a word is a name. -/
def isName (w : Word) : Bool :=
  match w with
  | c :: cs => isNameStart c && cs.all isNameChar
  | [] => false

/-- A list of entries with the one of a name set. -/
def setEntry {α : Type} (name : String) (a : α) : List (String × α) → List (String × α)
  | [] => [(name, a)]
  | (n, b) :: rest => if n = name then (n, a) :: rest else (n, b) :: setEntry name a rest

/-- A list of entries without that of a name. -/
def dropEntry {α : Type} (name : String) (l : List (String × α)) : List (String × α) :=
  l.filter (·.1 ≠ name)

/-- Set a variable. -/
def setVariable (name : Word) (value : Word) : ShellM Unit := do
  if isName name = false then fail (name ++ word ": bad variable name")
  modify fun s => { s with bindings := setEntry (nameOf name) value s.bindings }

end SweepPlot.Shell
