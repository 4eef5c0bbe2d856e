import SweepPlot.Shell.Expansion
import SweepPlot.Shell.Reader.Chars

/-!
# Redirections

A redirection changes what the number of an open file stands for. `redirecting` does something with
such changes and takes them back afterwards. A file that cannot be opened is complained about, and
nothing is done then.
-/

namespace SweepPlot.Shell

/-- What a redirection asks for, its words expanded. -/
inductive Redirect
  | file (fd : Nat) (mode : OpenMode) (path : Word)
  | copy (fd source : Nat)
  | close (fd : Nat)
  | text (fd : Nat) (content : Word)

/-- What a redirection asks for. -/
def Redirect.ofRedirection (capture : Capture) : Redirection → ShellM Redirect
  | .file fd mode path => do return .file fd mode (← expandText capture path)
  | .text fd number => do
    return .text fd (← expandText capture (((← get).texts.lookup number).getD []))
  | .copy fd source => do
    match ← expandText capture source with
    | ['-'] => return .close fd
    | [c] => if c.isDigit then return .copy fd (c.toNat - 48) else syntaxError "Bad fd number"
    | _ => syntaxError "Bad fd number"

/-- Complain about a file that cannot be opened. -/
def cannotOpen {α : Type} (mode : OpenMode) (path : Word) (e : OsError) : ShellM α :=
  let (verb, missing) := match mode with
    | .reading => ("open", "No such file")
    | _ => ("create", "Directory nonexistent")
  fail (word ("cannot " ++ verb ++ " ") ++ path ++ word ": " ++
    match e with
    | .notFound | .notADirectory => word missing
    | e => word e.message)

/-- Carry out a redirection. -/
def Redirect.apply : Redirect → ShellM Unit
  | .file fd mode path => do
    match ← withTask (Task.openFile mode (Text.ByteChars.toText path)) with
    | .ok id => withTask (Task.attach fd id)
    | .error e => cannotOpen mode path e
  | .copy fd source => do
    match (← get).task.descriptors.lookup source with
    | some id => withTask (Task.attach fd id)
    | none => fail (Text.Decimal.digits source ++ word ": " ++ word OsError.badDescriptor.message)
  | .close fd => withTask (Task.close fd)
  | .text fd content => do
    let id ← withTask (Task.addStream (.source (Text.ByteChars.toBytes content)))
    withTask (Task.attach fd id)

/-- Carry out redirections one after the other. The result says whether all could be. -/
def applyAll : List Redirect → ShellM Bool
  | [] => return true
  | r :: rest => fun s =>
    match r.apply s with
    | (.ok (), s) => applyAll rest s
    | (.error .failed, s) => (.ok false, s)
    | (.error stop, s) => (.error stop, s)

/-- The open files stay what they were before. -/
def keepDescriptors (before after : Session) : Session :=
  { after with task := { after.task with descriptors := before.task.descriptors } }

/-- Do something with redirections; if they cannot be carried out, the status is 2. -/
def redirecting (capture : Capture) (rs : List Redirection) (x : ShellM Nat) : ShellM Nat := do
  let redirects ← rs.mapM (Redirect.ofRedirection capture)
  restoring keepDescriptors do
    if ← applyAll redirects then x else return 2

end SweepPlot.Shell
