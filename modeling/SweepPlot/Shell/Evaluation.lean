import SweepPlot.Shell.Builtin
import SweepPlot.Shell.Reader.Commands
import SweepPlot.Shell.Redirect

/-!
# Running commands

`Evaluator.run` runs a command. Commands hold commands, words hold commands, and a command may be
the name of a function, so it is given what runs the commands nested in it (an `Evaluator`), and
`evaluator` closes the circle for nesting up to a depth. `ofInput` is a shell that reads its
commands from its input. A script does not start another shell.

A command is tested if its failure is expected, as that of a condition: it does not end a shell
that ends at failures. The status of the last command is kept in the session.
-/

namespace SweepPlot.Shell

/-- The commands of a sequence before others. -/
def Command.steps (c : Command) (rest : List Command) : List Command :=
  match c with
  | .sequence a b => a.steps (b :: rest)
  | c => c :: rest

/-- What runs the commands that are nested in a command. -/
structure Evaluator where
  /-- Run a command, which is tested or not. -/
  command : Bool → Command → ShellM Nat

namespace Evaluator

/-! ## Scripts -/

/-- Read commands from a script and run them, up to one that skips what follows. -/
def script (e : Evaluator) (tested : Bool) (source : Script) : ShellM Nat :=
  withScript source do
    iterate 0 fun status => do
      match ← readLine with
      | (none, atEnd) => return if atEnd then .inr status else .inl status
      | (some c, _) =>
        let status ← e.command tested c
        return if (← get).skip = .nothing then .inl status else .inr status

/-- Do something as all that a shell does. The result is the status that it ends with. -/
def asShell (x : ShellM Nat) : ShellM Nat := fun s =>
  match x s with
  | (.error .ended, s) | (.error .failed, s) => (.ok s.status, s)
  | result => result

/-- Of what a shell of its own does only the files remain. -/
def keepFiles (before after : Session) : Session :=
  { before with task := { before.task with
      tree := after.task.tree, streams := after.task.streams } }

/-- Do something in a shell of its own; the result is its status. -/
def inSubshell (x : ShellM Nat) : ShellM Nat :=
  restoring keepFiles do return (← asShell x) % 256

/-- The output of a command. -/
def capture (e : Evaluator) : Capture
  | none => return []
  | some c => do
    let id ← withTask (Task.addStream (.sink []))
    let status ← inSubshell do
      withTask (Task.attach 1 id)
      e.command false c
    modify fun s => { s with outputStatus := status }
    return (Text.ByteChars.ofBytes ((← get).task.written id)).filter (· ≠ '\x00')

/-! ## Programs -/

/-- Run a program with arguments: its status, or else a status and a complaint. -/
def external (name : Word) (args : List Word) : ShellM (Except (Nat × Word) Nat) := do
  let s ← get
  let searched := (s.bindings.lookup "PATH").getD []
  match Installed.find s.task.tree searched name with
  | .ok (.utility u) =>
    restoring keepFiles do return .ok ((← withTask (u name args)) % 256)
  | .ok .shell => return .error (126, name ++ word ": Permission denied")
  | .error e =>
    let status := if e = .permissionDenied ∧ name.contains '/' = true then 126 else 127
    let reason := if e = .notFound ∨ e = .notADirectory then "not found" else e.message
    return .error (status, name ++ word (": " ++ reason))

/-! ## Builtin commands that run commands, or skip them -/

/-- Run arguments as commands. -/
def eval (e : Evaluator) (tested : Bool) (args : List Word) : ShellM Nat :=
  if args = [] then return 0 else e.script tested ⟨[' '].intercalate args, false, 1⟩

/-- Put a program in the place of the shell. -/
def exec : Builtin := fun args => do
  match args with
  | [] => return 0
  | name :: args =>
    match ← external name args with
    | .error (status, message) => stopWith status .ended message
    | .ok status =>
      modify fun s => { s with status := status }
      throw .ended

/-- End the shell. -/
def exit : Builtin := fun args => do
  let status ← Builtin.numberOr (← get).status args
  modify fun s => { s with status := status }
  throw .ended

/-- Skip the rest of a function or script. -/
def leave : Builtin := fun args => do
  let status ← Builtin.numberOr (← get).status args
  modify fun s => { s with skip := .returning }
  return status

/-- Skip the rest of loops. -/
def skipLoops (skip : Nat → Skip) : Builtin := fun args => do
  let n ← Builtin.numberOr 1 args
  if n = 0 then badNumber ['0']
  let loops := (← get).loops
  if 0 < loops then modify fun s => { s with skip := skip (min n loops) }
  return 0

/-- A builtin command by its name and whether it is tested. -/
def builtin? (e : Evaluator) (tested : Bool) (name : String) : Option Builtin :=
  match name with
  | ":" | "true" | "wait" => some fun _ => return 0
  | "false" => some fun _ => return 1
  | "[" => some Builtin.bracket
  | "break" => some (skipLoops .breaking)
  | "continue" => some (skipLoops .continuing)
  | "echo" => some Builtin.echo
  | "eval" => some (e.eval tested)
  | "exec" => some exec
  | "exit" => some exit
  | "export" => some Builtin.exportVariables
  | "kill" => some Builtin.kill
  | "printf" => some Builtin.printf
  | "pwd" => some Builtin.pwd
  | "read" => some Builtin.read
  | "return" => some leave
  | "set" => some Builtin.set
  | "shift" => some Builtin.shift
  | "test" => some Builtin.test
  | "unset" => some Builtin.unset
  | _ => none

/-- Run a builtin command under its name. An error stops the shell only if the command is
special. -/
def runBuiltin (special : Bool) (name : Word) (x : ShellM Nat) : ShellM Nat := fun before =>
  let named : ShellM Nat :=
    restoring (fun before after => { after with command := before.command }) do
      modify fun s => { s with command := some name }
      x
  match named before with
  | (.error .failed, s) => if special then (.error .failed, s) else (.ok s.status, s)
  | result => result

/-! ## Simple commands -/

/-- The words of a command. Those after `export` are not cut where they look like an assignment. -/
def commandWords (capture : Capture) : List (List Part) → ShellM (List Word)
  | [] => return []
  | parts :: rest => do
    let declared (parts : List Part) : ShellM (List Word) := do
      match Readers.assignment? parts with
      | some (name, value) => return [word name ++ ['='] ++ (← expandText capture value)]
      | none => expandFields capture parts
    match ← expandFields capture parts with
    | [] => commandWords capture rest
    | here =>
      if here.head? = some (word "export") then return here ++ (← rest.mapM declared).flatten
      else return here ++ (← expandWords capture rest)

/-- What the first word of a command names. -/
inductive Callee
  /-- There are no words. -/
  | nothing
  | function (body : Command)
  | builtin (run : Builtin) (special : Bool)
  | program

/-- What the words of a command name. -/
def callee (e : Evaluator) (tested : Bool) (words : List Word) : ShellM Callee := do
  match words with
  | [] => return .nothing
  | w :: _ =>
    let name := nameOf w
    match (← get).functions.lookup name, e.builtin? tested name with
    | some body, _ => return .function body
    | none, some run => return .builtin run (Readers.specialNames.contains name)
    | none, none => return .program

/-- Show a command before it is run. -/
def trace (assignments : List (String × Word)) (words : List Word) : ShellM Unit := do
  if (← get).has 'x' then
    let shown := assignments.map (fun (name, value) => word name ++ ['='] ++ value) ++ words
    complain (word "+ " ++ [' '].intercalate shown ++ ['\n'])

/-- Variables get the values that they had before a command again. -/
def restoreVariables (names : List String) (before after : Session) : Session :=
  names.foldl (fun s name =>
    match before.bindings.lookup name with
    | some value => { s with bindings := setEntry name value s.bindings }
    | none => { s with bindings := dropEntry name s.bindings }) after

/-- Carry out assignments one after the other: the values. -/
def assign (capture : Capture) : List (String × List Part) → ShellM (List (String × Word))
  | [] => return []
  | (name, parts) :: rest => do
    let value ← expandText capture parts
    setVariable (word name) value
    return (name, value) :: (← assign capture rest)

/-- Run a function with arguments. -/
def function (e : Evaluator) (tested : Bool) (body : Command) (args : List Word) : ShellM Nat :=
  restoring (fun before after =>
      { after with arguments := before.arguments, loops := before.loops }) do
    modify fun s => { s with arguments := args, loops := 0 }
    let status ← e.command tested body
    modify fun s => { s with skip := if s.skip = .returning then .nothing else s.skip }
    return status

/-- Run what a command names. -/
def call (e : Evaluator) (tested : Bool) (c : Callee) (words : List Word) : ShellM Nat := do
  let name := words.headD []
  match c with
  | .nothing => return (← get).outputStatus
  | .function body => e.function tested body words.tail
  | .builtin run special => runBuiltin special name (run words.tail)
  | .program =>
    match ← external name words.tail with
    | .ok status => return status
    | .error (status, message) =>
      warn message
      return status

/-- Run a simple command. Assignments before a special builtin command, or before nothing, stay; the
redirections of an `exec` without a program do, too. -/
def simple (e : Evaluator) (tested : Bool) (line : Nat) (assignments : List (String × List Part))
    (words : List (List Part)) (rs : List Redirection) : ShellM Nat := do
  modify fun s => { s with line := line, outputStatus := 0 }
  let words ← commandWords e.capture words
  let callee ← e.callee tested words
  let special : Bool := match callee with
    | .nothing => true
    | .builtin _ special => special
    | _ => false
  let redirects ← rs.mapM (Redirect.ofRedirection e.capture)
  let body : ShellM Nat := do
    if ← applyAll redirects then
      let values ← assign e.capture assignments
      trace values words
      e.call tested callee words
    else if special ∧ words ≠ [] then
      modify fun s => { s with status := 2 }
      throw .failed
    else return 2
  let body := if words = [word "exec"] then body else restoring keepDescriptors body
  if special then body else restoring (restoreVariables (assignments.map (·.1))) body

/-! ## Compound commands -/

/-- Commands in their order, of which the last one runs in this shell only if nothing skips it. -/
def all (e : Evaluator) (tested : Bool) (status : Nat) : List Command → ShellM Nat
  | [] => return status
  | c :: rest => do
    let status ← e.command tested c
    if (← get).skip ≠ .nothing then return status
    e.all tested status rest

/-- Run a command if there is one. -/
def optional (e : Evaluator) (tested : Bool) : Option Command → ShellM Nat
  | none => return 0
  | some c => e.command tested c

/-- A round of a loop ends: what is skipped now, as seen from the loop. -/
def endRound : ShellM Skip := do
  let s ← get
  match s.skip with
  | .breaking n =>
    set { s with skip := if n ≤ 1 then .nothing else .breaking (n - 1) }
    return .breaking n
  | .continuing n =>
    if n ≤ 1 then
      set { s with skip := .nothing }
      return .continuing n
    else
      set { s with skip := .continuing (n - 1) }
      return .breaking n
  | skip => return skip

/-- Do something inside a loop. -/
def inLoop (x : ShellM Nat) : ShellM Nat := do
  modify fun s => { s with loops := s.loops + 1 }
  restoring (fun before after => { after with loops := before.loops - 1 }) x

/-- Run a command again and again as long as another one succeeds, or fails. -/
def loop (e : Evaluator) (tested untilSuccess : Bool) (test body : Option Command) : ShellM Nat :=
  inLoop (iterate 0 fun status => do
    let condition ← e.optional true test
    match ← endRound with
    | .returning => return .inr condition
    | .breaking _ => return .inr status
    | .continuing _ => return .inl status
    | .nothing =>
      if (condition = 0) = (untilSuccess = true) then return .inr status
      let status ← e.optional tested body
      match ← endRound with
      | .nothing | .continuing _ => return .inl status
      | _ => return .inr status)

/-- Run a command for each of some words. -/
def each (e : Evaluator) (tested : Bool) (name : String) (body : Option Command) (status : Nat) :
    List Word → ShellM Nat
  | [] => return status
  | w :: rest => do
    setVariable (word name) w
    let status ← e.optional tested body
    match ← endRound with
    | .nothing | .continuing _ => e.each tested name body status rest
    | _ => return status

/-- Run the first command of which a pattern fits a text. -/
def choice (e : Evaluator) (tested : Bool) (text : Word) :
    List (List (List Part) × Option Command) → ShellM Nat
  | [] => return 0
  | (patterns, body) :: rest => do
    let patterns ← patterns.mapM (expandPattern e.capture)
    if patterns.any (·.fits text) then e.optional tested body else e.choice tested text rest

/-- Run commands of which each reads what the one before it has written. -/
def stages (e : Evaluator) (input : Option Nat) : List Command → ShellM Nat
  | [] => return 0
  | c :: rest => do
    let output ← if rest.isEmpty then pure none
      else some <$> withTask (Task.addStream (.sink []))
    let attach (fd : Nat) (id : Option Nat) : ShellM Unit :=
      match id with
      | some id => withTask (Task.attach fd id)
      | none => return ()
    let status ← inSubshell do
      attach 0 input
      attach 1 output
      e.command false c
    match output with
    | none => return status
    | some id =>
      let bytes := (← get).task.written id
      let next ← withTask (Task.addStream (.source bytes))
      e.stages (some next) rest

/-- Run a command that is not waited for: it has nothing to read. -/
def inBackground (e : Evaluator) (c : Command) : ShellM Nat := do
  let _ ← inSubshell do
    let nothing ← withTask (Task.addStream (.source []))
    withTask (Task.attach 0 nothing)
    e.command false c
  return 0

/-- Run a command; the second part says that its failure may end the shell. -/
def body (e : Evaluator) (tested : Bool) (c : Command) : ShellM (Nat × Bool) := do
  match c with
  | .simple line assignments words rs => return (← e.simple tested line assignments words rs, true)
  | .pipeline cs => return (← e.stages none cs, true)
  | .negation c => return (if (← e.command true c) = 0 then 1 else 0, false)
  | .and a b =>
    let status ← e.command true a
    if status ≠ 0 ∨ (← get).skip ≠ .nothing then return (status, false)
    return (← e.command tested b, false)
  | .or a b =>
    let status ← e.command true a
    if status = 0 ∨ (← get).skip ≠ .nothing then return (status, false)
    return (← e.command tested b, false)
  | .sequence a b => return (← e.all tested 0 (a.steps [b]), false)
  | .background c => return (← e.inBackground c, false)
  | .subshell line c rs =>
    modify fun s => { s with line := line }
    return (← inSubshell (redirecting e.capture rs (e.optional tested c)), true)
  | .redirected line c rs =>
    modify fun s => { s with line := line }
    return (← redirecting e.capture rs (e.optional tested c), false)
  | .conditional test yes no =>
    let status ← e.optional true test
    if (← get).skip ≠ .nothing then return (status, false)
    return (← e.optional tested (if status = 0 then yes else no), false)
  | .loop untilSuccess test c => return (← e.loop tested untilSuccess test c, false)
  | .each line name words c =>
    modify fun s => { s with line := line }
    let words ← expandWords e.capture words
    return (← inLoop (e.each tested name c 0 words), false)
  | .choice line subject cases =>
    modify fun s => { s with line := line }
    return (← e.choice tested (← expandText e.capture subject) cases, false)
  | .function name c =>
    modify fun s => { s with functions := setEntry name c s.functions }
    return (0, false)

/-- Run a command. -/
def run (e : Evaluator) (tested : Bool) (c : Command) : ShellM Nat := do
  let (status, mayEnd) ← e.body tested c
  modify fun s => { s with status := status }
  if mayEnd ∧ tested = false ∧ status ≠ 0 ∧ (← get).has 'e' = true then throw .ended
  return status

end Evaluator

/-- What runs commands that are nested up to a depth. -/
def evaluator : Nat → Evaluator
  | 0 => ⟨fun _ _ => throw .exhausted⟩
  | n + 1 => ⟨fun tested c s => (evaluator n).run tested c s⟩

/-- How deep the commands that run are nested at most. -/
def maxRunning : Nat := 1000

/-- What a shell does that is started under a name and reads commands from its input. -/
def ofInput (tree : FileTree) (name : Word) (input : Bytes) : Child :=
  let commands : ShellM Nat := (evaluator maxRunning).script false ⟨[], true, 1⟩
  let (result, s) := Evaluator.asShell commands (Session.start (Task.start tree input) name)
  Child.ofTask s.task (match result with
    | .ok n => .code (n % 256)
    | .error (.killed n) => .signal n
    | .error _ => .signal 9)

end SweepPlot.Shell
