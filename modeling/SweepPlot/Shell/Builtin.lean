import SweepPlot.Shell.Expansion
import SweepPlot.Shell.Format

/-!
# Builtin commands

A builtin command is run by the shell itself. Here are those that run no other command: they write
text, work out conditions, read and set variables, and send signals.
-/

namespace SweepPlot.Shell

/-- A command that the shell runs itself, by its arguments; the result is its status. -/
abbrev Builtin := List Word → ShellM Nat

namespace Builtin

/-- Write arguments. -/
def echo : Builtin := fun args => do
  put (Format.echo args)
  return 0

/-- Fill arguments into a format. -/
def printf : Builtin := fun args => do
  match if args.head? = some ['-', '-'] then args.tail else args with
  | [] => fail (word "usage: printf format [arg ...]")
  | format :: rest =>
    let (filling, refusal) := Format.print format rest
    for complaint in filling.complaints do warn complaint
    put filling.text
    match refusal with
    | some message => fail message
    | none => return if filling.complaints = [] then 0 else 1

/-- Write the directory that paths start from. -/
def pwd : Builtin := fun _ => do
  put (word (Location.path (← get).task.tree.workDir) ++ ['\n'])
  return 0

/-! ## Conditions -/

/-- The comparison of two numbers that an operator stands for. -/
def comparison? (op : Word) : Option (Nat → Nat → Bool) :=
  match nameOf op with
  | "-eq" => some fun m n => m == n
  | "-ne" => some fun m n => m != n
  | "-lt" => some fun m n => m < n
  | "-le" => some fun m n => m ≤ n
  | "-gt" => some fun m n => n < m
  | "-ge" => some fun m n => n ≤ m
  | _ => none

/-- The answer to a question about one argument; there is none if no question has the letter. -/
def question? (t : FileTree) (letter : Char) (w : Word) : Option Bool :=
  let node : Option Node := match t.openRead (Text.ByteChars.toText w) with
    | .ok loc => t.lookup loc
    | .error _ => none
  match letter with
  | 'n' => some (w != [])
  | 'z' => some (w == [])
  | 'd' => some (node == some .dir)
  | 'e' | 'r' | 'w' => some node.isSome
  | 'f' => some (node matches some (.file _))
  | 's' => some (node matches some (.file (_ :: _)))
  | _ => none

/-- Whether the condition of some arguments holds. -/
def holds (args : List Word) : ShellM Bool := do
  let asUnary (args : List Word) : ShellM Bool := do
    match args with
    | [] => return false
    | [w] => return w ≠ []
    | [['-', letter], w] =>
      match question? (← get).task.tree letter w with
      | some answer => return answer
      | none => fail (['-', letter] ++ word ": unexpected operator")
    | [_, op] =>
      if op = ['='] ∨ (comparison? op).isSome = true then fail (op ++ word ": argument expected")
      else fail (args.headD [] ++ word ": unexpected operator")
    | w :: _ => fail (w ++ word ": unexpected operator")
  match args with
  | [a, ['='], b] => return a == b
  | [a, ['!', '='], b] => return a != b
  | ['!'] :: w :: rest =>
    match rest with
    | [['='], b] => return w != b
    | _ => return !(← asUnary (w :: rest))
  | [a, op, b] =>
    match comparison? op with
    | some compare => return compare (← numberOf a) (← numberOf b)
    | none => asUnary args
  | _ => asUnary args

/-- Work out a condition. -/
def test : Builtin := fun args => do return if ← holds args then 0 else 1

/-- Work out a condition that a bracket closes. -/
def bracket : Builtin := fun args => do
  if args.getLast? ≠ some [']'] then fail (word "missing ]")
  test args.dropLast

/-! ## Variables -/

/-- A name and the value after an equality sign, if there is one. -/
def splitAssignment (w : Word) : Word × Option Word :=
  let name := w.takeWhile (· ≠ '=')
  match w.drop name.length with
  | _ :: value => (name, some value)
  | [] => (name, none)

/-- Make variables known to programs, of which none looks at them: values may be set. -/
def exportVariables : Builtin := fun args => do
  for w in args do
    match splitAssignment w with
    | (name, some value) => setVariable name value
    | (name, none) => if isName name = false then fail (name ++ word ": bad variable name")
  return 0

/-- Forget variables or functions. -/
def unset : Builtin := fun args => do
  match args with
  | ['-', 'f'] :: names =>
    for w in names do modify fun s => { s with functions := dropEntry (nameOf w) s.functions }
    return 0
  | _ =>
    for w in args do
      if isName w = false then fail (w ++ word ": bad variable name")
      modify fun s => { s with bindings := dropEntry (nameOf w) s.bindings }
    return 0

/-- The options of the shell with their names. -/
def optionNames : List (Char × String) := [('e', "errexit"), ('u', "nounset"), ('x', "xtrace")]

/-- Set an option, or clear it. -/
def setOption (value : Bool) (letter : Char) : ShellM Unit := do
  if optionNames.all (·.1 ≠ letter) then fail (word "Illegal option -" ++ [letter])
  modify fun s =>
    let rest := s.options.filter (· ≠ letter)
    { s with options := if value then letter :: rest else rest }

/-- Set the options that arguments name. The rest of the arguments follows; it is none if the
arguments of the shell do not change. -/
def applyOptions : List Word → ShellM (Option (List Word))
  | [] => return none
  | ['-', '-'] :: rest => return some rest
  | [sign, 'o'] :: name :: rest => do
    match optionNames.find? fun (_, n) => n == nameOf name with
    | some (letter, _) => setOption (sign = '-') letter
    | none => fail (word "Illegal option -o " ++ name)
    applyOptions rest
  | (sign :: letters) :: rest => do
    if (sign ≠ '-' ∧ sign ≠ '+') ∨ letters = [] then return some ((sign :: letters) :: rest)
    for letter in letters do setOption (sign = '-') letter
    applyOptions rest
  | args => return some args

/-- Set options and arguments of the shell. -/
def set : Builtin := fun args => do
  match ← applyOptions args with
  | some arguments => modify fun s => { s with arguments := arguments }
  | none => pure ()
  return 0

/-- The number that is given as the only argument, or another one. -/
def numberOr (n : Nat) (args : List Word) : ShellM Nat :=
  match args with
  | [] => return n
  | w :: _ => numberOf w

/-- Drop the first arguments of the shell. -/
def shift : Builtin := fun args => do
  let n ← numberOr 1 args
  if (← get).arguments.length < n then fail (word "can't shift that many")
  modify fun s => { s with arguments := s.arguments.drop n }
  return 0

/-- Read a line from the input, one character at a time: its characters, and whether it has an end.
Unless backslashes are plain, one takes away the meaning of the next character. -/
def readInputLine (raw : Bool) : ShellM (Pattern × Bool) :=
  iterate (([] : Pattern), false) fun (taken, escaped) => do
    match ← withTask (Task.read 1 0) with
    | .ok [c] =>
      if escaped then return .inl (if c = '\n' then taken else taken ++ [(c, true)], false)
      else if c = '\\' ∧ raw = false then return .inl (taken, true)
      else if c = '\n' then return .inr (taken, true)
      else return .inl (taken ++ [(c, false)], false)
    | _ => return .inr (taken, false)

/-- Cut a line into so many fields; the last one is all that is left. -/
def cutFields : Nat → Pattern → List Word
  | 0, _ => []
  | n + 1, line =>
    let separates (m : Char × Bool) : Bool := isBlank m.1 && !m.2
    let line := line.dropWhile separates
    if n = 0 then [(line.reverse.dropWhile separates).reverse.map (·.1)]
    else
      let field := line.takeWhile (!separates ·)
      field.map (·.1) :: cutFields n (line.drop field.length)

/-- Read a line into variables. -/
def read : Builtin := fun args => do
  let raw : Bool := args.head? = some ['-', 'r']
  let names := if raw then args.tail else args
  if names = [] then fail (word "arg count")
  let (line, ended) ← readInputLine raw
  for (name, value) in names.zip (cutFields names.length line) do setVariable name value
  return if ended then 0 else 1

/-! ## Signals -/

/-- The signal that a word names, by its number or its name. -/
def signalOf? (w : Word) : Option Nat :=
  match Utility.number? w with
  | some n => if n ≤ 64 then some n else none
  | none => (ExitStatus.signalNames.idxOf? ("SIG" ++ nameOf (w.map Char.toUpper))).map (· + 1)

/-- The signals that end no process: those for a changed child, for going on, for urgent input and
for a changed window; zero is no signal. -/
def harmlessSignals : List Nat := [0, 17, 18, 23, 28]

/-- Send a signal to processes, of which only the shell itself is known. -/
def sendAll (signal : Nat) : List Word → ShellM Nat
  | [] => return 0
  | w :: rest => do
    let code ← if (← numberOf w) ≠ Session.processId then do
        warn (word "No such process\n")
        pure 1
      else if harmlessSignals.contains signal then pure 0
      else throw (.killed signal)
    return max code (← sendAll signal rest)

/-- Send a signal. -/
def kill : Builtin := fun args => do
  let (signal, targets) ← match args with
    | ['-', 's'] :: name :: targets =>
      match signalOf? name with
      | some n => pure (n, targets)
      | none => fail (word "invalid signal number or name: " ++ name)
    | ('-' :: name) :: targets =>
      match signalOf? name with
      | some n => pure (n, targets)
      | none => fail (word "Illegal option -" ++ name.take 1)
    | targets => pure (15, targets)
  if targets = [] then
    fail (word ("Usage: kill [-s sigspec | -signum | -sigspec] [pid | job]... or\n" ++
      "kill -l [exitstatus]"))
  sendAll signal targets

end Builtin

end SweepPlot.Shell
