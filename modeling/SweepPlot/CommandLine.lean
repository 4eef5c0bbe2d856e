import SweepPlot.Text.Split

/-!
# The command line

General options stand before the command: the run and the experiment, which are required, a
configuration file and the two root directories. The command is `plot`, `axes` or `variants`;
without one, everything is plotted. `CommandLine.parse` reads the arguments. An option that is
unknown, given twice or without its value, an empty path, a required option that is missing, and a
word out of place make the whole line refused.
-/

namespace SweepPlot

/-- What is to be done. -/
inductive Command
  /-- Plot the named variants, or all if none is named. -/
  | plot (variants : List String) (dryRun : Bool)
  /-- Print the parameters of the results and their values. -/
  | axes
  | variants
  deriving DecidableEq, Repr, Inhabited

/-- A complete command line. -/
structure Invocation where
  runId : String
  experiment : String
  config : Option String
  resultsDir : Option String
  plotsDir : Option String
  command : Command
  deriving DecidableEq, Repr, Inhabited

/-- What a command line asks for. -/
inductive Request
  | invoke (invocation : Invocation)
  | version
  | help
  deriving DecidableEq, Repr, Inhabited

namespace CommandLine

/-- A general option. -/
inductive GeneralOption
  /-- `--run-id`, also `--commit`. -/
  | runId
  | experiment
  /-- `--config`, also `-c`. -/
  | config
  | resultsDir
  | plotsDir
  deriving DecidableEq, Repr

/-- The general option with a long name. -/
def generalOption? : String → Option GeneralOption
  | "run-id" | "commit" => some .runId
  | "experiment" => some .experiment
  | "config" => some .config
  | "results-dir" => some .resultsDir
  | "plots-dir" => some .plotsDir
  | _ => none

/-- The general options given so far. -/
structure General where
  runId : Option String
  experiment : Option String
  config : Option String
  resultsDir : Option String
  plotsDir : Option String
  deriving DecidableEq, Repr

namespace General

/-- No option is given. -/
def none : General := ⟨.none, .none, .none, .none, .none⟩

/-- The value of an option that may be given once. -/
def once (old : Option String) (value : String) : Option (Option String) :=
  if old.isSome then .none else some (some value)

/-- The value of an option that names a path and may be given once. -/
def oncePath (old : Option String) (value : String) : Option (Option String) :=
  if value = "" then .none else once old value

/-- The options with one more, which must be new. A path must not be empty. -/
def set (g : General) (o : GeneralOption) (value : String) : Option General :=
  match o with
  | .runId => (once g.runId value).map fun v => { g with runId := v }
  | .experiment => (once g.experiment value).map fun v => { g with experiment := v }
  | .config => (oncePath g.config value).map fun v => { g with config := v }
  | .resultsDir => (oncePath g.resultsDir value).map fun v => { g with resultsDir := v }
  | .plotsDir => (oncePath g.plotsDir value).map fun v => { g with plotsDir := v }

/-- The invocation with the options and a command, if the required options are given. -/
def finish (g : General) (command : Command) : Option Request := do
  return .invoke ⟨← g.runId, ← g.experiment, g.config, g.resultsDir, g.plotsDir, command⟩

end General

/-- What kind of word an argument is. -/
inductive Word
  /-- `--name` or `--name=value`. -/
  | long (name : String) (value : Option String)
  /-- A letter after one dash, and what follows it. -/
  | short (letter : Char) (rest : String)
  /-- Two dashes, after which no options stand. -/
  | escape
  /-- Anything else. -/
  | plain (text : String)
  deriving DecidableEq, Repr

namespace Word

/-- The kind of an argument. -/
def ofArgument (arg : String) : Word :=
  match arg.toList with
  | ['-', '-'] => .escape
  | '-' :: '-' :: rest =>
    let body := String.ofList rest
    match Text.splitOnce '=' body with
    | some (name, value) => .long name (some value)
    | none => .long body none
  | '-' :: c :: rest => .short c (String.ofList rest)
  | _ => .plain arg

/-- The value written in one word with a letter, if there is one. -/
def attached? (rest : String) : Option String :=
  match rest.toList with
  | [] => none
  | '=' :: value => some (String.ofList value)
  | _ => some rest

/-- Whether an argument can be the value of an option before it. -/
def isValue (arg : String) : Bool :=
  match arg.toList with
  | '-' :: _ :: _ => false
  | _ => true

end Word

/-- Read the arguments of `help`, which may name a command. -/
def readHelp : List String → Option Request
  | [] => some .help
  | [name] => if ["plot", "axes", "variants", "help"].contains name then some .help else none
  | _ => none

/-- Read the arguments of a command without options. -/
def readBare (g : General) (command : Command) : List String → Option Request
  | [] => g.finish command
  | arg :: rest =>
    match Word.ofArgument arg with
    | .long "help" none => some .help
    | .short 'h' _ => some .help
    | .escape => if rest = [] then g.finish command else none
    | _ => none

/-- Read the arguments of `plot`; `pending` says that the value of `--variant` comes next. -/
def readPlot (g : General) (variants : List String) (dryRun pending : Bool) :
    List String → Option Request
  | [] => if pending then none else g.finish (.plot variants dryRun)
  | arg :: rest =>
    if pending then
      if Word.isValue arg then readPlot g (variants ++ [arg]) dryRun false rest else none
    else
      match Word.ofArgument arg with
      | .long "help" none => some .help
      | .short 'h' _ => some .help
      | .long "dry-run" none => if dryRun then none else readPlot g variants true false rest
      | .long "variant" (some value) => readPlot g (variants ++ [value]) dryRun false rest
      | .long "variant" none => readPlot g variants dryRun true rest
      | .short 'v' attached =>
        match Word.attached? attached with
        | some value => readPlot g (variants ++ [value]) dryRun false rest
        | none => readPlot g variants dryRun true rest
      | .escape => if rest = [] then g.finish (.plot variants dryRun) else none
      | _ => none

/-- Read general options and then the command; `pending` is the option whose value comes next. -/
def readGeneral (g : General) (pending : Option GeneralOption) : List String → Option Request
  | [] => if pending.isSome then none else g.finish (.plot [] false)
  | arg :: rest =>
    match pending with
    | some o =>
      if Word.isValue arg then
        match g.set o arg with
        | some g => readGeneral g none rest
        | none => none
      else none
    | none =>
      match Word.ofArgument arg with
      | .long "help" none => some .help
      | .long "version" none => some .version
      | .short 'h' _ => some .help
      | .short 'V' _ => some .version
      | .long name value =>
        match generalOption? name, value with
        | some o, some value =>
          match g.set o value with
          | some g => readGeneral g none rest
          | none => none
        | some o, none => readGeneral g (some o) rest
        | none, _ => none
      | .short 'c' attached =>
        match Word.attached? attached with
        | some value =>
          match g.set .config value with
          | some g => readGeneral g none rest
          | none => none
        | none => readGeneral g (some .config) rest
      | .short _ _ => none
      | .escape => if rest = [] then g.finish (.plot [] false) else none
      | .plain "plot" => readPlot g [] false false rest
      | .plain "axes" => readBare g .axes rest
      | .plain "variants" => readBare g .variants rest
      | .plain "help" => readHelp rest
      | .plain _ => none

/-- What the arguments ask for; nothing if they are refused. -/
def parse (args : List String) : Option Request := readGeneral .none none args

end CommandLine

end SweepPlot
