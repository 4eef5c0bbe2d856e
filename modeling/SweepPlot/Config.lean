import SweepPlot.FileTree.Access
import SweepPlot.Text.Literal
import SweepPlot.Toml.Document

/-!
# Configuration

The configuration names the directories, the plotting program and the form of the log. Every field
has a default. `Config.ofEntries` reads it from the tables of a document: keys that no section
knows and values of another type are faults, and the first fault in the order of the document is
reported.
-/

namespace SweepPlot

/-- The form of log lines. -/
inductive LogFormat
  /-- A line of words. -/
  | pretty
  /-- The same line as `pretty`. -/
  | compact
  /-- An object of named texts. -/
  | json
  deriving DecidableEq, Repr, Inhabited

/-- The root directories. -/
structure PathsConfig where
  resultsDir : String
  plotsDir : String
  deriving DecidableEq, Repr, Inhabited

/-- How plots are drawn. -/
structure RenderConfig where
  program : String
  deriving DecidableEq, Repr, Inhabited

/-- What is logged and how. -/
structure LoggingConfig where
  /-- Which messages are logged. -/
  level : String
  format : LogFormat
  /-- Log lines start with the time. -/
  timestamps : Bool
  /-- Log lines name the part of the program. -/
  target : Bool
  deriving DecidableEq, Repr, Inhabited

/-- The configuration. -/
structure Config where
  paths : PathsConfig
  render : RenderConfig
  logging : LoggingConfig
  deriving DecidableEq, Repr, Inhabited

/-- What is wrong with a value of a configuration document. -/
inductive ConfigFault
  /-- A key that is not one of those expected. -/
  | unknownField (name : String) (expected : List String)
  /-- A word that is not one of those expected. -/
  | unknownVariant (name : String) (expected : List String)
  | invalidType (found expected : String)
  /-- A value that names no choice at all. -/
  | noChoice
  deriving DecidableEq, Repr, Inhabited

namespace ConfigFault

/-- A name between grave accents. -/
def name (s : String) : String := "\x60" ++ s ++ "\x60"

/-- The names expected, as a message lists them. -/
def expectation : List String → String
  | [] => "there are no fields"
  | [a] => "expected " ++ name a
  | [a, b] => "expected " ++ name a ++ " or " ++ name b
  | names => "expected one of " ++ ", ".intercalate (names.map name)

/-- The wording of a fault, for those that have one. -/
def message? : ConfigFault → Option String
  | .unknownField field expected =>
    some ("unknown field " ++ name field ++ ", " ++ expectation expected)
  | .unknownVariant variant expected =>
    some ("unknown variant " ++ name variant ++ ", " ++ expectation expected)
  | .invalidType found expected =>
    some ("invalid type: " ++ found ++ ", expected " ++ expected)
  | .noChoice => none

end ConfigFault

/-- Why there is no configuration. -/
inductive ConfigError
  | io (fault : IoFault)
  | notADocument
  /-- The document says something that the configuration does not know. -/
  | fault (fault : ConfigFault)
  deriving DecidableEq, Repr, Inhabited

namespace Config

open Toml

/-- The directories unless others are named. -/
def defaultPaths : PathsConfig := ⟨"results", "plots"⟩

/-- The plotting program unless another one is named. -/
def defaultRender : RenderConfig := ⟨"gnuplot"⟩

/-- The log unless something else is asked for. -/
def defaultLogging : LoggingConfig := ⟨"info", .pretty, false, false⟩

/-- The configuration of an empty document. -/
def default : Config := ⟨defaultPaths, defaultRender, defaultLogging⟩

/-- How a fault names a value. -/
def found : Toml.Value → String
  | .string s => "string " ++ Text.literal s
  | .integer n => "integer " ++ ConfigFault.name (toString n)
  | .float x => "floating point " ++ ConfigFault.name x.text
  | .boolean b => "boolean " ++ ConfigFault.name (if b then "true" else "false")
  | .datetime _ => "map"
  | .array _ _ => "sequence"
  | .table _ _ => "map"

/-- Sets one field of a section from a value. -/
abbrev Setter (σ : Type) := σ → Toml.Value → Except ConfigFault σ

/-- A field that holds text; `expected` names its type in a fault. -/
def textField {σ : Type} (expected : String) (set : σ → String → σ) : Setter σ := fun s v =>
  match v with
  | .string text => .ok (set s text)
  | v => .error (.invalidType (found v) expected)

/-- A field that holds a truth value. -/
def boolField {σ : Type} (set : σ → Bool → σ) : Setter σ := fun s v =>
  match v with
  | .boolean b => .ok (set s b)
  | v => .error (.invalidType (found v) "a boolean")

/-- The forms of log lines by name. -/
def formats : List (String × LogFormat) :=
  [("pretty", .pretty), ("compact", .compact), ("json", .json)]

/-- The form of log lines with a name. -/
def formatNamed (name : String) : Except ConfigFault LogFormat :=
  match formats.lookup name with
  | some f => .ok f
  | none => .error (.unknownVariant name (formats.map (·.1)))

/-- Whether a value is an empty table or list. -/
def isEmptyValue : Toml.Value → Bool
  | .array _ items => items.isEmpty
  | .table _ entries => entries.isEmpty
  | _ => false

/-- The form of log lines that a value names: by its name, or as the only key of a table whose value
is empty. -/
def formatOf : Toml.Value → Except ConfigFault LogFormat
  | .string name => formatNamed name
  | .table _ [(name, v)] => do
    let f ← formatNamed name
    if isEmptyValue v then return f else .error .noChoice
  | _ => .error .noChoice

/-- The fields of a section, by name and in order, with their setters. -/
abbrev Fields (σ : Type) := List (String × Setter σ)

/-- The fields of the directories. -/
def pathsFields : Fields PathsConfig :=
  [("results_dir", textField "path string" fun s d => { s with resultsDir := d }),
   ("plots_dir", textField "path string" fun s d => { s with plotsDir := d })]

/-- The fields of the plotting program. -/
def renderFields : Fields RenderConfig :=
  [("program", textField "path string" fun s p => { s with program := p })]

/-- The fields of the log. -/
def loggingFields : Fields LoggingConfig :=
  [("level", textField "a string" fun s l => { s with level := l }),
   ("format", fun s v => do return { s with format := ← formatOf v }),
   ("timestamps", boolField fun s b => { s with timestamps := b }),
   ("target", boolField fun s b => { s with target := b })]

/-- Set the fields that the entries of a table name. -/
def setEntries {σ : Type} (fields : Fields σ) (s : σ) (entries : Entries) :
    Except ConfigFault σ :=
  entries.foldlM (fun s (key, v) =>
    match fields.lookup key with
    | some set => set s v
    | none => .error (.unknownField key (fields.map (·.1)))) s

/-- The key under which a date shows its text to a reader of tables. -/
def datetimeKey : String := "$__toml_private_datetime"

/-- A section: a table of its fields, or a list of their values in order, of which the last may be
missing and any surplus is passed over. -/
def readSection {σ : Type} (title : String) (fields : Fields σ) (start : σ) :
    Toml.Value → Except ConfigFault σ
  | .table _ entries => setEntries fields start entries
  | .array ofTables items =>
    ((Toml.inOrder ofTables items).zip fields).foldlM (fun s (v, _, set) => set s v) start
  | .datetime text => setEntries fields start [(datetimeKey, .string text)]
  | v => .error (.invalidType (found v) ("struct " ++ title))

/-- The sections. -/
def sections : Fields Config :=
  [("paths", fun c v => do
      return { c with paths := ← readSection "PathsConfig" pathsFields defaultPaths v }),
   ("render", fun c v => do
      return { c with render := ← readSection "RenderConfig" renderFields defaultRender v }),
   ("logging", fun c v => do
      return { c with logging := ← readSection "LoggingConfig" loggingFields defaultLogging v })]

/-- The configuration that the tables of a document give. -/
def ofEntries (entries : Entries) : Except ConfigFault Config :=
  setEntries sections default entries

/-- The configuration that the text of a document gives. -/
def parse (text : String) : Except ConfigError Config :=
  match Document.parse text with
  | none => .error .notADocument
  | some entries =>
    match ofEntries entries with
    | .ok c => .ok c
    | .error f => .error (.fault f)

/-- The configuration in a file. -/
def load (path : String) (t : FileTree) : Except ConfigError Config :=
  match t.read path with
  | .error fault => .error (.io fault)
  | .ok bytes =>
    match Text.Utf8.decode? bytes with
    | none => .error (.io .notUtf8)
    | some text => parse text

/-- The configuration with the directories that the command line gives in their place. -/
def withDirs (c : Config) (resultsDir plotsDir : Option String) : Config :=
  { c with paths :=
    { resultsDir := resultsDir.getD c.paths.resultsDir
      plotsDir := plotsDir.getD c.paths.plotsDir } }

end Config

namespace ConfigError

/-- The report of an error: of one in the document, only that there is one. -/
def report (reportIo : IoFault → String) : ConfigError → String
  | .io f => "Io(" ++ reportIo f ++ ")"
  | _ => "Parse"

end ConfigError

end SweepPlot
