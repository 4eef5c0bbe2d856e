import SweepPlot.Shell.Session

/-!
# Characters of a script

The shell reads its input in blocks, and takes characters out of them one by one. A backslash
before a line end joins two lines.
-/

namespace SweepPlot.Shell

/-- The number of bytes that are read at once. -/
def blockSize : Nat := 8192

/-- Change the script that is being read. -/
def changeScript (f : Script → Script) : ShellM Unit :=
  modify fun s => match s.scripts with
    | script :: rest => { s with scripts := f script :: rest }
    | [] => s

/-- Read commands from another script meanwhile. -/
def withScript {α : Type} (script : Script) (x : ShellM α) : ShellM α :=
  restoring (fun before after => { after with scripts := before.scripts }) do
    modify fun s => { s with scripts := script :: s.scripts }
    x

/-- The next character of the script, if it is not at its end. -/
def getChar : ShellM (Option Char) := do
  match (← get).scripts with
  | [] => return none
  | script :: _ =>
    match script.rest with
    | c :: cs =>
      changeScript fun script => { script with rest := cs }
      return some c
    | [] =>
      if script.fromInput = false then return none
      match ← withTask (Task.read blockSize 0) with
      | .error _ => return none
      | .ok block =>
        match block.filter (· ≠ '\x00') with
        | [] => return none
        | c :: cs =>
          changeScript fun script => { script with rest := cs }
          return some c

/-- A character is read once more. -/
def ungetChar (c : Option Char) : ShellM Unit :=
  match c with
  | some c => changeScript fun script => { script with rest := c :: script.rest }
  | none => return ()

/-- Another line begins. -/
def countLine : ShellM Unit := changeScript fun script => { script with line := script.line + 1 }

/-- The number of the line that is being read. -/
def currentLine : ShellM Nat := do
  match (← get).scripts with
  | script :: _ => return script.line
  | [] => return 1

/-- The next character, where lines that are joined have been joined. -/
def getJoined : ShellM (Option Char) :=
  iterate () fun _ => do
    match ← getChar with
    | some '\\' =>
      match ← getChar with
      | some '\n' =>
        countLine
        return .inl ()
      | next =>
        ungetChar next
        return .inr (some '\\')
    | c => return .inr c

/-- Pass over a comment to the end of its line. -/
def skipComment : ShellM Unit :=
  iterate () fun _ => do
    match ← getChar with
    | none => return .inr ()
    | some '\n' =>
      ungetChar (some '\n')
      return .inr ()
    | some _ => return .inl ()

/-! ## Errors -/

/-- A script cannot be read. -/
def syntaxError {α : Type} (message : String) : ShellM α := do
  let line ← currentLine
  modify fun s => { s with line := line }
  fail (word ("Syntax error: " ++ message))

/-- How a token is called. -/
def Token.name : Token → String
  | endOfFile => "end of file"
  | newline => "newline"
  | semicolon => "\";\""
  | background => "\"&\""
  | andThen => "\"&&\""
  | orElse => "\"||\""
  | pipe => "\"|\""
  | openParen => "\"(\""
  | closeParen => "\")\""
  | endCase => "\";;\""
  | word => "word"
  | redirection => "redirection"
  | not => "\"!\""
  | keyCase => "\"case\""
  | keyDo => "\"do\""
  | keyDone => "\"done\""
  | keyElif => "\"elif\""
  | keyElse => "\"else\""
  | keyEsac => "\"esac\""
  | keyFi => "\"fi\""
  | keyFor => "\"for\""
  | keyIf => "\"if\""
  | keyIn => "\"in\""
  | keyThen => "\"then\""
  | keyUntil => "\"until\""
  | keyWhile => "\"while\""
  | openBrace => "\"\x7b\""
  | closeBrace => "\"\x7d\""

/-- The last token cannot stand where it does. -/
def unexpected {α : Type} : ShellM α := do
  syntaxError ((← get).reader.token.name ++ " unexpected")

/-- The last token stands where another one is due. -/
def expecting {α : Type} (due : Token) : ShellM α := do
  syntaxError ((← get).reader.token.name ++ " unexpected (expecting " ++ due.name ++ ")")

/-- Change where the reading of commands stands. -/
def changeReader (f : ReaderState → ReaderState) : ShellM Unit :=
  modify fun s => { s with reader := f s.reader }

end SweepPlot.Shell
