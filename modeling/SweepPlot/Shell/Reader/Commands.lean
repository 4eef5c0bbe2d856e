import SweepPlot.Shell.Reader.Words

/-!
# Commands of a script

`readLine` reads the commands of one line, and of the lines that belong to it. A line of which no
command can be made stops the shell before any of its commands is run.

A command holds words and a word may hold commands, so the readers call each other. Each reader is
given those for what is nested in it (`Readers`), and `readers` closes the circle for nesting up to
a depth.
-/

namespace SweepPlot.Shell

/-! ## Tokens -/

/-- The keyword that a word is. -/
def keyword? : String → Option Token
  | "!" => some .not
  | "case" => some .keyCase
  | "do" => some .keyDo
  | "done" => some .keyDone
  | "elif" => some .keyElif
  | "else" => some .keyElse
  | "esac" => some .keyEsac
  | "fi" => some .keyFi
  | "for" => some .keyFor
  | "if" => some .keyIf
  | "in" => some .keyIn
  | "then" => some .keyThen
  | "until" => some .keyUntil
  | "while" => some .keyWhile
  | "\x7b" => some .openBrace
  | "\x7d" => some .closeBrace
  | _ => none

/-- Whether a token ends a list of commands. -/
def Token.endsList : Token → Bool
  | .endOfFile | .closeParen | .endCase | .keyDo | .keyDone | .keyElif | .keyElse | .keyEsac
  | .keyFi | .keyThen | .closeBrace => true
  | _ => false

/-- The token of a sign that may be doubled. -/
def doubled (sign : Char) (once twice : Token) : ShellM Token := do
  let next ← getJoined
  if next = some sign then return twice
  ungetChar next
  return once

/-- Read a token, or the last one once more. -/
def nextToken (g : Grammar) : ShellM Token := do
  let reader := (← get).reader
  if reader.pushedBack then
    changeReader fun r => { r with pushedBack := false }
    return reader.token
  let t ← iterate () fun _ => do
    match ← getJoined with
    | some ' ' | some '\t' => return .inl ()
    | some '#' =>
      skipComment
      return .inl ()
    | some '\n' =>
      countLine
      return .inr .newline
    | none => return .inr .endOfFile
    | some '&' => return .inr (← doubled '&' .background .andThen)
    | some '|' => return .inr (← doubled '|' .pipe .orElse)
    | some ';' => return .inr (← doubled ';' .semicolon .endCase)
    | some '(' => return .inr .openParen
    | some ')' => return .inr .closeParen
    | c =>
      ungetChar c
      return .inr (← readWord g)
  changeReader fun r => { r with token := t }
  return t

/-- Read a token. Line ends may be passed over before it, and a word may be a keyword. -/
def readToken (g : Grammar) (skipsLines keywords : Bool) : ShellM Token :=
  iterate () fun _ => do
    let t ← nextToken g
    if t = .newline ∧ skipsLines = true then
      readTexts g
      return .inl ()
    if t ≠ .word ∨ keywords = false then return .inr t
    match (plainText? (← get).reader.parts).bind (keyword? ∘ nameOf) with
    | some key =>
      changeReader fun r => { r with token := key }
      return .inr key
    | none => return .inr t

/-- The last token is used once more. -/
def pushBack : ShellM Unit := changeReader fun r => { r with pushedBack := true }

/-! ## Lists, pipelines and commands -/

/-- What a list of commands is read for. -/
inductive ListMode
  /-- A line of the script. -/
  | line
  /-- The inside of a command, where one command is due at least. -/
  | body
  /-- The inside of a command, which may be empty. -/
  | optional
  deriving DecidableEq, Repr, Inhabited

/-- The readers for what is nested. -/
structure Readers where
  list : ListMode → ShellM (Option Command)
  command : ShellM Command
  grammar : Grammar

namespace Readers

/-- Read a token that is no keyword. -/
def token (p : Readers) : ShellM Token := readToken p.grammar false false

/-- Read a token where a command may begin, perhaps in another line. -/
def firstToken (p : Readers) (skipsLines : Bool) : ShellM Token :=
  readToken p.grammar skipsLines true

/-- Look at the token where a command begins, in this line or another one. -/
def look (p : Readers) (skipsLines : Bool) : ShellM Token := do
  let t ← p.firstToken skipsLines
  pushBack
  return t

/-- Read what has to be a token. -/
def due (p : Readers) (t : Token) : ShellM Unit := do
  if (← p.token) ≠ t then expecting t

/-- Read the path or mark of the redirection that was read last. -/
def redirectionTarget (p : Readers) : ShellM Redirection := do
  let r := (← get).reader.redirection
  if (← p.token) ≠ .word then unexpected
  let parts := (← get).reader.parts
  match r with
  | .file fd mode _ => return .file fd mode parts
  | .copy fd _ => return .copy fd parts
  | .text fd number =>
    let mark := parts.filterMap fun
      | .char c _ => some c
      | _ => none
    let described (t : PendingText) : PendingText :=
      if t.number = number then { t with mark := mark, literal := (plainText? parts).isNone } else t
    changeReader fun reader => { reader with pending := reader.pending.map described }
    return .text fd number

/-- Read the redirections after a command. -/
def redirections (p : Readers) : ShellM (List Redirection) :=
  iterate ([] : List Redirection) fun taken => do
    if (← readToken p.grammar false taken.isEmpty) = .redirection then
      return .inl ((← p.redirectionTarget) :: taken)
    pushBack
    return .inr taken.reverse

/-- The assignment that a word is: a name, and the parts after the equality sign. -/
def assignment? (parts : List Part) : Option (String × List Part) :=
  let isNamePart (p : Part) : Bool :=
    match p with
    | .char c false => isNameChar c
    | _ => false
  match parts.dropWhile isNamePart, plainText? (parts.takeWhile isNamePart) with
  | .char '=' false :: rest, some name => if isName name then some (nameOf name, rest) else none
  | _, _ => none

/-- The builtin commands that cannot become the names of functions. -/
def specialNames : List String :=
  [":", "break", "continue", "eval", "exec", "exit", "export", "return", "set", "shift", "unset"]

/-- A simple command that is being read, its last things first. -/
structure SimpleDraft where
  assignments : List (String × List Part)
  words : List (List Part)
  redirections : List Redirection

/-- Read a simple command, or a function from its name on. -/
def simple (p : Readers) : ShellM Command := do
  let line ← currentLine
  iterate (⟨[], [], []⟩ : SimpleDraft) fun d => do
    let finish : ShellM (SimpleDraft ⊕ Command) := do
      pushBack
      return .inr (.simple line d.assignments.reverse d.words.reverse d.redirections.reverse)
    match ← p.token with
    | .word =>
      let parts := (← get).reader.parts
      match if d.words.isEmpty then assignment? parts else none with
      | some a => return .inl { d with assignments := a :: d.assignments }
      | none => return .inl { d with words := parts :: d.words }
    | .redirection =>
      return .inl { d with redirections := (← p.redirectionTarget) :: d.redirections }
    | .openParen =>
      match d.words, d.assignments, d.redirections with
      | [name], [], [] =>
        p.due .closeParen
        let name := (plainText? name).getD []
        if isName name = false ∨ specialNames.contains (nameOf name) = true then
          syntaxError "Bad function name"
        let _ ← p.look true
        return .inr (.function (nameOf name) (← p.command))
      | _, _, _ => finish
    | _ => finish

/-- Read the rest of a condition, from the test on. -/
def condition (p : Readers) : ShellM Command := do
  let test ← p.list .body
  p.due .keyThen
  let yes ← p.list .body
  let (branches, last) ← iterate ([] : List (Option Command × Option Command)) fun branches => do
    match ← p.token with
    | .keyElif =>
      let test ← p.list .body
      p.due .keyThen
      return .inl ((test, ← p.list .body) :: branches)
    | .keyElse => return .inr (branches, ← p.list .body)
    | _ =>
      pushBack
      return .inr (branches, none)
  let no := branches.foldl (fun no (test, yes) => some (.conditional test yes no)) last
  return .conditional test yes no

/-- The word for all arguments. -/
def allArguments : List Part := [.mark, .parameter "@" .value true [], .mark]

/-- Read the words of a loop, after its name. -/
def loopWords (p : Readers) : ShellM (List (List Part)) := do
  match ← p.firstToken true with
  | .keyIn =>
    let words ← iterate ([] : List (List Part)) fun taken => do
      if (← p.token) = .word then return .inl ((← get).reader.parts :: taken)
      return .inr taken.reverse
    let last := (← get).reader.token
    if last ≠ .newline ∧ last ≠ .semicolon then unexpected
    return words
  | .semicolon => return [allArguments]
  | _ =>
    pushBack
    return [allArguments]

/-- Read the rest of a loop on words. -/
def forLoop (p : Readers) (line : Nat) : ShellM Command := do
  let t ← p.token
  let name := (plainText? (← get).reader.parts).getD []
  if t ≠ .word ∨ isName name = false then syntaxError "Bad for loop variable"
  let words ← p.loopWords
  let _ ← p.look true
  p.due .keyDo
  return .each line (nameOf name) words (← p.list .body)

/-- Read the patterns of a case after the first of them. -/
def patterns (p : Readers) : ShellM (List (List Part)) :=
  iterate ([] : List (List Part)) fun taken => do
    let taken := (← get).reader.parts :: taken
    match ← p.token with
    | .pipe =>
      let _ ← p.token
      return .inl taken
    | .closeParen => return .inr taken.reverse
    | _ => expecting .closeParen

/-- Read the rest of a choice by patterns. -/
def choice (p : Readers) (line : Nat) : ShellM Command := do
  if (← p.token) ≠ .word then expecting .word
  let subject := (← get).reader.parts
  let _ ← p.look true
  p.due .keyIn
  let cases ← iterate ([] : List (List (List Part) × Option Command)) fun taken => do
    match ← p.firstToken true with
    | .keyEsac => return .inr taken.reverse
    | .openParen =>
      let _ ← p.token
    | _ => pure ()
    let patterns ← p.patterns
    let taken := (patterns, ← p.list .optional) :: taken
    match ← p.firstToken true with
    | .keyEsac => return .inr taken.reverse
    | .endCase => return .inl taken
    | _ => expecting .endCase
  return .choice line subject cases

/-- The command with the redirections that follow it. -/
def redirect (line : Nat) (c : Command) (rs : List Redirection) : Command :=
  match rs, c with
  | [], c => c
  | rs, .subshell line body [] => .subshell line body rs
  | rs, c => .redirected line (some c) rs

/-- Read a command. -/
def oneCommand (p : Readers) : ShellM Command := do
  let line ← currentLine
  let closedBy (t : Token) (c : Command) : ShellM Command := do
    p.due t
    return redirect line c (← p.redirections)
  let whileLoop (untilSuccess : Bool) : ShellM Command := do
    let test ← p.list .body
    p.due .keyDo
    closedBy .keyDone (.loop untilSuccess test (← p.list .body))
  match ← p.token with
  | .keyIf => closedBy .keyFi (← p.condition)
  | .keyWhile => whileLoop false
  | .keyUntil => whileLoop true
  | .keyFor => closedBy .keyDone (← p.forLoop line)
  | .keyCase =>
    let c ← p.choice line
    return redirect line c (← p.redirections)
  | .openParen => closedBy .closeParen (.subshell line (← p.list .body) [])
  | .openBrace =>
    match ← p.list .body with
    | some c => closedBy .closeBrace c
    | none => expecting .closeBrace
  | .word | .redirection =>
    pushBack
    p.simple
  | _ => unexpected

/-- Read commands between pipes. -/
def pipeline (p : Readers) : ShellM Command := do
  let negated := (← p.token) = .not
  if negated then
    let _ ← p.look false
  else pushBack
  let first ← p.command
  let stages ← iterate [first] fun taken => do
    if (← p.token) = .pipe then
      let _ ← p.look true
      return .inl ((← p.command) :: taken)
    pushBack
    return .inr taken.reverse
  let c := match stages with
    | [c] => c
    | stages => .pipeline stages
  return if negated then .negation c else c

/-- Read pipelines of which each is run or not as the one before it succeeds. -/
def chain (p : Readers) : ShellM Command := do
  let first ← p.pipeline
  iterate first fun c => do
    match ← p.token with
    | .andThen =>
      let _ ← p.look true
      return .inl (.and c (← p.pipeline))
    | .orElse =>
      let _ ← p.look true
      return .inl (.or c (← p.pipeline))
    | _ =>
      pushBack
      return .inr c

/-- Read a list of commands. -/
def commandList (p : Readers) (mode : ListMode) : ShellM (Option Command) :=
  let isLine : Bool := mode = .line
  iterate ((none : Option Command), mode) fun (done, mode) => do
    let t ← p.firstToken (!isLine)
    if t = .newline ∨ t = .endOfFile then
      readTexts p.grammar
      if t = .endOfFile then pushBack
      return .inr done
    pushBack
    if mode = .optional ∧ t.endsList = true then return .inr done
    let next ← p.chain
    let t ← p.token
    let c := Command.followedBy done (if t = .background then .background next else next)
    let after : ListMode := if isLine then .line else .optional
    match t with
    | .endOfFile =>
      readTexts p.grammar
      pushBack
      return .inr (some c)
    | .newline =>
      pushBack
      return .inl (some c, after)
    | .background | .semicolon => return .inl (some c, after)
    | _ =>
      if isLine then unexpected
      pushBack
      return .inr (some c)

end Readers

/-- The readers for commands that are nested up to a depth. -/
def readers : Nat → Readers
  | 0 =>
    { list := fun _ => throw .exhausted
      command := throw .exhausted
      grammar := ⟨fun _ => throw .exhausted, throw .exhausted, throw .exhausted⟩ }
  | n + 1 =>
    { list := fun mode s => (readers n).commandList mode s
      command := fun s => (readers n).oneCommand s
      grammar :=
        { parts := fun q s => readParts (readers n).grammar q s
          commands := fun s => (readers n).commandList .optional s
          token := fun s => (readers n).token s } }

/-- How deep commands are nested at most. -/
def maxNesting : Nat := 1000

/-- Read the commands of a line: none if there is no command in it. The second part says that the
script is at its end. -/
def readLine : ShellM (Option Command × Bool) := do
  changeReader fun r => { (default : ReaderState) with textCount := r.textCount }
  let c ← (readers maxNesting).commandList .line
  return (c, c.isNone && decide ((← get).reader.token = .endOfFile))

end SweepPlot.Shell
