import SweepPlot.Shell.Reader.Chars

/-!
# Words of a script

`readWord` reads a word: quotations, parameters, commands and sums in it, and whatever is nested in
these. What a character means depends on the `Quotation` it stands in. The texts that follow a
command in a script are cut out of it by `readTextLines` first, and then read in the same way.
-/

namespace SweepPlot.Shell

/-- What the characters of a word stand in. -/
inductive Quotation
  /-- Outside of quotations. -/
  | plain
  /-- Between double quotes. -/
  | double
  /-- In the braces of a parameter. -/
  | braces (quoted : Bool)
  /-- In an arithmetic expression. -/
  | sum
  /-- Between parentheses in one. -/
  | parens
  /-- In a text that follows a command. -/
  | text
  deriving DecidableEq, Repr

namespace Quotation

/-- Whether what stands in it is quoted. -/
def quotes : Quotation → Bool
  | plain | braces false => false
  | _ => true

/-- Whether a backslash before a character only takes the meaning from it. -/
def escapes (q : Quotation) (c : Char) : Bool :=
  match q with
  | plain | braces false => true
  | double | sum | parens => "\\$\x60\"".toList.contains c
  | braces true => "\\$\x60\"\x7d".toList.contains c
  | text => "\\$\x60".toList.contains c

/-- The complaint about a script that ends in it. -/
def unfinished : Quotation → Option String
  | plain | text => none
  | double | braces true => some "Unterminated quoted string"
  | braces false => some "Missing '\x7d'"
  | sum | parens => some "Missing '))'"

end Quotation

/-- What a character means to a word. -/
inductive CharKind
  | ordinary
  /-- It ends the quotation. -/
  | ends
  /-- It ends the quotation and belongs to what follows. -/
  | precedes
  | backslash
  | singleQuote
  | doubleQuote
  | dollar
  | backquote
  | openParen
  /-- It ends the quotation if another one follows. -/
  | closeParen
  deriving DecidableEq, Repr

/-- What a character means in a quotation. -/
def Quotation.kind (q : Quotation) (c : Char) : CharKind :=
  match c with
  | '\\' => .backslash
  | '$' => .dollar
  | '\x60' => .backquote
  | '\x27' => if q.quotes then .ordinary else .singleQuote
  | '"' =>
    match q with
    | .double => .ends
    | .plain | .braces _ => .doubleQuote
    | _ => .ordinary
  | '\x7d' =>
    match q with
    | .braces _ => .ends
    | _ => .ordinary
  | '(' =>
    match q with
    | .plain => .precedes
    | .sum | .parens => .openParen
    | _ => .ordinary
  | ')' =>
    match q with
    | .plain => .precedes
    | .sum => .closeParen
    | .parens => .ends
    | _ => .ordinary
  | '\n' | ' ' | '\t' | '<' | '>' | ';' | '&' | '|' =>
    if q = .plain then .precedes else .ordinary
  | _ => .ordinary

/-- What reads things that are nested in a word. -/
structure Grammar where
  /-- Read the parts of a word to the end of a quotation. -/
  parts : Quotation → ShellM (List Part)
  /-- Read commands. -/
  commands : ShellM (Option Command)
  /-- Read a token. -/
  token : ShellM Token

/-! ## Substitutions -/

/-- Whether a character alone is the name of a parameter. -/
def isSpecial (c : Char) : Bool := "#$*?@".toList.contains c || c.isDigit

/-- Read characters as long as they fit. -/
def readWhile (fits : Char → Bool) : ShellM (List Char) :=
  iterate ([] : List Char) fun taken => do
    match ← getJoined with
    | some c =>
      if fits c then return .inl (c :: taken)
      ungetChar (some c)
      return .inr taken.reverse
    | none => return .inr taken.reverse

/-- Read the name of a parameter; `several` says that it may have several digits. The name is empty
if there is none. -/
def readParameterName (several : Bool) : ShellM (List Char) := do
  match ← getJoined with
  | none => return []
  | some c =>
    if isNameStart c then return c :: (← readWhile isNameChar)
    else if several ∧ c.isDigit = true then return c :: (← readWhile Char.isDigit)
    else if isSpecial c then return [c]
    else
      ungetChar (some c)
      return []

/-- Read the operation on a parameter; `value` is closed already. -/
def readOperation : ShellM Operation := do
  let simple (orNull : Bool) (c : Option Char) : Operation :=
    match c with
    | some '-' => .fallback orNull
    | some '=' => .assign orNull
    | some '?' => .require orNull
    | some '+' => .replace orNull
    | _ => .unknown
  match ← getJoined with
  | some '\x7d' => return .value
  | some ':' => return simple true (← getJoined)
  | c => return simple false c

/-- Read commands that are nested in a word, with texts of their own to follow. -/
def Grammar.substitution (g : Grammar) (closing : ShellM Unit) : ShellM (Option Command) := do
  let pending := (← get).reader.pending
  changeReader fun r => { r with pending := [] }
  let body ← g.commands
  closing
  changeReader fun r => { r with pending := pending }
  return body

/-- Read what follows a dollar sign. -/
def readDollar (g : Grammar) (q : Quotation) : ShellM Part := do
  match ← getJoined with
  | some '(' =>
    match ← getJoined with
    | some '(' => return .sum (← g.parts .sum) q.quotes
    | next =>
      ungetChar next
      let body ← g.substitution do
        if (← g.token) ≠ .closeParen then expecting .closeParen
      return .output body q.quotes
  | some '\x7b' =>
    let name ← readParameterName true
    let op ← if name = [] then pure .unknown else readOperation
    match op with
    | .value => return .parameter (nameOf name) .value q.quotes []
    | op => return .parameter (nameOf name) op q.quotes (← g.parts (.braces q.quotes))
  | c =>
    ungetChar c
    match ← readParameterName false with
    | [] => return .char '$' q.quotes
    | name => return .parameter (nameOf name) .value q.quotes []

/-- Read a command between backquotes, after the first of them. -/
def readBackquoted (g : Grammar) (q : Quotation) : ShellM Part := do
  let text ← iterate ([] : List Char) fun taken => do
    match ← getJoined with
    | none => syntaxError "EOF in backquote substitution"
    | some '\x60' => return .inr taken.reverse
    | some '\\' =>
      match ← getChar with
      | none => syntaxError "EOF in backquote substitution"
      | some c =>
        if c = '\\' ∨ c = '\x60' ∨ c = '$' ∨ (q.quotes = true ∧ c = '"') then
          return .inl (c :: taken)
        else return .inl (c :: '\\' :: taken)
    | some c =>
      if c = '\n' then countLine
      return .inl (c :: taken)
  let body ← withScript ⟨text, false, 1⟩ (g.substitution (return ()))
  changeReader fun r => { r with pushedBack := false }
  return .output body q.quotes

/-! ## Words -/

/-- Read what follows a backslash. -/
def readEscaped (q : Quotation) : ShellM (List Part) := do
  match ← getChar with
  | none => return [.char '\\' true]
  | some c => return if q.escapes c then [.char c true] else [.char '\\' true, .char c true]

/-- Read up to a single quote. -/
def readSingle : ShellM (List Part) :=
  iterate ([] : List Part) fun taken => do
    match ← getChar with
    | none => syntaxError "Unterminated quoted string"
    | some '\x27' => return .inr taken.reverse
    | some c =>
      if c = '\n' then countLine
      return .inl (.char c true :: taken)

/-- Read the parts of a word to the end of a quotation. -/
def readParts (g : Grammar) (q : Quotation) : ShellM (List Part) :=
  iterate ([] : List Part) fun taken => do
    let more (parts : List Part) : ShellM (List Part ⊕ List Part) :=
      return .inl (parts.reverse ++ taken)
    match ← getJoined with
    | none =>
      match q.unfinished with
      | some message => syntaxError message
      | none => return .inr taken.reverse
    | some c =>
      match q.kind c with
      | .ends => return .inr taken.reverse
      | .precedes =>
        ungetChar (some c)
        return .inr taken.reverse
      | .ordinary =>
        if c = '\n' then countLine
        more [.char c q.quotes]
      | .backslash => more (← readEscaped q)
      | .singleQuote => more ([.mark] ++ (← readSingle) ++ [.mark])
      | .doubleQuote => more ([.mark] ++ (← g.parts .double) ++ [.mark])
      | .dollar => more [← readDollar g q]
      | .backquote => more [← readBackquoted g q]
      | .openParen => more ([.char '(' true] ++ (← g.parts .parens) ++ [.char ')' true])
      | .closeParen =>
        match ← getJoined with
        | some ')' => return .inr taken.reverse
        | next =>
          ungetChar next
          more [.char ')' true]

/-- The text of a word without quotations and substitutions. -/
def plainText? (parts : List Part) : Option (List Char) :=
  parts.mapM fun
    | .char c false => some c
    | _ => none

/-- The redirection that a sign stands for, after the number of a file if one is written. -/
def readRedirection (sign : Char) (fd : Option Nat) : ShellM Redirection := do
  if sign = '>' then
    let fd := fd.getD 1
    match ← getJoined with
    | some '>' => return .file fd .appending []
    | some '&' => return .copy fd []
    | next =>
      ungetChar next
      return .file fd .writing []
  else
    let fd := fd.getD 0
    match ← getJoined with
    | some '<' =>
      let number := (← get).reader.textCount
      let next ← getJoined
      if next ≠ some '-' then ungetChar next
      changeReader fun r => { r with
        pending := r.pending ++ [⟨number, [], next = some '-', false⟩], textCount := number + 1 }
      return .text fd number
    | some '&' => return .copy fd []
    | next =>
      ungetChar next
      return .file fd .reading []

/-- Read a word or a redirection. -/
def readWord (g : Grammar) : ShellM Token := do
  let parts ← g.parts .plain
  let number : Option (Option Nat) := match plainText? parts with
    | some [] => some none
    | some [c] => if c.isDigit then some (some (c.toNat - 48)) else none
    | _ => none
  let c ← getJoined
  match number with
  | some fd =>
    if c = some '<' ∨ c = some '>' then
      let r ← readRedirection (c.getD '<') fd
      changeReader fun reader => { reader with redirection := r }
      return .redirection
  | none => pure ()
  ungetChar c
  changeReader fun reader => { reader with parts := parts }
  return .word

/-! ## Texts after a line -/

/-- Read a line as it is, or with the lines that it is joined to; the second part says that it has
an end. -/
def readLineAsIs (literal : Bool) : ShellM (List Char × Bool) :=
  iterate ([] : List Char) fun taken => do
    match ← if literal then getChar else getJoined with
    | none => return .inr (taken.reverse, false)
    | some '\n' =>
      countLine
      return .inr (taken.reverse, true)
    | some '\\' =>
      if literal then return .inl ('\\' :: taken)
      match ← getChar with
      | some c => return .inl (c :: '\\' :: taken)
      | none => return .inr (('\\' :: taken).reverse, false)
    | some c => return .inl (c :: taken)

/-- Read the lines of a text up to its mark. -/
def readTextLines (t : PendingText) : ShellM (List Char) :=
  iterate ([] : List Char) fun taken => do
    let (line, ended) ← readLineAsIs t.literal
    let line := if t.dropTabs then line.dropWhile (· == '\t') else line
    if line = t.mark then return .inr taken
    if ended then return .inl (taken ++ line ++ ['\n'])
    return .inr (taken ++ line)

/-- Read the texts that follow a line. -/
def readTexts (g : Grammar) : ShellM Unit := do
  let pending := (← get).reader.pending
  changeReader fun r => { r with pending := [] }
  for t in pending do
    let text ← readTextLines t
    let parts ← if t.literal then pure (text.map (.char · true))
      else withScript ⟨text, false, 1⟩ (g.parts .text)
    modify fun s => { s with texts := (t.number, parts) :: s.texts }

end SweepPlot.Shell
