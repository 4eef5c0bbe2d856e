import SweepPlot.Text.Alphabetic
import SweepPlot.Text.Pattern.Bracket

/-!
# Regular expressions

`Pattern.check` says whether a text is a regular expression that a matcher can be built for. Groups
are closed, a repetition sign follows something that can be repeated, brackets hold a class of
characters, and a backslash stands before a character that needs one. What would take a table of
all characters is not part of the language: the classes of letters or digits where characters are
matched, and letters of either case. A count of repetitions is none either.

An expression that asks for the edge of a word of any characters is read, but has no matcher.
-/

namespace SweepPlot.Text.Pattern

/-- What a text is as a regular expression. -/
inductive Verdict
  | valid
  /-- A regular expression that asks for the edge of a word of any characters. -/
  | wordEdge
  | invalid
  deriving DecidableEq, Repr

/-- The greatest depth of nesting. -/
def maxDepth : Nat := 250

/-- A sequence that has been read so far. -/
structure Sequence where
  count : Nat
  /-- The depth of the deepest of them, the last one apart. -/
  earlier : Nat
  /-- The depth of the last one. -/
  last : Nat
  /-- The last one may be repeated. -/
  repeatable : Bool
  deriving DecidableEq, Repr

namespace Sequence

/-- Nothing has been read. -/
def empty : Sequence := ⟨0, 0, 0, false⟩

/-- One more thing of some depth. -/
def push (s : Sequence) (depth : Nat) (repeatable : Bool) : Sequence :=
  ⟨s.count + 1, max s.earlier s.last, depth, repeatable⟩

/-- The depth of a sequence; of several things the sequence itself is a level. -/
def depth (s : Sequence) : Nat :=
  if s.count < 2 then s.last else 1 + max s.earlier s.last

end Sequence

/-- A group that is open. -/
structure Group where
  flags : Flags
  /-- The number of alternatives before the one that is being read. -/
  alternatives : Nat
  /-- The depth of the deepest of them. -/
  earlier : Nat
  /-- The alternative that is being read. -/
  sequence : Sequence
  deriving DecidableEq, Repr

namespace Group

/-- A group of which nothing has been read. -/
def start (flags : Flags) : Group := ⟨flags, 0, 0, .empty⟩

/-- The depth of what is in a group. -/
def depth (g : Group) : Nat :=
  if g.alternatives = 0 then g.sequence.depth else 1 + max g.earlier g.sequence.depth

/-- Another alternative begins. -/
def alternate (g : Group) : Group :=
  ⟨g.flags, g.alternatives + 1, max g.earlier g.sequence.depth, .empty⟩

/-- One more thing of some depth that may be repeated. -/
def push (g : Group) (depth : Nat) : Group :=
  { g with sequence := g.sequence.push depth true }

/-- The last thing is repeated. -/
def again (g : Group) : Option Group :=
  let s := g.sequence
  if s.repeatable then some { g with sequence := { s with last := s.last + 1 } } else none

/-- Flags are set for the rest of the group. -/
def setFlags (g : Group) (flags : Flags) : Group :=
  { g with flags := flags, sequence := g.sequence.push 0 false }

end Group

/-- A text that has been read so far. -/
structure Reading where
  /-- The innermost open group; the whole expression is one. -/
  group : Group
  /-- The groups around it, the innermost first. -/
  outer : List Group
  names : List (List Char)
  /-- The edge of a word of any characters has been asked for. -/
  wordEdge : Bool
  deriving DecidableEq, Repr

/-! ## Flags -/

/-- The letters of the flags. -/
def flagLetters : List Char := ['i', 'm', 's', 'U', 'u', 'R', 'x']

/-- Flags that are being read. -/
structure FlagList where
  /-- The letters so far. -/
  letters : List Char
  /-- There was a sign that the letters after it are taken back. -/
  negated : Bool
  /-- That sign was the last character. -/
  dangling : Bool
  /-- The flags that are in force with the letters so far. -/
  flags : Flags
  deriving DecidableEq, Repr

/-- The flags with the one of a letter set or taken back. Letters of flags that do not matter here
change nothing. -/
def Flags.set (flags : Flags) (letter : Char) (on : Bool) : Flags :=
  match letter with
  | 'i' => { flags with ignoreCase := on }
  | 'u' => { flags with unicode := on }
  | 'x' => { flags with verbose := on }
  | _ => flags

/-- Read flags up to the sign that ends them. No letter stands twice. -/
def readFlags (l : FlagList) : List Char → Option (FlagList × Char × List Char)
  | [] => none
  | c :: cs =>
    if c = ':' ∨ c = ')' then if l.dangling then none else some (l, c, cs)
    else if c = '-' then
      if l.negated then none else readFlags { l with negated := true, dangling := true } cs
    else if flagLetters.contains c ∧ l.letters.contains c = false then
      readFlags { l with letters := c :: l.letters, dangling := false
                         flags := l.flags.set c (!l.negated) } cs
    else none

/-! ## Groups -/

/-- Whether a character may stand in the name of a group, at its front or later. -/
def isNameChar (isFirst : Bool) (c : Char) : Bool :=
  c == '_' || if isFirst then isAlphabetic c
    else isAlphanumeric c || c == '.' || c == '[' || c == ']'

/-- Read the name of a group and the sign that closes it. -/
def readName (cs : List Char) : Option (List Char × List Char) :=
  let name := cs.takeWhile (· ≠ '>')
  match cs.dropWhile (· ≠ '>'), name with
  | '>' :: rest, first :: more =>
    if isNameChar true first && more.all (isNameChar false) then some (name, rest) else none
  | _, _ => none

namespace Reading

/-- Nothing has been read. -/
def start : Reading := ⟨.start .standard, [], [], false⟩

/-- A group begins. -/
def enter (r : Reading) (flags : Flags) : Reading :=
  { r with group := .start flags, outer := r.group :: r.outer }

/-- A group with a name begins. No two groups have one name. -/
def enterNamed (r : Reading) (cs : List Char) : Option (Reading × List Char) := do
  let (name, rest) ← readName cs
  if r.names.contains name then none
  else return ({ r.enter r.group.flags with names := name :: r.names }, rest)

/-- What follows the parenthesis that opens a group: a look around is not part of the language. -/
def readOpening (r : Reading) (cs : List Char) : Option (Reading × List Char) :=
  match skipBlanks r.group.flags false cs with
  | '?' :: '=' :: _ | '?' :: '!' :: _ => none
  | '?' :: '<' :: '=' :: _ | '?' :: '<' :: '!' :: _ => none
  | '?' :: 'P' :: '<' :: rest => r.enterNamed rest
  | '?' :: '<' :: rest => r.enterNamed rest
  | '?' :: rest => do
    let (l, sign, rest) ← readFlags ⟨[], false, false, r.group.flags⟩ rest
    if sign = ':' then return (r.enter l.flags, rest)
    else if l.letters = [] then none
    else return ({ r with group := r.group.setFlags l.flags }, rest)
  | rest => some (r.enter r.group.flags, rest)

/-- A group ends. -/
def leave (r : Reading) : Option Reading :=
  match r.outer with
  | [] => none
  | around :: outer =>
    some { r with group := around.push (1 + r.group.depth), outer := outer }

/-- A character or an escape outside brackets. -/
def pushAtom (r : Reading) (a : Atom) : Option Reading :=
  let flags := r.group.flags
  let next := { r with group := r.group.push 0 }
  match a with
  | .literal c isByte =>
    if flags.unicode then if flags.ignoreCase then none else some next
    else if isByte = true ∧ 0x80 ≤ c.toNat then none else some next
  | .property letter => if flags.unicode = true ∨ letter.isUpper = true then none else some next
  | .any => if flags.unicode then some next else none
  | .edge => some next
  | .wordEdge => some { next with wordEdge := r.wordEdge || flags.unicode }

/-- What follows the sign that makes a repetition as short as possible, if it is there. -/
def skipLazy : List Char → List Char
  | '?' :: rest => rest
  | rest => rest

/-- Read the next thing of a text that is not at its end. -/
def next (r : Reading) (c : Char) (rest : List Char) : Option (Reading × List Char) :=
  match c with
  | '(' => r.readOpening rest
  | ')' => r.leave.map fun r => (r, rest)
  | '|' => some ({ r with group := r.group.alternate }, rest)
  | '[' => do
    let (depth, rest) ← Bracket.read r.group.flags rest
    return ({ r with group := r.group.push depth }, rest)
  | '?' | '*' | '+' => r.group.again.map fun g => ({ r with group := g }, skipLazy rest)
  | '\x7b' => none
  | '\\' => do
    let (a, rest) ← readEscape r.group.flags rest
    return (← r.pushAtom a, rest)
  | '.' => (r.pushAtom .any).map fun r => (r, rest)
  | '^' | '$' => (r.pushAtom .edge).map fun r => (r, rest)
  | c => (r.pushAtom (.literal c false)).map fun r => (r, rest)

/-- Read a text to its end. -/
def read : Nat → Reading → List Char → Option Reading
  | 0, _, _ => none
  | fuel + 1, r, cs =>
    match skipBlanks r.group.flags false cs with
    | [] => some r
    | c :: rest => do
      let (r, rest) ← r.next c rest
      read fuel r rest

end Reading

/-- What a text is as a regular expression. -/
def check (cs : List Char) : Verdict :=
  match Reading.start.read (cs.length + 1) cs with
  | some r =>
    if r.outer = [] ∧ r.group.depth ≤ maxDepth then
      if r.wordEdge then .wordEdge else .valid
    else .invalid
  | none => .invalid

end SweepPlot.Text.Pattern
