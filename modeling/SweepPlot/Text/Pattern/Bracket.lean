import SweepPlot.Text.Pattern.Atom

/-!
# Classes of characters in brackets

A bracket lists characters, ranges of them, named classes and other brackets, and may combine such
lists. `readBracket` reads one and gives the depth of its nesting; there is none if no bracket can
be written like this.

Where bytes are matched and not characters, a class may only have ASCII members, so its members are
worked out. Where characters are matched, upper and lower case cannot be told from each other
without a table of all letters, so that a class then has no members of its own.
-/

namespace SweepPlot.Text.Pattern

/-- A set of bytes. -/
abbrev ByteSet := Nat → Bool

namespace ByteSet

/-- No byte at all. -/
def empty : ByteSet := fun _ => false

/-- The bytes from one to another. -/
def range (first last : Nat) : ByteSet := fun n => first ≤ n && n ≤ last

/-- The bytes of two sets. -/
def union (a b : ByteSet) : ByteSet := fun n => a n || b n

/-- With each letter the same letter in the other case. -/
def foldCase (a : ByteSet) : ByteSet := fun n =>
  a n || ((range 65 90 n) && a (n + 32)) || ((range 97 122 n) && a (n - 32))

/-- The bytes outside a set. -/
def complement (a : ByteSet) : ByteSet := fun n => !a n

/-- Whether a set holds ASCII characters only. -/
def isAscii (a : ByteSet) : Bool := (List.range 128).all fun n => !a (n + 128)

/-- The decimal digits. -/
def digits : ByteSet := range 48 57

/-- The letters. -/
def letters : ByteSet := (range 65 90).union (range 97 122)

/-- The letters, digits and the underscore. -/
def word : ByteSet := (letters.union digits).union (range 95 95)

/-- The blanks. -/
def blanks : ByteSet := (range 9 13).union (range 32 32)

/-- The class that has a name. -/
def named? : String → Option ByteSet
  | "alnum" => some (letters.union digits)
  | "alpha" => some letters
  | "ascii" => some (range 0 127)
  | "blank" => some ((range 9 9).union (range 32 32))
  | "cntrl" => some ((range 0 31).union (range 127 127))
  | "digit" => some digits
  | "graph" => some (range 33 126)
  | "lower" => some (range 97 122)
  | "print" => some (range 32 126)
  | "punct" => some ((((range 33 47).union (range 58 64)).union (range 91 96)).union
      (range 123 126))
  | "space" => some blanks
  | "upper" => some (range 65 90)
  | "word" => some word
  | "xdigit" => some ((digits.union (range 65 70)).union (range 97 102))
  | _ => none

end ByteSet

/-- How two lists of a bracket are combined. -/
inductive Combination
  /-- What both have. -/
  | intersection
  /-- What the first has and the second has not. -/
  | difference
  /-- What one of them has and the other has not. -/
  | symmetricDifference
  deriving DecidableEq, Repr

/-- A class of characters: the depth of its nesting and, where bytes are matched, its members. -/
structure CharClass where
  depth : Nat
  members : ByteSet

namespace CharClass

/-- A class with other letters of the same kind, if case does not matter. -/
def fold (flags : Flags) (c : CharClass) : CharClass :=
  if flags.ignoreCase then { c with members := c.members.foldCase } else c

/-- Two classes combined. -/
def combine (flags : Flags) (how : Combination) (a b : CharClass) : CharClass :=
  let x := (a.fold flags).members
  let y := (b.fold flags).members
  { depth := 1 + max a.depth b.depth
    members := match how with
      | .intersection => fun n => x n && y n
      | .difference => fun n => x n && !y n
      | .symmetricDifference => fun n => x n != y n }

/-- The class with the given bytes and no nesting, if it may stand in a bracket. -/
def ofMembers (flags : Flags) (members : ByteSet) : Option CharClass :=
  if flags.unicode then
    if flags.ignoreCase then none else some ⟨0, .empty⟩
  else some ⟨0, members⟩

/-- The byte of a character where bytes are matched. -/
def byte? (flags : Flags) : Atom → Option Nat
  | .literal c isByte =>
    if flags.unicode ∨ isByte ∨ c.toNat < 0x80 then some c.toNat else none
  | _ => none

/-- The class that one character or escape stands for. -/
def ofAtom (flags : Flags) : Atom → Option CharClass
  | .literal c isByte => do
    let n ← byte? flags (.literal c isByte)
    ofMembers flags (.range n n)
  | .property letter =>
    if flags.unicode then none
    else if letter = 'd' then some ⟨0, .digits⟩
    else if letter = 's' then some ⟨0, .blanks⟩
    else if letter = 'w' then some ⟨0, .word⟩
    else none
  | _ => none

/-- The class of all characters from one to another. -/
def ofRange (flags : Flags) (first last : Atom) : Option CharClass := do
  let a ← byte? flags first
  let b ← byte? flags last
  if a ≤ b then ofMembers flags (.range a b) else none

end CharClass

/-- A bracket that is still open. -/
structure Bracket where
  /-- It stands for the characters that it does not list. -/
  complement : Bool
  /-- The class before it, and how its own list is combined with that. -/
  before : Option (Combination × CharClass)
  /-- The number of things in its list. -/
  count : Nat
  /-- The list so far, its depth being that of the deepest thing in it. -/
  list : CharClass

namespace Bracket

/-- One more thing in the list. -/
def add (b : Bracket) (c : CharClass) : Bracket :=
  { b with count := b.count + 1
           list := ⟨max b.list.depth c.depth, b.list.members.union c.members⟩ }

/-- The class of the list, combined with the one before it. -/
def charClass (flags : Flags) (b : Bracket) : CharClass :=
  let list := if b.count < 2 then b.list else { b.list with depth := b.list.depth + 1 }
  match b.before with
  | none => list
  | some (how, c) => c.combine flags how list

/-- A new list begins, to be combined with what has been read. -/
def combine (flags : Flags) (b : Bracket) (how : Combination) : Bracket :=
  ⟨b.complement, some (how, b.charClass flags), 0, ⟨0, .empty⟩⟩

/-- The class that a bracket stands for when it is closed. -/
def close (flags : Flags) (b : Bracket) : Option CharClass :=
  let c := (b.charClass flags).fold flags
  let members := if b.complement then c.members.complement else c.members
  if flags.unicode ∨ members.isAscii = true then some ⟨c.depth + 1, members⟩ else none

/-- The hyphens at the front of a list stand for themselves; so many of them are read at most. -/
def readHyphens (flags : Flags) : Nat → Bracket → List Char → Option (Bracket × List Char)
  | 0, b, cs => some (b, cs)
  | n + 1, b, cs =>
    match cs with
    | '-' :: rest => do
      readHyphens flags n (b.add (← CharClass.ofAtom flags (.literal '-' false)))
        (skipBlanks flags false rest)
    | _ => some (b, cs)

/-- The beginning of a bracket, after the sign that opens it. A closing sign in the first place
stands for itself. -/
def start (flags : Flags) (cs : List Char) : Option (Bracket × List Char) := do
  let cs := skipBlanks flags false cs
  let (complement, cs) := match cs with
    | '^' :: rest => (true, skipBlanks flags false rest)
    | _ => (false, cs)
  let (b, cs) ← readHyphens flags cs.length ⟨complement, none, 0, ⟨0, .empty⟩⟩ cs
  match cs with
  | ']' :: rest =>
    if b.count = 0 then
      return (b.add (← CharClass.ofAtom flags (.literal ']' false)), skipBlanks flags false rest)
    else return (b, cs)
  | _ => return (b, cs)

/-- The class that is named between colons and brackets, after the first bracket. The second part
says that it stands for the characters outside of it. -/
def readNamed? (cs : List Char) : Option (ByteSet × Bool × List Char) := do
  let cs ← match cs with
    | ':' :: rest => some rest
    | _ => none
  let (outside, cs) := match cs with
    | '^' :: rest => (true, rest)
    | _ => (false, cs)
  let members ← ByteSet.named? (String.ofList (cs.takeWhile (· ≠ ':')))
  match cs.dropWhile (· ≠ ':') with
  | ':' :: ']' :: rest => return (members, outside, rest)
  | _ => none

/-- The class with a name: where bytes are matched, only ASCII characters may be left in. -/
def ofNamed (flags : Flags) (members : ByteSet) (outside : Bool) : Option CharClass :=
  if outside ∧ flags.unicode = false then none else CharClass.ofMembers flags members

/-- A character of a list, or an escape. -/
def readAtom (flags : Flags) : List Char → Option (Atom × List Char)
  | [] => none
  | '\\' :: rest => readEscape flags rest
  | c :: rest => some (.literal c false, rest)

/-- One thing in a list: a character, an escape or a range. A hyphen before a closing bracket or
before another hyphen makes no range. -/
def readRange (flags : Flags) (cs : List Char) : Option (CharClass × List Char) := do
  let (first, cs) ← readAtom flags cs
  match skipBlanks flags false cs with
  | '-' :: rest =>
    match skipBlanks flags false rest with
    | [] => none
    | ']' :: _ | '-' :: _ => return (← CharClass.ofAtom flags first, '-' :: rest)
    | c :: rest =>
      let (last, rest) ← readAtom flags (c :: rest)
      return (← CharClass.ofRange flags first last, rest)
  | rest => return (← CharClass.ofAtom flags first, rest)

/-- Read the rest of a bracket, inside those that are open around it, to the end of the outermost
one: its depth and what follows. -/
def readList (flags : Flags) :
    Nat → Bracket → List Bracket → List Char → Option (Nat × List Char)
  | 0, _, _, _ => none
  | fuel + 1, b, outer, cs =>
    match skipBlanks flags false cs with
    | [] => none
    | '[' :: rest =>
      match readNamed? rest with
      | some (members, outside, rest) => do
        readList flags fuel (b.add (← ofNamed flags members outside)) outer rest
      | none => do
        let (inner, rest) ← start flags rest
        readList flags fuel inner (b :: outer) rest
    | ']' :: rest => do
      let c ← b.close flags
      match outer with
      | [] => return (c.depth, rest)
      | around :: outer => readList flags fuel (around.add c) outer rest
    | '&' :: '&' :: rest => readList flags fuel (b.combine flags .intersection) outer rest
    | '-' :: '-' :: rest => readList flags fuel (b.combine flags .difference) outer rest
    | '~' :: '~' :: rest => readList flags fuel (b.combine flags .symmetricDifference) outer rest
    | c :: rest => do
      let (range, rest) ← readRange flags (c :: rest)
      readList flags fuel (b.add range) outer rest

/-- Read a bracket after the sign that opens it: the depth of its nesting and what follows. -/
def read (flags : Flags) (cs : List Char) : Option (Nat × List Char) := do
  let (b, rest) ← start flags cs
  readList flags (cs.length + 1) b [] rest

end Bracket

end SweepPlot.Text.Pattern
