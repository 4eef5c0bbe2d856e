import SweepPlot.Text.Hexadecimal
import SweepPlot.Text.Split

/-!
# Single characters of regular expressions

`Flags` say how the text of an expression is read. `readEscape` reads what follows a backslash, and
`skipBlanks` passes over what means nothing in an expression that is written with blanks.
-/

namespace SweepPlot.Text.Pattern

/-- How the text of an expression is read. -/
structure Flags where
  /-- Letters of either case are the same. -/
  ignoreCase : Bool
  /-- Characters are matched, and not bytes. -/
  unicode : Bool
  /-- Blanks and comments mean nothing. -/
  verbose : Bool
  deriving DecidableEq, Repr

namespace Flags

/-- How the text is read at first. -/
def standard : Flags := ⟨false, true, false⟩

end Flags

/-- What one character, or one escape, stands for. -/
inductive Atom
  /-- A character; `isByte` says that it is written as the two digits of a byte. -/
  | literal (c : Char) (isByte : Bool)
  /-- The class of the digits, the blanks or the letters, or what is outside of it. -/
  | property (letter : Char)
  | any
  /-- The beginning or the end of the text or of a line. -/
  | edge
  /-- A place where a word begins or ends, or where none does. -/
  | wordEdge
  deriving DecidableEq, Repr

/-- What follows blanks and comments if they mean nothing. A comment runs to the end of its line;
`comment` says that one has begun. -/
def skipBlanks (flags : Flags) (comment : Bool) : List Char → List Char
  | [] => []
  | c :: cs =>
    if flags.verbose = false then c :: cs
    else if comment then skipBlanks flags (c ≠ '\n') cs
    else if c = '#' then skipBlanks flags true cs
    else if isWhiteSpace c then skipBlanks flags false cs
    else c :: cs

/-- The next characters, blanks between them skipped: so many of them. -/
def takeChars (flags : Flags) : Nat → List Char → Option (List Char × List Char)
  | 0, cs => some ([], cs)
  | n + 1, cs =>
    match skipBlanks flags false cs with
    | [] => none
    | c :: rest => (takeChars flags n rest).map fun (taken, rest) => (c :: taken, rest)

/-- The number of hexadecimal digits that a letter after a backslash announces. -/
def codeLength? : Char → Option Nat
  | 'x' => some 2
  | 'u' => some 4
  | 'U' => some 8
  | _ => none

/-- The character that a letter after a backslash stands for. -/
def letterEscape? : Char → Option Char
  | 'a' => some '\x07'
  | 'f' => some '\x0c'
  | 't' => some '\t'
  | 'n' => some '\n'
  | 'r' => some '\r'
  | 'v' => some '\x0b'
  | _ => none

/-- Read what follows a backslash. The classes of a named property are not part of the language,
and neither is a reference to a group. -/
def readEscape (flags : Flags) : List Char → Option (Atom × List Char)
  | [] => none
  | c :: cs =>
    match codeLength? c, letterEscape? c with
    | some n, _ => do
      let (digits, rest) ← takeChars flags n cs
      let char ← Hexadecimal.char? digits
      return (.literal char (n == 2), skipBlanks flags false rest)
    | none, some char => some (.literal char false, cs)
    | none, none =>
      if "dswDSW".toList.contains c then some (.property c, cs)
      else if c = 'A' ∨ c = 'z' then some (.edge, cs)
      else if "bB<>".toList.contains c then some (.wordEdge, cs)
      else if c.toNat < 0x80 ∧ c.isAlphanum = false then some (.literal c false, cs)
      else none

end SweepPlot.Text.Pattern
