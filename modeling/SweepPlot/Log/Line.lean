import SweepPlot.Config
import SweepPlot.Journal

/-!
# Log lines

A message becomes a line of text: as plain words, or as an object of named texts.
-/

namespace SweepPlot.LogLine

/-- The characters of one character inside a quoted text of an object. -/
def objectChar (c : Char) : List Char :=
  if c = '"' ∨ c = '\\' then ['\\', c]
  else if c = '\n' then ['\\', 'n']
  else if c = '\r' then ['\\', 'r']
  else if c = '\t' then ['\\', 't']
  else if c = '\x08' then ['\\', 'b']
  else if c = '\x0c' then ['\\', 'f']
  else if c.toNat < 0x20 then
    let digits := Text.Hexadecimal.digits c.toNat
    ['\\', 'u'] ++ List.replicate (4 - digits.length) '0' ++ digits
  else [c]

/-- A text inside an object. -/
def objectText (s : String) : String :=
  "\"" ++ String.ofList (s.toList.flatMap objectChar) ++ "\""

/-- An object of named members. -/
def object (members : List (String × String)) : String :=
  "\x7b" ++ ",".intercalate (members.map fun (name, value) => objectText name ++ ":" ++ value) ++
    "\x7d"

/-- A message as an object. -/
def jsonLine (c : LoggingConfig) (now : String) (e : LogEntry) : String :=
  object
    ((if c.timestamps then [("timestamp", objectText now)] else []) ++
      [("level", objectText e.level.display),
       ("fields", object [("message", objectText e.message)])] ++
      (if c.target then [("target", objectText e.source.path)] else []))

/-- The characters of one character in a plain line: control characters become escapes, so that a
message cannot steer the terminal. -/
def plainChar (c : Char) : List Char :=
  let n := c.toNat
  if n = 0x1b ∨ n = 0x07 ∨ n = 0x08 ∨ n = 0x0c ∨ n = 0x7f then
    let digits := Text.Hexadecimal.digits n
    ['\\', 'x'] ++ List.replicate (2 - digits.length) '0' ++ digits
  else if 0x80 ≤ n ∧ n ≤ 0x9f then ['\\', 'u', '\x7b'] ++ Text.Hexadecimal.digits n ++ ['\x7d']
  else [c]

/-- A message as plain words: the level in five columns, the part of the program if asked for, and
the text. -/
def plainLine (c : LoggingConfig) (now : String) (e : LogEntry) : String :=
  let level := e.level.display
  (if c.timestamps then now ++ " " else "") ++
    String.ofList (List.replicate (5 - level.length) ' ') ++ level ++ " " ++
    (if c.target then e.source.path ++ ": " else "") ++
    String.ofList (e.message.toList.flatMap plainChar)

/-- The line of a message. -/
def line (c : LoggingConfig) (now : String) (e : LogEntry) : String :=
  match c.format with
  | .json => jsonLine c now e
  | .pretty | .compact => plainLine c now e

end SweepPlot.LogLine
