import SweepPlot.Text.Hexadecimal
import SweepPlot.Toml.Value

/-!
# Reading keys and values

A reader takes the characters of a document and gives what it read together with the characters
that follow, or nothing if the document breaks the rules. The readers of this module cover blanks,
comments, the four kinds of strings, keys, numbers, dates, arrays and tables in braces.
-/

namespace SweepPlot.Toml

/-- Takes something from the front of a text. -/
abbrev Reader (α : Type) := List Char → Option (α × List Char)

namespace Reader

/-! ## Characters -/

/-- A blank within a line. -/
def isBlank (c : Char) : Bool := c == ' ' || c == '\t'

/-- A character that may stand in a comment, and in a string unless it has a meaning there. -/
def isPlain (c : Char) : Bool :=
  c == '\t' || (0x20 ≤ c.toNat && c.toNat ≤ 0x7e) || 0x80 ≤ c.toNat

/-- A character of a key without quotes. -/
def isBareKey (c : Char) : Bool := c.isAlphanum || c == '-' || c == '_'

/-- A character of a number, a date or a word. -/
def isScalar (c : Char) : Bool :=
  c.isAlphanum || c == '-' || c == '_' || c == '+' || c == '.' || c == ':'

/-- What follows the blanks at the front. -/
def skipBlanks (cs : List Char) : List Char := cs.dropWhile isBlank

/-- What follows the line end at the front. -/
def newline? : List Char → Option (List Char)
  | '\n' :: rest => some rest
  | '\r' :: '\n' :: rest => some rest
  | _ => none

/-- What follows the comment at the front, if there is one. -/
def skipComment : List Char → List Char
  | '#' :: rest => rest.dropWhile isPlain
  | cs => cs

/-- What follows the rest of a line that holds at most blanks and a comment. -/
def endOfLine? (cs : List Char) : Option (List Char) :=
  match skipComment (skipBlanks cs) with
  | [] => some []
  | rest => newline? rest

/-- What follows the blanks, line ends and comments at the front. -/
def skipLines : Nat → List Char → Option (List Char)
  | 0, _ => none
  | fuel + 1, cs =>
    match skipBlanks cs with
    | '#' :: rest => do skipLines fuel (← newline? (rest.dropWhile isPlain))
    | '\n' :: rest => skipLines fuel rest
    | '\r' :: rest => do skipLines fuel (← newline? ('\r' :: rest))
    | rest => some rest

/-! ## Strings -/

/-- The character that a letter after a backslash stands for. -/
def letterEscape? : Char → Option Char
  | 'b' => some '\x08'
  | 't' => some '\t'
  | 'n' => some '\n'
  | 'f' => some '\x0c'
  | 'r' => some '\r'
  | '"' => some '"'
  | '\\' => some '\\'
  | _ => none

/-- One more character at the front of what was read. -/
def andThen (c : Char) : Option (List Char × List Char) → Option (List Char × List Char)
  | some (s, rest) => some (c :: s, rest)
  | none => none

/-- The rest of a string in double quotes. -/
def basicBody : List Char → Option (List Char × List Char)
  | '"' :: rest => some ([], rest)
  | '\\' :: 'u' :: a :: b :: c :: d :: rest =>
    match Text.Hexadecimal.char? [a, b, c, d] with
    | some x => andThen x (basicBody rest)
    | none => none
  | '\\' :: 'U' :: a :: b :: c :: d :: e :: f :: g :: h :: rest =>
    match Text.Hexadecimal.char? [a, b, c, d, e, f, g, h] with
    | some x => andThen x (basicBody rest)
    | none => none
  | '\\' :: c :: rest =>
    match letterEscape? c with
    | some x => andThen x (basicBody rest)
    | none => none
  | c :: rest => if isPlain c then andThen c (basicBody rest) else none
  | [] => none

/-- The rest of a string in single quotes. -/
def literalBody : List Char → Option (List Char × List Char)
  | '\x27' :: rest => some ([], rest)
  | c :: rest => if isPlain c then andThen c (literalBody rest) else none
  | [] => none

/-- The rest of a string of several lines in double quotes. While `folding` holds, blanks and line
ends are passed over, as they are after a backslash at the end of a line. -/
def multilineBasicBody (folding : Bool) : List Char → Option (List Char × List Char)
  | '\n' :: rest =>
    if folding then multilineBasicBody true rest else andThen '\n' (multilineBasicBody false rest)
  | '\r' :: '\n' :: rest =>
    if folding then multilineBasicBody true rest else andThen '\n' (multilineBasicBody false rest)
  | '"' :: '"' :: '"' :: '"' :: '"' :: rest => some (['"', '"'], rest)
  | '"' :: '"' :: '"' :: '"' :: rest => some (['"'], rest)
  | '"' :: '"' :: '"' :: rest => some ([], rest)
  | '\\' :: 'u' :: a :: b :: c :: d :: rest =>
    match Text.Hexadecimal.char? [a, b, c, d] with
    | some x => andThen x (multilineBasicBody false rest)
    | none => none
  | '\\' :: 'U' :: a :: b :: c :: d :: e :: f :: g :: h :: rest =>
    match Text.Hexadecimal.char? [a, b, c, d, e, f, g, h] with
    | some x => andThen x (multilineBasicBody false rest)
    | none => none
  | '\\' :: c :: rest =>
    match letterEscape? c with
    | some x => andThen x (multilineBasicBody false rest)
    | none =>
      if (newline? (skipBlanks (c :: rest))).isSome then multilineBasicBody true (c :: rest)
      else none
  | c :: rest =>
    if folding = true ∧ isBlank c = true then multilineBasicBody true rest
    else if isPlain c then andThen c (multilineBasicBody false rest)
    else none
  | [] => none

/-- The rest of a string of several lines in single quotes. -/
def multilineLiteralBody : List Char → Option (List Char × List Char)
  | '\n' :: rest => andThen '\n' (multilineLiteralBody rest)
  | '\r' :: '\n' :: rest => andThen '\n' (multilineLiteralBody rest)
  | '\x27' :: '\x27' :: '\x27' :: '\x27' :: '\x27' :: rest => some (['\x27', '\x27'], rest)
  | '\x27' :: '\x27' :: '\x27' :: '\x27' :: rest => some (['\x27'], rest)
  | '\x27' :: '\x27' :: '\x27' :: rest => some ([], rest)
  | c :: rest => if isPlain c then andThen c (multilineLiteralBody rest) else none
  | [] => none

/-- The text without a line end at its front. -/
def dropNewline (cs : List Char) : List Char := (newline? cs).getD cs

/-- A string of any kind. -/
def string : Reader String := fun cs => do
  let (s, rest) ← match cs with
    | '"' :: '"' :: '"' :: rest => multilineBasicBody false (dropNewline rest)
    | '"' :: rest => basicBody rest
    | '\x27' :: '\x27' :: '\x27' :: rest => multilineLiteralBody (dropNewline rest)
    | '\x27' :: rest => literalBody rest
    | _ => none
  return (String.ofList s, rest)

/-! ## Keys -/

/-- The number of levels that keys and values may be nested. -/
def maxDepth : Nat := 80

/-- One part of a key. -/
def simpleKey : Reader String := fun cs =>
  match cs with
  | '"' :: rest => (basicBody rest).map fun (s, r) => (String.ofList s, r)
  | '\x27' :: rest => (literalBody rest).map fun (s, r) => (String.ofList s, r)
  | _ =>
    let name := cs.takeWhile isBareKey
    if name = [] then none else some (String.ofList name, cs.dropWhile isBareKey)

/-- The parts of a key, at most so many, with dots between them and blanks around each part. -/
def keyParts : Nat → Reader (List String)
  | 0, _ => none
  | limit + 1, cs => do
    let (part, rest) ← simpleKey (skipBlanks cs)
    match skipBlanks rest with
    | '.' :: rest =>
      let (parts, rest) ← keyParts limit rest
      return (part :: parts, rest)
    | rest => return ([part], rest)

/-- A key: the parts before the last one, and the last one. -/
def key : Reader (List String × String) := fun cs => do
  let (parts, rest) ← keyParts (maxDepth - 1) cs
  return ((parts.dropLast, ← parts.getLast?), rest)

/-! ## Numbers, dates and words -/

/-- Digits with single underscores between them, for the given digits; the underscores are left
out. -/
def digitRun (isDigit : Char → Bool) : Reader (List Char)
  | [] => none
  | c :: cs =>
    if isDigit c = false then none
    else match cs with
      | '_' :: d :: rest =>
        if isDigit d then (digitRun isDigit (d :: rest)).map fun (ds, r) => (c :: ds, r)
        else some ([c], cs)
      | d :: rest =>
        if isDigit d then (digitRun isDigit (d :: rest)).map fun (ds, r) => (c :: ds, r)
        else some ([c], cs)
      | [] => some ([c], [])

/-- A sign at the front, if there is one: whether it is a minus. -/
def sign : List Char → Bool × List Char
  | '-' :: rest => (true, rest)
  | '+' :: rest => (false, rest)
  | cs => (false, cs)

/-- The digits of a whole number in decimal, which has no leading zero. -/
def wholeDigits : Reader (List Char)
  | '0' :: rest => some (['0'], rest)
  | cs => digitRun Char.isDigit cs

/-- A whole number in a base given by its letter. -/
def baseInteger? (letter : Char) (digits : List Char) : Option Int := do
  let base ← match letter with
    | 'x' => some 16
    | 'o' => some 8
    | 'b' => some 2
    | _ => none
  let isDigit (c : Char) : Bool := match Text.Hexadecimal.value? c with
    | some v => v < base
    | none => false
  match ← digitRun isDigit digits with
  | (ds, []) => some (ds.foldl (fun n c => n * base + (Text.Hexadecimal.value? c).getD 0) 0 : Nat)
  | _ => none

/-- Whether a whole number fits in 64 bits with sign. -/
def fits (n : Int) : Bool := Int64.minValue.toInt ≤ n && n ≤ Int64.maxValue.toInt

/-- The whole number that a word stands for. -/
def integer? (cs : List Char) : Option Value := do
  let n ← match cs with
    | '0' :: letter :: digits =>
      if letter.isDigit then none else baseInteger? letter digits
    | _ =>
      let (negative, rest) := sign cs
      match ← wholeDigits rest with
      | (ds, []) =>
        let n : Int := Text.Decimal.value ds
        some (if negative then -n else n)
      | _ => none
  if fits n then some (.integer n) else none

/-- The power of ten at the end of a number. -/
def exponent? : List Char → Option Int
  | [] => some 0
  | c :: cs =>
    if c = 'e' ∨ c = 'E' then
      let (negative, rest) := sign cs
      match digitRun Char.isDigit rest with
      | some (ds, []) =>
        let n : Int := Text.Decimal.value ds
        some (if negative then -n else n)
      | _ => none
    else none

/-- The floating-point number that a word stands for. One that is too large is refused, unless it
is negative. -/
def float? (cs : List Char) : Option Value := do
  let (negative, rest) := sign cs
  if rest = "inf".toList then some (.float (.infinite negative))
  else if rest = "nan".toList then some (.float .nan)
  else
    let (whole, rest) ← wholeDigits rest
    let (fractional, rest) ← match rest with
      | '.' :: rest => digitRun Char.isDigit rest
      | [] => none
      | _ => some ([], rest)
    let e ← exponent? rest
    let x := Text.Binary64.ofDecimal negative (Text.Decimal.value (whole ++ fractional))
      (e - fractional.length)
    if x = .infinite false then none else some (.float x)

/-- A number of exactly so many digits in a range. -/
def digitsIn (count low high : Nat) : Reader Nat := fun cs =>
  let ds := cs.take count
  let n := Text.Decimal.value ds
  if ds.length = count ∧ ds.all Char.isDigit = true ∧ low ≤ n ∧ n ≤ high then
    some (n, cs.drop count)
  else none

/-- The character at the front. -/
def char (c : Char) : Reader Unit
  | d :: rest => if c = d then some ((), rest) else none
  | [] => none

/-- The number of days of a month. -/
def daysInMonth (year month : Nat) : Nat :=
  if month = 2 then
    if year % 4 = 0 ∧ (year % 100 ≠ 0 ∨ year % 400 = 0) then 29 else 28
  else if month = 4 ∨ month = 6 ∨ month = 9 ∨ month = 11 then 30
  else 31

/-- A date. -/
def date : Reader Unit := fun cs => do
  let (year, cs) ← digitsIn 4 0 9999 cs
  let ((), cs) ← char '-' cs
  let (month, cs) ← digitsIn 2 1 12 cs
  let ((), cs) ← char '-' cs
  let (_, cs) ← digitsIn 2 1 (daysInMonth year month) cs
  return ((), cs)

/-- A time of day. -/
def time : Reader Unit := fun cs => do
  let (_, cs) ← digitsIn 2 0 23 cs
  let ((), cs) ← char ':' cs
  let (_, cs) ← digitsIn 2 0 59 cs
  let ((), cs) ← char ':' cs
  let (_, cs) ← digitsIn 2 0 60 cs
  match cs with
  | '.' :: rest =>
    if (rest.takeWhile Char.isDigit) = [] then none else return ((), rest.dropWhile Char.isDigit)
  | _ => return ((), cs)

/-- What may stand after a time: nothing, or the distance from universal time. -/
def offset? (cs : List Char) : Option Unit :=
  match cs with
  | [] => some ()
  | ['Z'] | ['z'] => some ()
  | c :: rest =>
    if c = '+' ∨ c = '-' then do
      let (_, rest) ← digitsIn 2 0 23 rest
      let ((), rest) ← char ':' rest
      let (_, rest) ← digitsIn 2 0 59 rest
      if rest = [] then some () else none
    else none

/-- The date or time that a word stands for. -/
def datetime? (cs : List Char) : Option Value :=
  match date cs with
  | some ((), []) => some (.datetime (String.ofList cs))
  | some ((), c :: rest) =>
    if c = 'T' ∨ c = 't' ∨ c = ' ' then do
      let ((), rest) ← time rest
      let () ← offset? rest
      return .datetime (String.ofList cs)
    else none
  | none =>
    match time cs with
    | some ((), []) => some (.datetime (String.ofList cs))
    | _ => none

/-- The value that a word stands for. -/
def word? (cs : List Char) : Option Value :=
  if cs = "true".toList then some (.boolean true)
  else if cs = "false".toList then some (.boolean false)
  else (datetime? cs).orElse fun () => (float? cs).orElse fun () => integer? cs

/-- A number, a date or a truth value. A date and the time after it may have a blank between
them. -/
def scalar : Reader Value := fun cs => do
  let first := cs.takeWhile isScalar
  let rest := cs.dropWhile isScalar
  match date first, rest with
  | some ((), []), ' ' :: d :: more =>
    if d.isDigit then
      let second := (d :: more).takeWhile isScalar
      return (← word? (first ++ ' ' :: second), (d :: more).dropWhile isScalar)
    else return (← word? first, rest)
  | _, _ => return (← word? first, rest)

/-! ## Values -/

mutual

/-- A value at a depth. Twice the number of characters and two more are fuel enough. -/
def value (depth : Nat) : Nat → Reader Value
  | 0, _ => none
  | fuel + 1, cs =>
    match cs with
    | '"' :: _ | '\x27' :: _ => (string cs).map fun (s, r) => (.string s, r)
    | '[' :: rest =>
      if maxDepth ≤ depth + 1 then none
      else (items (depth + 1) fuel rest).map fun (vs, r) => (.array false vs, r)
    | '\x7b' :: rest =>
      if maxDepth ≤ depth + 1 then none
      else match skipBlanks rest with
        | '\x7d' :: rest => some (.table .braces [], rest)
        | _ => (pairs (depth + 1) fuel [] rest).map fun (es, r) => (.table .braces es, r)
    | _ => scalar cs

/-- The items of an array up to its bracket. -/
def items (depth : Nat) : Nat → Reader (List Value)
  | 0, _ => none
  | fuel + 1, cs =>
    match skipLines fuel cs with
    | none => none
    | some (']' :: rest) => some ([], rest)
    | some cs =>
      match value depth fuel cs with
      | none => none
      | some (v, rest) =>
        match skipLines fuel rest with
        | some (',' :: rest) => (items depth fuel rest).map fun (vs, r) => (v :: vs, r)
        | some (']' :: rest) => some ([v], rest)
        | _ => none

/-- The pairs of a table in braces up to its brace, after those read before. -/
def pairs (depth : Nat) : Nat → Entries → Reader Entries
  | 0, _, _ => none
  | fuel + 1, es, cs =>
    match key cs with
    | some ((path, name), '=' :: rest) =>
      match value depth fuel (skipBlanks rest) with
      | none => none
      | some (v, rest) =>
        match es.bind true path name v .braces with
        | none => none
        | some es =>
          match skipBlanks rest with
          | ',' :: rest => pairs depth fuel es rest
          | '\x7d' :: rest => some (es, rest)
          | _ => none
    | _ => none

end

end Reader

end SweepPlot.Toml
