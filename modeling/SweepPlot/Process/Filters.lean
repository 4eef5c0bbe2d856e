import SweepPlot.Process.Utility

/-!
# Filters

Utilities that hand text on: `cat` and `tee` copy their input, `head` and `tail` cut a part out of
it, `tac`, `rev`, `sort`, `uniq` and `nl` change its lines, and `wc` counts. `echo` and `sleep` do
not look at it.
-/

namespace SweepPlot.Utility

/-- Write the arguments. -/
def echo : Utility := fun _ args => do
  print ([' '].intercalate args ++ ['\n'])
  return 0

/-- Wait: no time is counted. -/
def sleep : Utility := fun name args =>
  if args = [] then refuse 1 "missing operand".toList name args else return 0

/-- Copy the files to the output. -/
def cat : Utility := filter "u" 1 fun _ text => text

/-- Write a text to each of some files. -/
def writeFiles (name : List Char) (mode : OpenMode) (text : List Char) :
    List (List Char) → TaskM Nat
  | [] => return 0
  | file :: rest => do
    let code ← match ← Task.openFile mode (Text.ByteChars.toText file) with
      | .ok id => do
        Task.attach 3 id
        Task.write 3 text
        Task.close 3
        pure 0
      | .error e => do
        complainAbout name file e
        pure 1
    return max code (← writeFiles name mode text rest)

/-- Copy the input to the output and to files. -/
def tee : Utility := withArguments "a" "" 1 fun name a => do
  match ← Task.readAll 0 with
  | .error e => do
    complain name ("read error: ".toList ++ e.message.toList)
    return 1
  | .ok text => do
    print text
    writeFiles name (if a.has 'a' then .appending else .writing) text a.operands

/-! ## Parts of a text -/

/-- How much of a text the options of `head` or `tail` ask for: a number of bytes or of lines. -/
inductive Amount
  | bytes (n : Nat)
  | lines (n : Nat)
  deriving DecidableEq, Repr

/-- The amount that options ask for, or a complaint about the number. -/
def Amount.ofArguments (a : Arguments) : Except (List Char) Amount :=
  let read (unit : String) (build : Nat → Amount) (written : List Char) :
      Except (List Char) Amount :=
    match number? written with
    | some n => .ok (build n)
    | none => .error ("invalid number of ".toList ++ unit.toList ++ ": ".toList ++ quoted written)
  match a.options.getLast? with
  | some ('c', written) => read "bytes" .bytes written
  | some (_, written) => read "lines" .lines written
  | none => .ok (.lines 10)

/-- The front of a text. -/
def Amount.front (amount : Amount) (text : List Char) : List Char :=
  match amount with
  | .bytes n => text.take n
  | .lines n => ((records text).take n).flatten

/-- The end of a text. -/
def Amount.back (amount : Amount) (text : List Char) : List Char :=
  match amount with
  | .bytes n => text.drop (text.length - n)
  | .lines n =>
    let all := records text
    (all.drop (all.length - n)).flatten

/-- The number of lines may be given in short: `-5` for `-n 5`. -/
def expandCount : List (List Char) → List (List Char)
  | ('-' :: digits) :: rest =>
    if (number? digits).isSome then ['-', 'n'] :: digits :: rest else ('-' :: digits) :: rest
  | args => args

/-- The number of bytes that are read at once. -/
def blockSize : Nat := 8192

/-- Read the front of the input. Of a pipe whole blocks are read, of a file no more than needed. -/
def Amount.readFront (amount : Amount) : TaskM (Except OsError (List Char)) := do
  let isFile : Bool := match (← get).stream? 0 with
    | some (_, .file ..) => true
    | _ => false
  let taken (bytes : Bytes) : Bytes :=
    let n := (amount.front (Text.ByteChars.ofBytes bytes)).length
    bytes.take (if isFile then n else (n + blockSize - 1) / blockSize * blockSize)
  return (← Task.readFront taken 0).map amount.front

/-- Cut a part out of the input, or out of files. -/
def part (atFront : Bool) : Utility := fun name args =>
  withArguments "" "nc" 1 (fun name a =>
    match Amount.ofArguments a with
    | .error message => do
      complain name message
      return 1
    | .ok amount =>
      if atFront ∧ a.operands = [] then do
        match ← amount.readFront with
        | .ok text => do
          print text
          return 0
        | .error e => do
          complainAbout name "error reading 'standard input'".toList e
          return 1
      else overTexts name
        (fun text => print (if atFront then amount.front text else amount.back text)) a.operands)
    name (expandCount args)

/-- The front of a text. -/
def head : Utility := part true

/-- The end of a text. -/
def tail : Utility := part false

/-! ## Lines -/

/-- The lines of the files, the last one first. -/
def tac : Utility := filter "" 1 fun _ text => (records text).reverse.flatten

/-- Every line backwards. -/
def rev : Utility := filter "" 1 fun _ text =>
  (records text).flatMap fun record =>
    let line := record.filter (· ≠ '\n')
    line.reverse ++ record.drop line.length

/-- The lines in order. -/
def sort : Utility := filter "r" 2 fun a text =>
  let before (x y : List Char) : Bool := String.ofList x ≤ String.ofList y
  unlines ((lines text).mergeSort fun x y => if a.has 'r' then before y x else before x y)

/-- Lines of which no two that follow each other are equal. -/
def uniq : Utility := filter "" 1 fun _ text =>
  unlines (((lines text).splitBy (· == ·)).flatMap (·.take 1))

/-- Lines with numbers before them, from one number on; empty ones have none. -/
def numbered (n : Nat) : List (List Char) → List (List Char)
  | [] => []
  | [] :: rest => List.replicate 7 ' ' :: numbered n rest
  | l :: rest => (padded 6 n ++ ['\t'] ++ l) :: numbered (n + 1) rest

/-- The lines with numbers. -/
def nl : Utility := filter "" 1 fun _ text => unlines (numbered 1 (lines text))

/-! ## Counts -/

/-- What separates words. -/
def isGap (c : Char) : Bool := c == ' ' || (9 ≤ c.toNat && c.toNat ≤ 13)

/-- The words of a text. -/
def words (text : List Char) : List (List Char) :=
  (text.splitBy fun a b => isGap a == isGap b).filter fun w => !w.all isGap

/-- The numbers of lines, words and bytes in a text, as far as options ask for them. -/
def counts (a : Arguments) (text : List Char) : List Nat :=
  let all := [('l', text.count '\n'), ('w', (words text).length), ('c', text.length)]
  (all.filter fun (letter, _) => a.options.isEmpty || a.has letter).map (·.2)

/-- Numbers in a line; several ones stand in columns. -/
def countLine : List Nat → List Char
  | [n] => Text.Decimal.digits n ++ ['\n']
  | ns => [' '].intercalate (ns.map (padded 7)) ++ ['\n']

/-- Count lines, words and bytes. -/
def wc : Utility := filter "lwc" 1 fun a text => countLine (counts a text)

end SweepPlot.Utility
