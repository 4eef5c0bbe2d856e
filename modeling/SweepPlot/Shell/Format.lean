import SweepPlot.Text.Decimal
import SweepPlot.Text.Hexadecimal

/-!
# Formats

`Format.echo` writes arguments with their escapes carried out. `Format.print` fills arguments into a
format, again and again as long as there are any.
-/

namespace SweepPlot.Shell.Format

/-! ## Escapes -/

/-- Whether a character is an octal digit. -/
def isOctal (c : Char) : Bool := '0' ≤ c && c ≤ '7'

/-- The number that digits stand for in a base below ten. -/
def inBase (base : Nat) (digits : List Char) : Nat :=
  digits.foldl (fun n c => n * base + (c.toNat - 48)) 0

/-- The character that a letter after a backslash stands for. -/
def letter? : Char → Option Char
  | 'a' => some '\x07'
  | 'b' => some '\x08'
  | 'e' => some '\x1b'
  | 'f' => some '\x0c'
  | 'n' => some '\n'
  | 'r' => some '\r'
  | 't' => some '\t'
  | 'v' => some '\x0b'
  | '\\' => some '\\'
  | _ => none

/-- The character that a backslash and what follows it stand for, and the rest. -/
def escape (cs : List Char) : Char × List Char :=
  match cs with
  | [] => ('\\', [])
  | c :: rest =>
    if isOctal c then
      let digits := (cs.take 3).takeWhile isOctal
      (Char.ofNat (inBase 8 digits % 256), cs.drop digits.length)
    else match letter? c with
      | some x => (x, rest)
      | none => ('\\', cs)

theorem length_escape_le (cs : List Char) : (escape cs).2.length ≤ cs.length := by
  unfold escape
  split
  · simp
  · split
    · simp
    · split <;> simp

/-- What follows a zero that stands before octal digits. -/
def withoutZero (cs : List Char) : List Char :=
  match cs with
  | '0' :: d :: more => if isOctal d then d :: more else cs
  | _ => cs

theorem length_withoutZero_le (cs : List Char) : (withoutZero cs).length ≤ cs.length := by
  unfold withoutZero
  split
  · split <;> simp
  · simp

/-- A text with its escapes carried out. An escaped `c` ends everything, which the second part
says; a zero may stand before three octal digits. -/
def unescape : List Char → List Char × Bool
  | [] => ([], false)
  | c :: rest =>
    if c ≠ '\\' then
      let (text, ended) := unescape rest
      (c :: text, ended)
    else if rest.head? = some 'c' then ([], true)
    else
      have := length_withoutZero_le rest
      have := length_escape_le (withoutZero rest)
      let (text, ended) := unescape (escape (withoutZero rest)).2
      ((escape (withoutZero rest)).1 :: text, ended)
termination_by cs => cs.length

/-- Arguments with their escapes carried out, blanks between them and an ending after them. -/
def echoWords (ending : List Char) : List (List Char) → List Char
  | [] => ending
  | w :: rest =>
    match unescape w with
    | (text, true) => text
    | (text, false) => text ++ if rest = [] then ending else ' ' :: echoWords ending rest

/-- What is written of the arguments of an `echo`. -/
def echo : List (List Char) → List Char
  | ['-', 'n'] :: args => echoWords [] args
  | args => echoWords ['\n'] args

/-! ## Directives -/

/-- A format that is being filled. -/
structure Filling where
  /-- The arguments that are left. -/
  arguments : List (List Char)
  /-- An argument has been used. -/
  used : Bool
  text : List Char
  complaints : List (List Char)
  deriving DecidableEq, Repr

/-- Why the filling of a format stops early. -/
inductive Halt
  /-- An argument ends everything. -/
  | ended
  | refused (message : List Char)
  deriving DecidableEq, Repr

/-- Work on the filling of a format. -/
abbrev FillM := ExceptT Halt (StateM Filling)

/-- Write a text. -/
def write (cs : List Char) : FillM Unit := modify fun f => { f with text := f.text ++ cs }

/-- Complain about an argument. -/
def complain (arg : List Char) (message : String) : FillM Unit :=
  modify fun f => { f with complaints := f.complaints ++ [arg ++ ": ".toList ++ message.toList] }

/-- The next argument, which is empty if there is none. -/
def argument : FillM (List Char) := do
  let f ← get
  match f.arguments with
  | [] => return []
  | w :: rest =>
    set { f with arguments := rest, used := true }
    return w

/-- The next argument as a decimal number with a sign. -/
def number : FillM Int := do
  let w ← argument
  let (negative, cs) := match w with
    | '-' :: rest => (true, rest)
    | _ => (false, w)
  let digits := cs.takeWhile Char.isDigit
  if digits.length ≠ cs.length then
    complain w (if digits = [] then "expected numeric value" else "not completely converted")
  let n : Int := Text.Decimal.value digits
  return if negative then -n else n

/-- The next argument as a number without a sign: a negative one wraps around. -/
def unsigned : FillM Nat := do return ((← number) % 18446744073709551616).toNat

/-- A value with blanks or zeros up to a width. -/
def padded (flags : List Char) (width : Nat) (isNumber : Bool) (cs : List Char) : List Char :=
  let missing := width - cs.length
  if flags.contains '-' then cs ++ List.replicate missing ' '
  else if isNumber && flags.contains '0' then
    let sign := cs.takeWhile (· == '-')
    sign ++ List.replicate missing '0' ++ cs.drop sign.length
  else List.replicate missing ' ' ++ cs

/-- The value of the next argument as a letter says, whether it is a number, and whether it ends
everything. -/
def convert (letter : Char) : FillM (Option (List Char × Bool × Bool)) := do
  match letter with
  | 's' => return some (← argument, false, false)
  | 'c' => return some ((← argument).take 1, false, false)
  | 'b' =>
    let (cs, ended) := unescape (← argument)
    return some (cs, false, ended)
  | 'd' | 'i' => return some (Text.Decimal.ofInt (← number), true, false)
  | 'u' => return some (Text.Decimal.digits (← unsigned), true, false)
  | 'o' => return some (Nat.toDigits 8 (← unsigned), true, false)
  | 'x' => return some (Text.Hexadecimal.digits (← unsigned), true, false)
  | 'X' => return some ((Text.Hexadecimal.digits (← unsigned)).map Char.toUpper, true, false)
  | _ => return none

/-- Carry out the directive at the front of a format, after its sign; the rest. -/
def directive (cs : List Char) : FillM (List Char) := do
  let flags := cs.takeWhile fun c => c == '-' || c == '0'
  let width := (cs.drop flags.length).takeWhile Char.isDigit
  match cs.drop (flags.length + width.length) with
  | [] => throw (.refused "missing format character".toList)
  | letter :: rest =>
    match ← convert letter with
    | none =>
      throw (.refused ('%' :: flags ++ width ++ letter :: ": invalid directive".toList))
    | some (value, isNumber, ended) =>
      write (padded flags (Text.Decimal.value width) isNumber value)
      if ended then throw .ended
      return rest

/-- Fill in a format once. -/
def pass : Nat → List Char → FillM Unit
  | 0, _ => return ()
  | fuel + 1, cs => do
    match cs with
    | [] => return ()
    | '\\' :: rest =>
      let (c, rest) := escape rest
      write [c]
      pass fuel rest
    | '%' :: '%' :: rest =>
      write ['%']
      pass fuel rest
    | '%' :: rest => pass fuel (← directive rest)
    | c :: rest =>
      write [c]
      pass fuel rest

/-- Fill in a format, and once more as long as arguments are used and some are left. -/
def passes (format : List Char) : Nat → FillM Unit
  | 0 => return ()
  | fuel + 1 => do
    pass (format.length + 1) format
    let f ← get
    if f.used ∧ f.arguments ≠ [] then passes format fuel

/-- Fill arguments into a format: the text and the complaints about arguments, and why the format is
refused. -/
def print (format : List Char) (arguments : List (List Char)) : Filling × Option (List Char) :=
  let (outcome, f) := (passes format (arguments.length + 1)).run ⟨arguments, false, [], []⟩
  match outcome with
  | .error (.refused message) => (f, some message)
  | _ => (f, none)

end SweepPlot.Shell.Format
