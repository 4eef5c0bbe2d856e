import SweepPlot.Process.Task
import SweepPlot.Text.Decimal
import SweepPlot.Text.Split

/-!
# Utilities

A utility is a program that works on text: it is started under a name with arguments, and ends with
a code. This module has what utilities share: their complaints, their options and the files that
they read.
-/

namespace SweepPlot

/-- A program by what it does when it is started under a name with arguments. -/
abbrev Utility := List Char → List (List Char) → TaskM Nat

namespace Utility

/-- Write to the output. -/
def print (cs : List Char) : TaskM Unit := Task.write 1 cs

/-- Write a line to the error output under a name. -/
def complain (name message : List Char) : TaskM Unit :=
  Task.write 2 (name ++ ": ".toList ++ message ++ ['\n'])

/-- Complain about the arguments and end with a code. -/
def refuse (code : Nat) (message : List Char) : Utility := fun name _ => do
  complain name message
  Task.write 2 ("Try '".toList ++ name ++ " --help' for more information.\n".toList)
  return code

/-- A text between single quotes. -/
def quoted (cs : List Char) : List Char := ['\x27'] ++ cs ++ ['\x27']

/-- The number that a text of digits stands for. -/
def number? (cs : List Char) : Option Nat :=
  if cs ≠ [] ∧ cs.all Char.isDigit = true then some (Text.Decimal.value cs) else none

/-! ## Options -/

/-- The arguments of a utility: options with their values, and all else. -/
structure Arguments where
  options : List (Char × List Char)
  operands : List (List Char)
  deriving DecidableEq, Repr

namespace Arguments

/-- Arguments with one more option. -/
def addOption (c : Char) (value : List Char) (a : Arguments) : Arguments :=
  { a with options := (c, value) :: a.options }

/-- Sort arguments into options and operands, or complain about an option; `plain` are the letters
of options without a value, `valued` those of options with one. -/
def parse (plain valued : List Char) : List (List Char) → Except (List Char) Arguments
  | [] => .ok ⟨[], []⟩
  | ['-', '-'] :: rest => .ok ⟨[], rest⟩
  | ('-' :: c :: cs) :: rest =>
    if plain.contains c then
      if cs = [] then (parse plain valued rest).map (addOption c [])
      else (parse plain valued (('-' :: cs) :: rest)).map (addOption c [])
    else if valued.contains c then
      match cs, rest with
      | [], [] => .error ("option requires an argument -- ".toList ++ quoted [c])
      | [], value :: rest => (parse plain valued rest).map (addOption c value)
      | value, rest => (parse plain valued rest).map (addOption c value)
    else .error ("invalid option -- ".toList ++ quoted [c])
  | operand :: rest => (parse plain valued rest).map fun a =>
      { a with operands := operand :: a.operands }
termination_by args => args.length + args.flatten.length
decreasing_by all_goals simp; try omega

/-- Whether an option is given. -/
def has (a : Arguments) (letter : Char) : Bool := (a.options.lookup letter).isSome

end Arguments

/-- Go on with the arguments sorted, or refuse them with a code. -/
def withArguments (plain valued : String) (code : Nat) (go : List Char → Arguments → TaskM Nat) :
    Utility := fun name args =>
  match Arguments.parse plain.toList valued.toList args with
  | .ok a => go name a
  | .error message => refuse code message name args

/-! ## Files -/

/-- Complain about a file. -/
def complainAbout (name operand : List Char) (e : OsError) : TaskM Unit :=
  complain name (operand ++ ": ".toList ++ e.message.toList)

/-- The text of an operand: a hyphen stands for the input. -/
def textOf (operand : List Char) : TaskM (Except OsError (List Char)) :=
  if operand = ['-'] then Task.readAll 0 else Task.content (Text.ByteChars.toText operand)

/-- Do something with the text of each operand, and complain about those that cannot be read. -/
def overOperands (name : List Char) (each : List Char → TaskM Unit) :
    List (List Char) → TaskM Nat
  | [] => return 0
  | operand :: rest => do
    match ← textOf operand with
    | .ok text =>
      each text
      overOperands name each rest
    | .error e =>
      complainAbout name operand e
      return max 1 (← overOperands name each rest)

/-- Do something with the text of each operand, or of the input if there is none. -/
def overTexts (name : List Char) (each : List Char → TaskM Unit) (operands : List (List Char)) :
    TaskM Nat :=
  overOperands name each (if operands = [] then [['-']] else operands)

/-- A utility that hands on what it makes of each text. -/
def filter (plain : String) (code : Nat) (make : Arguments → List Char → List Char) : Utility :=
  withArguments plain "" code fun name a =>
    overTexts name (fun text => print (make a text)) a.operands

/-- A text cut after every line end. -/
def records (text : List Char) : List (List Char) :=
  let all := Text.pieces '\n' text
  let ended := all.dropLast.map (· ++ ['\n'])
  match all.getLast? with
  | some (c :: cs) => ended ++ [c :: cs]
  | _ => ended

/-- The lines of a text without their ends. -/
def lines (text : List Char) : List (List Char) := (records text).map (·.filter (· ≠ '\n'))

/-- Lines with an end each. -/
def unlines (ls : List (List Char)) : List Char := ls.flatMap (· ++ ['\n'])

/-- A number in so many places, with blanks before it. -/
def padded (width n : Nat) : List Char :=
  let digits := Text.Decimal.digits n
  List.replicate (width - digits.length) ' ' ++ digits

end Utility

end SweepPlot
