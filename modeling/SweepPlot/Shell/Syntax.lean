import SweepPlot.Process.Task

/-!
# Commands of the shell

A script is read as commands. A command is made of words, and a word of parts that are expanded when
the command runs. Of the language of the shell there is what scripts need that stand in for a
plotting program: quotations, parameters, sums, redirections, pipes, the compound commands and
functions. Patterns for the names of files, aliases, traps and jobs are left out.
-/

namespace SweepPlot.Shell

/-- What is done with the value of a parameter; `orNull` counts an empty value as missing. -/
inductive Operation
  | value
  /-- Another word stands in for a missing value. -/
  | fallback (orNull : Bool)
  /-- The other word also becomes the value. -/
  | assign (orNull : Bool)
  /-- The shell gives up if the value is missing. -/
  | require (orNull : Bool)
  /-- Another word is used unless the value is missing. -/
  | replace (orNull : Bool)
  /-- No operation is written like this. -/
  | unknown
  deriving DecidableEq, Repr, Inhabited

mutual

/-- A part of a word. `quoted` says that it stands in a quotation. -/
inductive Part
  | char (c : Char) (quoted : Bool)
  /-- A quotation mark, which makes a word even of nothing. -/
  | mark
  | parameter (name : String) (op : Operation) (quoted : Bool) (word : List Part)
  /-- The output of a command. -/
  | output (body : Option Command) (quoted : Bool)
  /-- The value of an arithmetic expression. -/
  | sum (expression : List Part) (quoted : Bool)

/-- A change of what the number of an open file stands for. -/
inductive Redirection
  | file (fd : Nat) (mode : OpenMode) (path : List Part)
  /-- The same as another number, or nothing. -/
  | copy (fd : Nat) (source : List Part)
  /-- A text of the script, by its number. -/
  | text (fd : Nat) (number : Nat)

/-- A command; `line` is the line that it starts in. -/
inductive Command
  /-- Assignments, and words of which the first names what is run. -/
  | simple (line : Nat) (assignments : List (String × List Part)) (words : List (List Part))
      (redirections : List Redirection)
  | pipeline (stages : List Command)
  | negation (c : Command)
  | and (a b : Command)
  | or (a b : Command)
  | sequence (a b : Command)
  /-- A command whose end is not waited for. -/
  | background (c : Command)
  | subshell (line : Nat) (body : Option Command) (redirections : List Redirection)
  | redirected (line : Nat) (body : Option Command) (redirections : List Redirection)
  | conditional (test yes no : Option Command)
  | loop (untilSuccess : Bool) (test body : Option Command)
  /-- A command for each of some words. -/
  | each (line : Nat) (name : String) (words : List (List Part)) (body : Option Command)
  /-- A choice by patterns. -/
  | choice (line : Nat) (word : List Part) (cases : List (List (List Part) × Option Command))
  /-- A command gets a name. -/
  | function (name : String) (body : Command)

end

instance : Inhabited Part := ⟨.mark⟩

instance : Inhabited Command := ⟨.pipeline []⟩

/-- The sequence of two commands, of which the first may be missing. -/
def Command.followedBy (a : Option Command) (b : Command) : Command :=
  match a with
  | some a => .sequence a b
  | none => b

end SweepPlot.Shell
