import SweepPlot.Shell.Session

/-!
# Arithmetic of the shell

An expression is made of decimal numbers, variables, parentheses, signs and operators on whole
numbers of 64 bits. `Sum.value` works it out.
-/

namespace SweepPlot.Shell.Sum

/-- The smallest things that an expression is made of. -/
inductive Token
  | number (n : Int64)
  | variable (name : String)
  | sign (op : String)
  /-- Something that no expression has. -/
  | other
  deriving DecidableEq, Repr, Inhabited

/-- The operators with two sides, by how tightly they bind; the least number binds most. Longer ones
stand before those that they begin with. -/
def operators : List (String × Nat) :=
  [("<=", 2), (">=", 2), ("==", 3), ("!=", 3), ("<", 2), (">", 2), ("*", 0), ("/", 0), ("%", 0),
   ("+", 1), ("-", 1)]

/-- The number that digits stand for, as far as it is in the range. -/
def ofDigits (cs : List Char) : Int64 :=
  Int64.ofInt (min 9223372036854775807 (Text.Decimal.value cs))

/-- The tokens of an expression. -/
def tokens : Nat → List Char → List Token
  | 0, _ => []
  | fuel + 1, cs =>
    match cs with
    | [] => []
    | c :: rest =>
      if c = ' ' ∨ c = '\t' ∨ c = '\n' then tokens fuel rest
      else if c.isDigit then
        let digits := cs.takeWhile Char.isDigit
        .number (ofDigits digits) :: tokens fuel (cs.drop digits.length)
      else if isNameStart c then
        let name := cs.takeWhile isNameChar
        .variable (nameOf name) :: tokens fuel (cs.drop name.length)
      else
        match (operators.map (·.1) ++ ["(", ")", "!"]).find? fun op => op.toList.isPrefixOf cs with
        | some op => .sign op :: tokens fuel (cs.drop op.length)
        | none => [.other]

/-- The number for yes or no. -/
def truth (b : Bool) : Int64 := if b then 1 else 0

/-- The value of an operator with two sides; there is none for a division by zero. -/
def combine? (op : String) (a b : Int64) : Option Int64 :=
  match op with
  | "*" => some (a * b)
  | "/" => if b = 0 then none else some (a / b)
  | "%" => if b = 0 then none else some (a % b)
  | "+" => some (a + b)
  | "-" => some (a - b)
  | "<" => some (truth (a < b))
  | "<=" => some (truth (a ≤ b))
  | ">" => some (truth (b < a))
  | ">=" => some (truth (b ≤ a))
  | "==" => some (truth (a == b))
  | _ => some (truth (a != b))

/-- Work on the tokens that are left. -/
abbrev SumM := StateT (List Token) ShellM

/-- Report an error in an expression. -/
def complain {α : Type} (text : Word) (message : String) : SumM α :=
  (fail (word ("arithmetic expression: " ++ message ++ ": \"") ++ text ++ ['"']) : ShellM α)

/-- The number that the value of a variable stands for; without a value it is zero. -/
def ofVariable (name : String) : ShellM Int64 := do
  match ((← get).bindings.lookup name).getD [] with
  | [] => return 0
  | '-' :: digits => return -ofDigits (Text.Decimal.digits (← numberOf digits))
  | digits => return ofDigits (Text.Decimal.digits (← numberOf digits))

/-- Read and work out a part of an expression with operators that bind more tightly than a limit.
There are none if no value has been read; else these operators follow that value. -/
def read (text : Word) : Nat → Nat → Option Int64 → SumM Int64
  | 0, _, _ => throw .exhausted
  | fuel + 1, limit, none => do
    let primary : SumM Int64 := read text fuel 0 none
    let first ← match ← get with
      | .number n :: rest => do
        set rest
        pure n
      | .variable name :: rest => do
        set rest
        (ofVariable name : ShellM Int64)
      | .sign "(" :: rest => do
        set rest
        let n ← read text fuel 4 none
        match ← get with
        | .sign ")" :: rest => do
          set rest
          pure n
        | _ => complain text "expecting ')'"
      | .sign "+" :: rest => do
        set rest
        primary
      | .sign "-" :: rest => do
        set rest
        pure (-(← primary))
      | .sign "!" :: rest => do
        set rest
        pure (truth ((← primary) == 0))
      | _ => complain text "expecting primary"
    read text fuel limit (some first)
  | fuel + 1, limit, some first => do
    match ← get with
    | .sign op :: rest =>
      match operators.lookup op with
      | some p =>
        if limit ≤ p then return first
        set rest
        match combine? op first (← read text fuel p none) with
        | some n => read text fuel limit (some n)
        | none => complain text "division by zero"
      | none => return first
    | _ => return first

/-- The value of an expression. -/
def value (text : Word) : ShellM Int64 := do
  let all := tokens (text.length + 1) text
  let (n, rest) ← (read text (4 * all.length + 4) 4 none).run all
  if rest ≠ [] then
    let _ ← (complain text "expecting EOF" : SumM Unit).run rest
  return n

end SweepPlot.Shell.Sum
