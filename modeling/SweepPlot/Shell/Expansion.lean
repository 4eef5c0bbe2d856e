import SweepPlot.Shell.Sum

/-!
# Expansion of words

When a command runs, its words are expanded: parameters, commands and sums in them give way to
their values, and what is not quoted in these values is cut into fields at blanks.

`expandFields` does all of this, and `expandText` gives one text for a word. `expandPattern` gives a
pattern, in which stars and question marks that are not quoted stand for other text.
-/

namespace SweepPlot.Shell

/-- A piece of an expanded word. -/
inductive Cell
  /-- A character; `splits` says that it is cut out where it is a blank. -/
  | char (c : Char) (quoted : Bool) (splits : Bool)
  /-- A quotation mark. -/
  | mark
  /-- The gap between two arguments that stay apart. -/
  | gap
  deriving DecidableEq, Repr, Inhabited

/-- The characters of expanded pieces. -/
def textOf (cells : List Cell) : Word :=
  cells.filterMap fun
    | .char c _ _ => some c
    | _ => none

/-- The pieces of a value. What is not quoted is cut at blanks. -/
def cellsOf (quoted : Bool) (w : Word) : List Cell := w.map fun c => .char c quoted !quoted

/-- How a word is expanded. -/
inductive Manner
  /-- As one text. -/
  | text
  /-- As fields. -/
  | fields
  /-- As a part of fields that stands in an unquoted parameter, where its own blanks count. -/
  | inner
  deriving DecidableEq, Repr

/-- What runs commands while a word is expanded: the output of a command. -/
abbrev Capture := Option Command → ShellM Word

/-! ## Parameters -/

/-- The arguments of the shell as the value of a parameter. -/
def argumentCells (s : Session) (manner : Manner) (star quoted : Bool) : List Cell :=
  if manner ≠ .text ∧ quoted = true ∧ star = false then
    [Cell.gap].intercalate (s.arguments.map fun w => .mark :: cellsOf true w)
  else cellsOf quoted ([' '].intercalate s.arguments)

/-- The value of a parameter. -/
def parameterValue? (s : Session) (manner : Manner) (quoted : Bool) (name : String) :
    Option (List Cell) :=
  let number (n : Nat) : Option (List Cell) := some (cellsOf quoted (Text.Decimal.digits n))
  match name with
  | "$" => number Session.processId
  | "?" => number s.status
  | "#" => number s.arguments.length
  | "@" => some (argumentCells s manner false quoted)
  | "*" => some (argumentCells s manner true quoted)
  | _ =>
    match Utility.number? name.toList with
    | some 0 => some (cellsOf quoted s.name)
    | some (n + 1) => s.arguments[n]?.map (cellsOf quoted)
    | none => (s.bindings.lookup name).map (cellsOf quoted)

/-- The value of a parameter where an empty one may be none. -/
def valueOrNone (orNull : Bool) (value : Option (List Cell)) : Option (List Cell) :=
  value.filter fun cells => !(orNull && (textOf cells).isEmpty)

/-- The complaint about a parameter without a value. -/
def missing {α : Type} (name : String) (orNull : Bool) (message : Word) : ShellM α :=
  fail (word name ++ word ": " ++
    if message = [] then word ("parameter not set" ++ if orNull then " or null" else "")
    else message)

/-- A word without the line ends after it. -/
def withoutLineEnds (w : Word) : Word := (w.reverse.dropWhile (· == '\n')).reverse

/-! ## Words -/

/-- Expand the parts of a word; so deep are parameters nested at most. -/
def expandParts (capture : Capture) : Nat → Manner → List Part → ShellM (List Cell)
  | 0, _, _ => throw .exhausted
  | fuel + 1, manner, parts => do
    let text (parts : List Part) : ShellM Word := do
      return textOf (← expandParts capture fuel .text parts)
    let onePart (p : Part) : ShellM (List Cell) := do
      match p with
      | .char c quoted => return [.char c quoted (manner = .inner && !quoted)]
      | .mark => return [.mark]
      | .output body quoted => return cellsOf quoted (withoutLineEnds (← capture body))
      | .sum expression quoted =>
        let n ← Sum.value (← text expression)
        return cellsOf quoted (toString n.toInt).toList
      | .parameter name op quoted inside =>
        let s ← get
        let value := parameterValue? s manner quoted name
        let nested : ShellM (List Cell) :=
          expandParts capture fuel (if manner = .fields ∧ quoted = false then .inner else manner)
            inside
        match op with
        | .unknown => fail (word "Bad substitution")
        | .value =>
          match value with
          | some cells => return cells
          | none => if s.has 'u' then missing name false [] else return []
        | .fallback orNull =>
          match valueOrNone orNull value with
          | some cells => return cells
          | none => nested
        | .replace orNull =>
          match valueOrNone orNull value with
          | some _ => nested
          | none => return []
        | .assign orNull =>
          match valueOrNone orNull value with
          | some cells => return cells
          | none =>
            setVariable (word name) (← text inside)
            return (parameterValue? (← get) manner quoted name).getD []
        | .require orNull =>
          match valueOrNone orNull value with
          | some cells => return cells
          | none => missing name orNull (← text inside)
    let rec all : List Part → ShellM (List Cell)
      | [] => return []
      | .mark :: .parameter "@" .value true [] :: .mark :: rest => do
        -- without arguments not even an empty field is left of these quotation marks
        let isNone : Bool := manner ≠ .text && (← get).arguments.isEmpty
        let here ← if isNone then pure [] else onePart (.parameter "@" .value true [])
        return here ++ (← all rest)
      | p :: rest => do
        let here ← onePart p
        return here ++ (← all rest)
    all parts

/-- How deep parameters are nested at most. -/
def maxDepth : Nat := 1000

/-- The text of a word, not cut into fields. -/
def expandText (capture : Capture) (parts : List Part) : ShellM Word := do
  return textOf (← expandParts capture maxDepth .text parts)

/-! ## Fields -/

/-- Whether a character separates fields. -/
def isBlank (c : Char) : Bool := c == ' ' || c == '\t' || c == '\n'

/-- Cut an expanded word into fields. There is a present field if it has begun, even if it has no
characters so far. -/
def splitFields (present : Option Word) : List Cell → List Word
  | [] => present.toList
  | .mark :: rest => splitFields (some (present.getD [])) rest
  | .gap :: rest => present.toList ++ splitFields none rest
  | .char c _ splits :: rest =>
    if splits && isBlank c then present.toList ++ splitFields none rest
    else splitFields (some (present.getD [] ++ [c])) rest

/-- The words that a word of a command stands for. -/
def expandFields (capture : Capture) (parts : List Part) : ShellM (List Word) := do
  return splitFields none (← expandParts capture maxDepth .fields parts)

/-- The words that the words of a command stand for. -/
def expandWords (capture : Capture) : List (List Part) → ShellM (List Word)
  | [] => return []
  | parts :: rest => do
    let here ← expandFields capture parts
    return here ++ (← expandWords capture rest)

/-! ## Patterns -/

/-- The characters of a pattern, and whether each was quoted. -/
abbrev Pattern := List (Char × Bool)

/-- The ends of a text, the whole of it first. -/
def ends : List Char → List (List Char)
  | [] => [[]]
  | c :: cs => (c :: cs) :: ends cs

/-- Whether a text fits a pattern. -/
def Pattern.fits : Pattern → Word → Bool
  | [], cs => cs.isEmpty
  | ('*', false) :: rest, cs => (ends cs).any (fits rest)
  | ('?', false) :: rest, _ :: cs => fits rest cs
  | (x, _) :: rest, c :: cs => x == c && fits rest cs
  | _ :: _, [] => false

/-- The pattern that a word stands for. -/
def expandPattern (capture : Capture) (parts : List Part) : ShellM Pattern := do
  return (← expandParts capture maxDepth .text parts).filterMap fun
    | .char c quoted _ => some (c, quoted)
    | _ => none

end SweepPlot.Shell
