import SweepPlot.Log.LevelLimit
import SweepPlot.Text.Alphanumeric
import SweepPlot.Text.Pattern

/-!
# Directives of a log filter

A directive says how much detail some messages may have. In full it reads

    target[span{field}]=level

and every part may be missing: a level alone holds for all messages, and without a level every
message that fits is let through. `LogDirective.read` reads one, and `LogDirective.holdsFor` says
which parts of the program it is about.
-/

namespace SweepPlot

/-- Why a directive cannot be read. -/
inductive DirectiveFault
  /-- It does not have the form of a directive. -/
  | malformed
  /-- No level is written where one is due. -/
  | noLevel
  /-- The value of a field is no regular expression. -/
  | noPattern
  /-- The value of a field is a regular expression that asks for the edge of a word. -/
  | wordEdge
  deriving DecidableEq, Repr, Inhabited

/-- The text that reports a fault. -/
def DirectiveFault.message : DirectiveFault → String
  | malformed => "invalid filter directive"
  | noLevel => "error parsing level filter: expected one of \"off\", \"error\", \"warn\", " ++
      "\"info\", \"debug\", \"trace\", or a number 0-5"
  | noPattern => "invalid field filter: error building NFA"
  | wordEdge => "invalid field filter: unsupported regex feature for DFAs: cannot build DFAs " ++
      "for regexes with Unicode word boundaries; switch to ASCII word boundaries, or " ++
      "heuristically enable Unicode word boundaries or use a different regex engine"

/-- A field that a message has to have. -/
structure LogField where
  name : String
  /-- What its value has to fit, if that matters. -/
  value : Option String
  deriving DecidableEq, Repr, Inhabited

/-- One part of a filter. -/
structure LogDirective where
  /-- The beginning of the names of the parts it holds for; all parts if there is none. -/
  target : Option String
  /-- The span that the messages are given in, if that matters. -/
  span : Option String
  /-- The fields that the messages have. -/
  fields : List LogField
  /-- What it lets through. -/
  limit : LevelLimit
  deriving DecidableEq, Repr, Inhabited

namespace LogDirective

/-- Every message. -/
def everything : LevelLimit := some .trace

/-- Whether a directive may start with a character, bracket apart. -/
def isTargetStart (c : Char) : Bool :=
  Text.isAlphanumeric c || c == '-' || c == ':' || c == '_'

/-- The number of bytes of some characters. -/
def width (cs : List Char) : Nat := (String.ofList cs).utf8ByteSize

/-- The text between two byte positions. There is none if a position is inside a character. -/
def slice (written : Bytes) (first last : Nat) : Except DirectiveFault String :=
  match Text.Utf8.decode? ((written.take last).drop first) with
  | some text => .ok text
  | none => .error .malformed

/-- The text from a byte position on. -/
def sliceFrom (written : Bytes) (first : Nat) : Except DirectiveFault String :=
  slice written first written.length

/-- The level from a position on; no text stands for every message. -/
def readLevel (written : Bytes) (first : Nat) : Except DirectiveFault LevelLimit := do
  let word ← sliceFrom written first
  if word = "" then return everything
  else match LevelLimit.ofWord? word with
    | some limit => return limit
    | none => throw .noLevel

/-- Whether a text after a sign is a number. -/
def isNumber (cs : List Char) : Bool :=
  let whole := cs.takeWhile Char.isDigit
  let rest := cs.dropWhile Char.isDigit
  let (places, rest) := match rest with
    | '.' :: more => (more.takeWhile Char.isDigit, more.dropWhile Char.isDigit)
    | _ => ([], rest)
  let exponent := match rest with
    | e :: '+' :: more => if e.toLower = 'e' then more else []
    | e :: '-' :: more => if e.toLower = 'e' then more else []
    | e :: more => if e.toLower = 'e' then more else []
    | [] => ['0']
  ["inf", "infinity", "nan"].contains (LevelLimit.lower (String.ofList cs)) ||
    (whole ++ places != [] && exponent != [] && exponent.all Char.isDigit)

/-- What is wrong with a text as the value of a field. It is a regular expression, or a number
even if the sign before it makes it none. -/
def valueFault? (value : List Char) : Option DirectiveFault :=
  match Text.Pattern.check value with
  | .valid => none
  | .wordEdge => some .wordEdge
  | .invalid =>
    match value with
    | '+' :: rest => if isNumber rest then none else some .noPattern
    | _ => some .noPattern

/-- A field, with its value after an equality sign; a second sign ends the value. -/
def readField (text : String) : Except DirectiveFault LogField :=
  match Text.split '=' text with
  | name :: value :: _ =>
    match valueFault? value.toList with
    | none => .ok ⟨name, some value⟩
    | some fault => .error fault
  | _ => if text = "" then .error .malformed else .ok ⟨text, none⟩

/-- What follows the bracket that closes at a position: the level, or nothing. -/
def readEnd (written : Bytes) (first : Nat) : List Char → Except DirectiveFault LevelLimit
  | [] => .ok everything
  | '=' :: _ => readLevel written (first + 1)
  | _ => .error .malformed

/-- The field of a span, from the position after the brace that opens it, and the level. -/
def readFields (written : Bytes) (first : Nat) (rest : List Char) :
    Except DirectiveFault (List LogField × LevelLimit) := do
  let inside := rest.takeWhile (· ≠ '\x7d')
  let last := first + width inside
  match rest.drop inside.length with
  | [] => throw .malformed
  | _ :: after =>
    let field ← readField (← slice written first last)
    match after with
    | ']' :: more => return ([field], ← readEnd written (last + 2) more)
    | _ => throw .malformed

/-- A directive from the position after its opening bracket on. -/
def readSpan (written : Bytes) (target : Option String) (first : Nat) (rest : List Char) :
    Except DirectiveFault LogDirective := do
  let inside := rest.takeWhile fun c => c ≠ ']' && c ≠ '\x7b'
  let last := first + width inside
  match rest.drop inside.length with
  | ']' :: more =>
    let span ← slice written first last
    return ⟨target, some span, [], ← readEnd written (last + 1) more⟩
  | '\x7b' :: more =>
    let span ← slice written first last
    let (fields, limit) ← readFields written (last + 1) more
    return ⟨target, if span = "" then none else some span, fields, limit⟩
  | _ => throw .malformed

/-- A directive that is one word: a level, or else a target. -/
def ofWord (word : String) : LogDirective :=
  match LevelLimit.ofWord? word with
  | some limit => ⟨none, none, [], limit⟩
  | none => ⟨some word, none, [], everything⟩

/-- The directive that a text stands for. The signs are found at the positions that they have
without the blanks around the text; the words are cut out at these positions with the blanks in
place. -/
def read (text : String) : Except DirectiveFault LogDirective :=
  let written := Text.Utf8.encode text
  match (Text.trim Text.isWhiteSpace text).toList with
  | [] => .error .malformed
  | '[' :: rest => readSpan written none 1 rest
  | c :: cs =>
    if isTargetStart c = false then .error .malformed
    else do
      let inside := (c :: cs).takeWhile fun c => c ≠ '=' && c ≠ '['
      let last := width inside
      match (c :: cs).drop inside.length with
      | [] => return ofWord (← sliceFrom written 0)
      | '=' :: _ => return ⟨some (← slice written 0 last), none, [], ← readLevel written (last + 1)⟩
      | _ :: rest => readSpan written (some (← slice written 0 last)) (last + 1) rest

/-- The beginning of part names that a directive holds for. -/
def beginning (d : LogDirective) : List Char :=
  match d.target with
  | some t => t.toList
  | none => []

/-- The name of the only field that messages have. -/
def messageField : String := "message"

/-- Whether a directive is about the messages of a part. Messages are given in no span, and the
value of a field is not looked at. -/
def holdsFor (d : LogDirective) (part : String) : Bool :=
  d.span.isNone && d.fields.all (· == ⟨messageField, none⟩) &&
    d.beginning.isPrefixOf part.toList

/-- Whether a directive says at most as much as another one about the messages it holds for: it
has a shorter target, or an equally long one and no more fields. -/
def noMoreSpecific (a b : LogDirective) : Bool :=
  a.beginning.length < b.beginning.length ||
    (a.beginning.length == b.beginning.length && a.fields.length ≤ b.fields.length)

end LogDirective

end SweepPlot
