import SweepPlot.Text.Binary64

/-!
# Values of a configuration document

A TOML document is a table of keys and values in the order in which they are first given. A table
remembers how it came about, because that decides whether later lines may add to it.

`Value.descend` goes down a path of keys in a table and makes the tables that are missing on the
way.
-/

namespace SweepPlot.Toml

/-- How a table came about. -/
structure TableForm where
  /-- It is written in braces as a value. -/
  inTheLine : Bool
  /-- It stands only because something below it was named. -/
  implicit : Bool
  /-- It was named by a dotted key. -/
  dotted : Bool
  deriving DecidableEq, Repr, Inhabited

namespace TableForm

/-- A table with a header of its own, or the root. -/
def header : TableForm := ⟨false, false, false⟩

/-- A table in braces. -/
def braces : TableForm := ⟨true, false, false⟩

end TableForm

/-- A value of a document. -/
inductive Value
  | string (s : String)
  | integer (n : Int)
  | float (x : Text.Binary64)
  | boolean (b : Bool)
  /-- A date, a time of day, or both. -/
  | datetime (text : String)
  /-- A list of values; with `ofTables`, of tables that each have a header, the latest first. -/
  | array (ofTables : Bool) (items : List Value)
  | table (form : TableForm) (entries : List (String × Value))
  deriving Repr, Inhabited

/-- The items of a list in the order of the document. -/
def inOrder (ofTables : Bool) (items : List Value) : List Value :=
  if ofTables then items.reverse else items

/-- Keys with values, in the order in which they are first given. -/
abbrev Entries := List (String × Value)

/-- The entries with one that stands already replaced. -/
def Entries.replace (key : String) (v : Value) (es : Entries) : Entries :=
  es.map fun (k, w) => if k = key then (k, v) else (k, w)

/-- Go down a path of keys and change the entries found there. Missing tables are made. With
`dotted`, the path is part of a key and may pass only tables without a header; else it is part of
a header and may also pass the latest table of a list of tables. -/
def Entries.descend {β : Type} (inTheLine dotted : Bool)
    (change : TableForm → Entries → Option (β × Entries)) :
    List String → TableForm → Entries → Option (β × Entries)
  | [], form, es => change form es
  | key :: path, _, es =>
    match es.lookup key with
    | none => do
      let form : TableForm := ⟨inTheLine, true, dotted⟩
      let (b, sub) ← descend inTheLine dotted change path form []
      return (b, es ++ [(key, .table form sub)])
    | some (.table form sub) => do
      if form.inTheLine ≠ inTheLine ∨ (dotted = true ∧ form.implicit = false) then none
      else
        let (b, sub) ← descend inTheLine dotted change path form sub
        return (b, es.replace key (.table form sub))
    | some (.array true items) =>
      match items with
      | .table form sub :: earlier => do
        let (b, sub) ← descend inTheLine dotted change path form sub
        return (b, es.replace key (.array true (.table form sub :: earlier)))
      | _ => none
    | some _ => none

/-- Bind a dotted key. A key cannot be bound twice, and a dotted key cannot add to a table that is
not made of dotted keys. -/
def Entries.bind (inTheLine : Bool) (path : List String) (key : String) (v : Value)
    (form : TableForm) (es : Entries) : Option Entries := do
  let ((), es) ← descend inTheLine true (fun form es =>
    if form.dotted = path.isEmpty ∨ (es.lookup key).isSome then none
    else some ((), es ++ [(key, v)])) path form es
  return es

end SweepPlot.Toml
