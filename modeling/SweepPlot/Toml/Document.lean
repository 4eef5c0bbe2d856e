import SweepPlot.Toml.Reader

/-!
# Documents

A document is a sequence of lines: headers, which say what table the lines after them belong to,
and pairs of a key and a value. `Document.parse` reads the lines and builds the tree of tables, or
gives nothing if the text breaks the rules or defines something twice.
-/

namespace SweepPlot.Toml

/-- One line of a document. -/
inductive Line
  /-- A pair of a key and a value. -/
  | pair (path : List String) (key : String) (v : Value)
  /-- The header of a table. -/
  | tableHeader (path : List String) (key : String)
  /-- The header of a further table of a list of tables. -/
  | itemHeader (path : List String) (key : String)
  deriving Repr, Inhabited

namespace Line

open Reader

/-- The line at the front, which is not blank, of at most `bound` characters. -/
def read (bound : Nat) : Reader Line
  | '[' :: '[' :: cs => do
    let ((path, name), rest) ← Reader.key cs
    match rest with
    | ']' :: ']' :: rest => return (.itemHeader path name, ← endOfLine? rest)
    | _ => none
  | '[' :: cs => do
    let ((path, name), rest) ← Reader.key cs
    match rest with
    | ']' :: rest => return (.tableHeader path name, ← endOfLine? rest)
    | _ => none
  | cs => do
    let ((path, name), rest) ← Reader.key cs
    match rest with
    | '=' :: rest =>
      let rest := skipBlanks rest
      let (v, rest) ← value 0 (2 * bound + 2) rest
      return (.pair path name v, ← endOfLine? rest)
    | _ => none

/-- All lines of a document; blank lines and lines with only a comment are passed over. The fuel is
more than the number of characters. -/
def readAll : Nat → List Char → Option (List Line)
  | 0, _ => none
  | fuel + 1, cs =>
    match skipBlanks cs with
    | [] => some []
    | '#' :: rest => do readAll fuel (← endOfLine? ('#' :: rest))
    | '\n' :: rest => readAll fuel rest
    | '\r' :: rest => do readAll fuel (← newline? ('\r' :: rest))
    | cs => do
      let (line, rest) ← read fuel cs
      return line :: (← readAll fuel rest)

end Line

/-- A document that is being built. -/
structure Building where
  /-- The tables that are complete. -/
  root : Entries
  /-- Where the open table belongs: whether it is one of a list of tables, the path and the key.
  The open table is the root itself before the first header. -/
  place : Option (Bool × List String × String)
  /-- The entries of the open table. -/
  opened : Entries

namespace Building

/-- Nothing has been read. -/
def start : Building := ⟨[], none, []⟩

/-- The tables, with the open one put in its place. -/
def finish (b : Building) : Option Entries :=
  match b.place with
  | none => some b.opened
  | some (ofList, path, key) => do
    let table : Value := .table .header b.opened
    let ((), root) ← b.root.descend false false (fun _ es =>
      match ofList, es.lookup key with
      | true, some (.array true items) =>
        some ((), es.replace key (.array true (table :: items)))
      | false, none => some ((), es ++ [(key, table)])
      | _, _ => none) path .header
    return root

/-- A table starts: it is new, or it stands already only because something below it was named. -/
def openTable (b : Building) (path : List String) (key : String) : Option Building := do
  let root ← b.finish
  let (opened, root) ← root.descend false false (fun _ es =>
    match es.lookup key with
    | none => some ([], es)
    | some (.table ⟨false, true, false⟩ sub) => some (sub, es.filter fun (k, _) => k ≠ key)
    | some _ => none) path .header
  return ⟨root, some (false, path, key), opened⟩

/-- A further table of a list of tables starts. -/
def openItem (b : Building) (path : List String) (key : String) : Option Building := do
  let root ← b.finish
  let ((), root) ← root.descend false false (fun _ es =>
    match es.lookup key with
    | none => some ((), es ++ [(key, .array true [])])
    | some (.array true _) => some ((), es)
    | some _ => none) path .header
  return ⟨root, some (true, path, key), []⟩

/-- One more line. -/
def add (b : Building) : Line → Option Building
  | .pair path key v => do
    return { b with opened := ← b.opened.bind false path key v .header }
  | .tableHeader path key => b.openTable path key
  | .itemHeader path key => b.openItem path key

end Building

namespace Document

/-- The entries of a document. A byte order mark at its front is passed over. -/
def parse (text : String) : Option Entries := do
  let cs := match text.toList with
    | '\ufeff' :: rest => rest
    | cs => cs
  let lines ← Line.readAll (cs.length + 1) cs
  (← lines.foldlM Building.add Building.start).finish

end Document

end SweepPlot.Toml
