import SweepPlot.Failure.Fault
import SweepPlot.Text.Split
import SweepPlot.Text.Utf8

/-!
# Trees of files

A `FileTree` lists the files, directories and links below a root, each at its location: the names
on the way from the root. A file name is text or, where it is not UTF-8, raw bytes.

`lookup_set` and `lookup_remove` say what the two changes of a tree do.
-/

namespace SweepPlot

/-- One name in a directory. -/
inductive FileName
  /-- A name in UTF-8. -/
  | text (s : String)
  /-- A name whose bytes are not UTF-8. -/
  | raw (bytes : Bytes)
  deriving DecidableEq, Repr, Inhabited

namespace FileName

/-- The name with the given bytes. -/
def ofBytes (bytes : Bytes) : FileName :=
  match Text.Utf8.decode? bytes with
  | some s => .text s
  | none => .raw bytes

/-- The number of bytes of a name. -/
def byteLength : FileName → Nat
  | .text s => s.utf8ByteSize
  | .raw bytes => bytes.length

/-- Whether a name starts with a dot. -/
def isHidden : FileName → Bool
  | .text s => s.toList.head? == some '.'
  | .raw bytes => bytes.head? == some 0x2e

/-- The name as text, with replacements for what is not UTF-8. -/
def display : FileName → String
  | .text s => s
  | .raw bytes => Text.Utf8.decodeLossy bytes

end FileName

/-- A file that keeps nothing of what is written to it and that has nothing to read. -/
inductive Device
  /-- It takes whatever is written. -/
  | null
  /-- It takes nothing, as if there was no space left. -/
  | full
  /-- It stands for one of the files that a process has open. -/
  | descriptor (number : Nat)
  deriving DecidableEq, Repr, Inhabited

/-- What stands at a location. -/
inductive Node
  | file (content : Bytes)
  | dir
  | link (target : String)
  | device (d : Device)
  deriving DecidableEq, Repr, Inhabited

/-- The names on the way from the root to a place in the tree. -/
abbrev Location := List FileName

/-- A tree of files, with the directory that relative paths start from. -/
structure FileTree where
  /-- The node at each location below the root. -/
  nodes : List (Location × Node)
  /-- The directory that relative paths start from. -/
  workDir : Location
  deriving DecidableEq, Repr, Inhabited

namespace FileTree

/-- What stands at a location; the root is a directory. -/
def lookup (t : FileTree) (loc : Location) : Option Node :=
  if loc = [] then some .dir else t.nodes.lookup loc

/-- A list of nodes with one of them set, in its place or else at the end. -/
def setList (loc : Location) (node : Node) : List (Location × Node) → List (Location × Node)
  | [] => [(loc, node)]
  | (l, n) :: rest => if l = loc then (loc, node) :: rest else (l, n) :: setList loc node rest

/-- The tree with a node set. -/
def set (t : FileTree) (loc : Location) (node : Node) : FileTree :=
  { t with nodes := setList loc node t.nodes }

/-- The tree without the location and all that is below it. -/
def remove (t : FileTree) (loc : Location) : FileTree :=
  { t with nodes := t.nodes.filter fun (l, _) => !loc.isPrefixOf l }

/-- The content of the file at a location. -/
def content? (t : FileTree) (loc : Location) : Option Bytes :=
  match t.lookup loc with
  | some (.file content) => some content
  | _ => none

/-- The tree with bytes added to the end of the file at a location. -/
def append (t : FileTree) (loc : Location) (bytes : Bytes) : FileTree :=
  match t.content? loc with
  | some content => t.set loc (.file (content ++ bytes))
  | none => t

/-- The names in a directory with what stands there. -/
def children (t : FileTree) (loc : Location) : List (FileName × Node) :=
  t.nodes.filterMap fun (l, n) =>
    match l.getLast? with
    | some name => if l.dropLast = loc then some (name, n) else none
    | none => none

/-- Everything below a location, with the names on the way from there. -/
def below (t : FileTree) (loc : Location) : List (Location × Node) :=
  t.nodes.filterMap fun (l, n) =>
    if loc.isPrefixOf l ∧ loc ≠ l then some (l.drop loc.length, n) else none

theorem lookup_setList (loc k : Location) (node : Node) (l : List (Location × Node)) :
    (setList loc node l).lookup k = if k = loc then some node else l.lookup k := by
  induction l with
  | nil =>
    by_cases h : k = loc
    · simp [setList, h]
    · simp [setList, List.lookup_cons, h, beq_eq_false_iff_ne.2 h]
  | cons hd tl ih =>
    obtain ⟨l, n⟩ := hd
    unfold setList
    split
    · rename_i hl
      subst hl
      by_cases h : k = l
      · simp [h]
      · simp [List.lookup_cons, h, beq_eq_false_iff_ne.2 h]
    · rename_i hl
      by_cases h : k = l
      · subst h
        simp [hl]
      · simp [List.lookup_cons, beq_eq_false_iff_ne.2 h, ih]

/-- Setting a node changes its own location and no other. -/
theorem lookup_set (t : FileTree) {loc : Location} (h : loc ≠ []) (node : Node) (k : Location) :
    (t.set loc node).lookup k = if k = loc then some node else t.lookup k := by
  by_cases hk : k = []
  · subst hk
    simp [lookup, Ne.symm h]
  · simp [lookup, hk, set, lookup_setList]

/-- Removing a location leaves nothing there or below it, and all else as it was. -/
theorem lookup_remove (t : FileTree) {loc : Location} (h : loc ≠ []) (k : Location) :
    (t.remove loc).lookup k = if loc <+: k then none else t.lookup k := by
  by_cases hk : k = []
  · subst hk
    simp [lookup, h]
  · simp only [lookup, hk, if_false, remove]
    induction t.nodes with
    | nil => simp
    | cons hd tl ih =>
      obtain ⟨l, n⟩ := hd
      by_cases hl : loc <+: l
      · rw [List.filter_cons_of_neg (by simpa using hl), ih]
        by_cases he : k = l
        · subst he
          simp [hl]
        · simp [List.lookup_cons, beq_eq_false_iff_ne.2 he]
      · rw [List.filter_cons_of_pos (by simpa [← Bool.not_eq_true] using hl)]
        by_cases he : k = l
        · subst he
          simp [hl]
        · simp [List.lookup_cons, beq_eq_false_iff_ne.2 he, ih]

end FileTree

end SweepPlot
