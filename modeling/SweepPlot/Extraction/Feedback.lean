import SweepPlot.Extraction.Row
import SweepPlot.Failure.Fault

/-!
# Extraction of a file into itself

When rows are added to the file that they come from, it grows while it is read, and rows can be
read again. How many are depends on how far reading is ahead of writing: a file is read in blocks,
and rows are held back until they fill a block.

* `Feedback.put` writes some bytes, by way of those held back.
* `Feedback.run` reads block after block until none is left.
* `Feedback.extract` gives the bytes that the file has in the end beyond those it started with.

A row that carries the tag and has no tab gives itself, so that reading need not come to an end by
itself. It ends when the file is larger than a file can be.
-/

namespace SweepPlot.Extraction

/-- A file that is read and written at once. -/
structure Feedback where
  content : Bytes
  /-- What has been written without being in the file yet, the latest first. -/
  held : List Bytes
  /-- The number of bytes that can still be held back. -/
  room : Nat
  rows : Nat
  deriving DecidableEq, Repr

namespace Feedback

/-- The number of bytes that are read at once, and that are written at once. -/
def blockSize : Nat := 8192

/-- A file of which nothing has been read or written. -/
def ofContent (content : Bytes) : Feedback := ⟨content, [], blockSize, 0⟩

/-- Bring the bytes held back into the file. -/
def flush (f : Feedback) : Feedback :=
  { f with content := f.content ++ f.held.reverse.flatten, held := [], room := blockSize }

/-- Write bytes: they are held back while there is room, and as many as fill a block go to the file
at once. -/
def put (f : Feedback) (bytes : Bytes) : Feedback :=
  let f := if f.room < bytes.length then f.flush else f
  if blockSize ≤ bytes.length then { f with content := f.content ++ bytes }
  else { f with held := bytes :: f.held, room := f.room - bytes.length }

/-- Write the row of a line if it carries the tag; none if the line is not UTF-8. -/
def takeLine (tag : String) (f : Feedback) (line : Bytes) : Option Feedback :=
  (Text.Utf8.decode? line).map fun text =>
    if occursIn tag.toList text.toList then
      let f := (f.put (Text.Utf8.encode (String.ofList (row text.toList)))).put [0x0a]
      { f with rows := f.rows + 1 }
    else f

/-- Write the rows of lines up to the first that is not UTF-8; the second part says whether all
are. -/
def takeLines (tag : String) (f : Feedback) : List Bytes → Feedback × Bool
  | [] => (f, true)
  | line :: rest =>
    match f.takeLine tag line with
    | some f => f.takeLines tag rest
    | none => (f, false)

/-- The lines that end in a block, and what follows the last end. -/
def endedLines : Bytes → List Bytes × Bytes
  | [] => ([], [])
  | b :: rest =>
    let (lines, last) := endedLines rest
    if b = 0x0a then ([] :: lines, last)
    else match lines with
      | [] => ([], b :: last)
      | line :: more => ((b :: line) :: more, last)

/-- A line without the carriage return at its end. -/
def dropReturn (line : Bytes) : Bytes :=
  if line.getLast? = some 0x0d then line.dropLast else line

/-- The lines that end in a block whose first line starts with `start`, and the start of the line
after them. -/
def blockLines (start block : Bytes) : List Bytes × Bytes :=
  match endedLines block with
  | ([], last) => ([], start ++ last)
  | (first :: more, last) => (((start ++ first) :: more).map dropReturn, last)

/-- The greatest size of a file: offsets in it are integers of 64 bits with a sign. -/
def maxSize : Nat := 9223372036854775807

/-- Read block after block from a position on, after the start of a line. At the end of the file
that start is a line; it may give a row that makes the file grow, so that reading goes on. -/
def run (tag : String) (position : Nat) (start : Bytes) (f : Feedback) :
    Except IoFault Nat × Feedback :=
  let block := (f.content.drop position).take blockSize
  if block = [] then
    if start = [] then (.ok f.rows, f.flush)
    else match f.takeLine tag start with
      | some f => run tag position [] f
      | none => (.error .notUtf8, f.flush)
  else if maxSize < f.content.length then (.error (.os .fileTooLarge), f)
  else
    let (lines, start) := blockLines start block
    match f.takeLines tag lines with
    | (g, true) => run tag (position + block.length) start g
    | (g, false) => (.error .notUtf8, g.flush)
termination_by (maxSize - position, start.length)
decreasing_by
  · rename_i h
    exact Prod.Lex.right _ (List.length_pos_iff.2 h)
  · rename_i hblock hsize
    have hlength : 0 < ((f.content.drop position).take blockSize).length :=
      List.length_pos_iff.2 hblock
    have hposition : position < f.content.length := by
      simp only [List.length_take, List.length_drop] at hlength
      omega
    exact Prod.Lex.left _ _ (by omega)

/-- The number of rows that a file gives when they are added to it, and the bytes that it has in
the end beyond its content. -/
def extract (tag : String) (content : Bytes) : Except IoFault Nat × Bytes :=
  let (result, f) := run tag 0 [] (ofContent content)
  (result, f.content.drop content.length)

end Feedback

end SweepPlot.Extraction
