import SweepPlot.Text.Split
import SweepPlot.Text.Utf8

/-!
# Rows of plot data

A result file is text in lines with fields between tabs. The lines that carry a tag each give a row
of a data file: their third and fourth field.

* `lines` cuts bytes into lines; a line ends at a line feed, with or without a carriage return
  before it, and a last line may lack its end.
* `row` is what a line gives.
* `scan` gives the rows of the tagged lines before the first line that is not UTF-8, and whether
  there is such a line.
-/

namespace SweepPlot

namespace Extraction

/-- Stands between the fields of a line. -/
def fieldDelimiter : Char := '\t'

/-- The lines of a file, without their ends. -/
def lines : Bytes → List Bytes
  | [] => []
  | 0x0a :: rest => [] :: lines rest
  | 0x0d :: 0x0a :: rest => [] :: lines rest
  | b :: rest =>
    match lines rest with
    | [] => [[b]]
    | line :: more => (b :: line) :: more

/-- Whether a text occurs somewhere in another one. -/
def occursIn (tag : List Char) : List Char → Bool
  | [] => tag.isEmpty
  | c :: cs => tag.isPrefixOf (c :: cs) || occursIn tag cs

/-- The row that a line gives: fields three and four, as far as it has them, or the line itself if
it has no tab. -/
def row (line : List Char) : List Char :=
  if line.contains fieldDelimiter then
    [fieldDelimiter].intercalate (((Text.pieces fieldDelimiter line).drop 2).take 2)
  else line

/-- The rows of the tagged lines before the first line that is not UTF-8, and whether all lines
are. -/
def scan (tag : String) : List Bytes → List String × Bool
  | [] => ([], true)
  | bytes :: rest =>
    match Text.Utf8.decode? bytes with
    | none => ([], false)
    | some line =>
      let (rows, complete) := scan tag rest
      if occursIn tag.toList line.toList then (String.ofList (row line.toList) :: rows, complete)
      else (rows, complete)

/-- The bytes of rows, each with a line feed after it. -/
def rowBytes (rows : List String) : Bytes :=
  rows.flatMap fun r => Text.Utf8.encode r ++ [0x0a]

end Extraction

end SweepPlot
