import SweepPlot.Text.Hexadecimal
import SweepPlot.Text.Unprintable

/-!
# Text as a quoted literal

Diagnostics show a text between double quotes, with escapes for the quote, the backslash, line
ends and all characters that would not show as themselves.
-/

namespace SweepPlot.Text

/-- The characters that stand for one character in a literal. -/
def literalChar (c : Char) : List Char :=
  if c = '\x00' then ['\\', '0']
  else if c = '\t' then ['\\', 't']
  else if c = '\r' then ['\\', 'r']
  else if c = '\n' then ['\\', 'n']
  else if c = '\\' ∨ c = '"' then ['\\', c]
  else if isUnprintable c then ['\\', 'u', '\x7b'] ++ Hexadecimal.digits c.toNat ++ ['\x7d']
  else [c]

/-- A text between double quotes, with escapes. -/
def literal (s : String) : String :=
  String.ofList (['"'] ++ s.toList.flatMap literalChar ++ ['"'])

end SweepPlot.Text
