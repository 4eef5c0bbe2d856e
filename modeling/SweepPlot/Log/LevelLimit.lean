import SweepPlot.Journal
import SweepPlot.Text.Decimal

/-!
# How much detail is let through

A limit is a level: messages of that level and of more important ones are let through. It is
written as a word or as a number from 0, which lets nothing through, to 5.
-/

namespace SweepPlot

/-- The least important messages that are let through; none lets nothing through. -/
abbrev LevelLimit := Option LogLevel

namespace LevelLimit

/-- The text in lower case, for letters without accents. -/
def lower (s : String) : String := String.ofList (s.toList.map Char.toLower)

/-- The limit that a number stands for. -/
def ofNumber? (cs : List Char) : Option LevelLimit :=
  let digits := match cs with
    | '+' :: rest => rest
    | _ => cs
  if digits = [] ∨ digits.all Char.isDigit = false then none
  else match Text.Decimal.value digits with
    | 0 => some none
    | 1 => some (some .error)
    | 2 => some (some .warn)
    | 3 => some (some .info)
    | 4 => some (some .debug)
    | 5 => some (some .trace)
    | _ => none

/-- The limit that a word stands for. -/
def ofWord? (word : String) : Option LevelLimit :=
  (ofNumber? word.toList).orElse fun () =>
    match lower word with
    | "" => some (some .error)
    | "error" => some (some .error)
    | "warn" => some (some .warn)
    | "info" => some (some .info)
    | "debug" => some (some .debug)
    | "trace" => some (some .trace)
    | "off" => some none
    | _ => none

end LevelLimit

end SweepPlot
