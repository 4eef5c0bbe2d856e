import SweepPlot.Log.Directive

/-!
# Which messages are logged

A filter is a list of directives between commas. The most specific directive that holds for the
part of the program that gives a message decides, and among equals the last one. If none holds, the
message is not let through; a filter without directives lets errors through.
-/

namespace SweepPlot

/-- A list of directives. -/
abbrev LogFilter := List LogDirective

namespace LogFilter

/-- The texts of the directives of a filter. -/
def directiveTexts (text : String) : List String :=
  (Text.split ',' text).filter (· ≠ "")

/-- The filter that a text stands for, or why one of its directives cannot be read. -/
def read (text : String) : Except DirectiveFault LogFilter :=
  (directiveTexts text).mapM LogDirective.read

/-- The filter of the directives that can be read, and the texts of the others with what is wrong
with them. -/
def readLossy (text : String) : LogFilter × List (String × DirectiveFault) :=
  ((directiveTexts text).filterMap fun t => (LogDirective.read t).toOption,
    (directiveTexts text).filterMap fun t =>
      match LogDirective.read t with
      | .ok _ => none
      | .error fault => some (t, fault))

/-- The directive in force where there is none. -/
def errorsOnly : LogDirective := ⟨none, none, [], some .error⟩

/-- The most specific of some directives, and the last one of several. -/
def mostSpecific (directives : List LogDirective) : Option LogDirective :=
  directives.foldl (fun best d =>
    match best with
    | some b => if b.noMoreSpecific d then some d else best
    | none => some d) none

/-- What a filter lets through for a part of the program: nothing if no directive holds for it. -/
def limitFor (f : LogFilter) (part : String) : LevelLimit :=
  let directives := if f = [] then [errorsOnly] else f
  (mostSpecific (directives.filter (·.holdsFor part))).bind LogDirective.limit

/-- Whether a filter lets a message through. -/
def allows (f : LogFilter) (e : LogEntry) : Bool :=
  match f.limitFor e.source.path with
  | some limit => e.level.rank ≤ limit.rank
  | none => false

end LogFilter

end SweepPlot
