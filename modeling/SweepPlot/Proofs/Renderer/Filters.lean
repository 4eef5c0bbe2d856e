import SweepPlot.Process.Standard
import SweepPlot.Proofs.Renderer.Outcome

/-!
# Rendering with a filter

Of the installed programs those that are filters never fail as plotting programs: without arguments
a filter reads the whole script and writes what it makes of it.

* `StandardPrograms.child_filter` says what a filter does with an input.
* `PlottingProgram.render_filter` says what is found then at the path of the plot; with `cat` it is
  the script itself (`render_cat`).
-/

namespace SweepPlot

theorem Task.run_readAll_start (t : FileTree) (input : Bytes) :
    (readAll 0).run (start t input) = (.ok (Text.ByteChars.ofBytes input), start t []) := by
  simp [readAll, readFront, start, stream?, setStream, StateT.run]

theorem Task.run_write_start (t : FileTree) (cs : List Char) :
    (write 1 cs).run (start t []) = ((), { start t [] with
      streams := #[.source [], .sink [Text.ByteChars.toBytes cs], .sink []] }) := rfl

/-- Without operands there is one text, the input. -/
theorem Utility.run_overTexts_start (name : List Char) (each : List Char → TaskM Unit)
    (t : FileTree) (input : Bytes) :
    (overTexts name each []).run (Task.start t input) =
      (0, ((each (Text.ByteChars.ofBytes input)).run (Task.start t [])).2) := by
  rw [overTexts, if_pos rfl, overOperands, StateT.run_bind, textOf, if_pos rfl,
    Task.run_readAll_start]
  rfl

/-- What a filter makes of an input when it is started without arguments. -/
def Utility.filtered (make : Arguments → List Char → List Char) (input : Bytes) : Bytes :=
  Text.ByteChars.toBytes (make ⟨[], []⟩ (Text.ByteChars.ofBytes input))

section

variable {plain : String} {code : Nat} {make : Utility.Arguments → List Char → List Char}

/-- A filter reads all of its input, writes what it makes of it and ends with success. -/
theorem StandardPrograms.child_filter (t : FileTree) (name : String) (input : Bytes) :
    child (.utility (Utility.filter plain code make)) t name input =
      ⟨.ok (), Utility.filtered make input, [], .ok (.code 0)⟩ := by
  have hargs : Utility.Arguments.parse plain.toList "".toList [] = .ok ⟨[], []⟩ := by
    rw [Utility.Arguments.parse]
  rw [child, Utility.filter, Utility.withArguments, hargs]
  dsimp only
  rw [Utility.run_overTexts_start, Utility.print, Task.run_write_start]
  simp [Child.ofTask, Task.unread, Task.written, Utility.filtered]

namespace PlottingProgram

open FileTree

variable {p : PlottingProgram} {output : String} {t t' : FileTree} {loc : Location}

/-- **Rendering with a filter.** If the file of the plot can be created and a filter is found under
the name of the program, rendering succeeds, and what the filter makes of the script is found at the
path. -/
theorem render_filter (hopen : t.openWrite true output = .ok (loc, t'))
    (hfind : StandardPrograms.find t' p.program = .ok (.utility (Utility.filter plain code make)))
    (hdevice : ∀ d, t.stat output ≠ .ok (.device d)) (script : Bytes) :
    let result := p.render StandardPrograms.start script output t
    result.1 = .ok () ∧ result.2.read output = .ok (Utility.filtered make script) := by
  have hruns : p.Runs StandardPrograms.start script output t
      ⟨.ok (), Utility.filtered make script, [], .ok (.code 0)⟩ :=
    ⟨loc, t', _, hopen, by rw [StandardPrograms.start, hfind, Except.map],
      StandardPrograms.child_filter _ _ _⟩
  have hok := render_eq_ok_iff.2 ⟨_, _, hruns, rfl, rfl, rfl⟩
  exact ⟨hok, ((plot_of_render hok hruns).1 hdevice).2⟩

/-- With `cat` the script itself is found at the path. -/
theorem render_cat (hopen : t.openWrite true output = .ok (loc, t'))
    (hfind : StandardPrograms.find t' p.program = .ok (.utility Utility.cat))
    (hdevice : ∀ d, t.stat output ≠ .ok (.device d)) (script : Bytes) :
    let result := p.render StandardPrograms.start script output t
    result.1 = .ok () ∧ result.2.read output = .ok script := by
  have hcat : Utility.filtered (fun _ text => text) script = script :=
    Text.ByteChars.toBytes_ofBytes script
  have h := render_filter hopen hfind hdevice script
  rwa [hcat] at h

example : ((render ⟨"cat"⟩ StandardPrograms.start [0x23, 0x0a] "o"
    ⟨Installed.systemNodes, []⟩).2.read "o").toOption = some [0x23, 0x0a] := by
  decide +kernel

end PlottingProgram

end

end SweepPlot
