import SweepPlot.Proofs.FileTree.Removal
import SweepPlot.Renderer

/-!
# How rendering ends

A plot is made in full or no file is left in its place. Rendering succeeds if the file of the plot
could be created, the program was started and waited for, ended with success and was handed the
whole script. What the system reports of the program is arbitrary throughout.

* `Text.Trimmed` says what a text is without the blanks at its ends, and `Text.trimmed_trim` that
  this is what is shown of a complaint.
* `PlottingProgram.Runs` says which child ran for a plot, and `run_of_runs` what came of it.
* `PlottingProgram.render_eq_ok_iff` says when rendering succeeds, `plot_of_render` what is found
  then, and `stat_of_render_ne_ok` what is not found after a failure.
* `PlottingProgram.render_outcome` puts these together. A device keeps nothing of a plot
  (`render_discarded`).
-/

namespace SweepPlot

namespace Text

/-- What is left of a text when the blank characters at its ends are cut off. -/
structure Trimmed (blank : Char → Bool) (text shown : String) : Prop where
  cut : ∃ before after, text.toList = before ++ shown.toList ++ after ∧
    ∀ c ∈ before ++ after, blank c = true
  first : ∀ c, shown.toList.head? = some c → blank c = false
  last : ∀ c, shown.toList.getLast? = some c → blank c = false

theorem eq_false_of_head?_dropWhile {p : Char → Bool} {cs : List Char} {c : Char}
    (h : (cs.dropWhile p).head? = some c) : p c = false := by
  have hnot := List.head?_dropWhile_not p cs
  rw [h] at hnot
  simpa using hnot

/-- A list is cut in front of the characters of a kind at its end. -/
theorem exists_eq_append_trailing (p : Char → Bool) (cs : List Char) :
    ∃ after, cs = (cs.reverse.dropWhile p).reverse ++ after ∧ ∀ c ∈ after, p c = true := by
  refine ⟨(cs.reverse.takeWhile p).reverse, ?_, fun c hc => ?_⟩
  · rw [← List.reverse_append, List.takeWhile_append_dropWhile, List.reverse_reverse]
  · exact List.all_eq_true.1 List.all_takeWhile c (List.mem_reverse.1 hc)

theorem trimmed_trim (blank : Char → Bool) (text : String) :
    Trimmed blank text (trim blank text) := by
  have hshown : (trim blank text).toList =
      ((text.toList.dropWhile blank).reverse.dropWhile blank).reverse := by
    simp [trim, trimEnd]
  obtain ⟨after, hrest, hafter⟩ := exists_eq_append_trailing blank (text.toList.dropWhile blank)
  rw [← hshown] at hrest
  refine ⟨⟨text.toList.takeWhile blank, after, ?_, fun c hc => ?_⟩, fun c hc => ?_, fun c hc => ?_⟩
  · rw [List.append_assoc, ← hrest, List.takeWhile_append_dropWhile]
  · rcases List.mem_append.1 hc with hc | hc
    · exact List.all_eq_true.1 List.all_takeWhile c hc
    · exact hafter c hc
  · refine @eq_false_of_head?_dropWhile blank text.toList c ?_
    rw [hrest, List.head?_append, hc]
    rfl
  · rw [hshown, List.getLast?_reverse] at hc
    exact eq_false_of_head?_dropWhile hc

end Text

namespace PlottingProgram

open FileTree

variable {p : PlottingProgram} {programs : Programs} {script : Bytes} {output : String}
  {t t' : FileTree} {child : Child}

/-- The file of the plot was created, and the program was started and did what the child did. -/
def Runs (p : PlottingProgram) (programs : Programs) (script : Bytes) (output : String)
    (t : FileTree) (child : Child) : Prop :=
  ∃ loc t₁ start, t.openWrite true output = .ok (loc, t₁) ∧
    programs t₁ p.program = .ok start ∧ start script = child

/-- A child that ran decides on the result, and its output is in the file. -/
theorem run_of_runs (h : p.Runs programs script output t child) :
    ∃ loc t₁, t.openWrite true output = .ok (loc, t₁) ∧ p.run programs script output t =
      (verdict p.program output child, t₁.append loc child.output) := by
  obtain ⟨loc, t₁, start, hopen, hstart, rfl⟩ := h
  refine ⟨loc, t₁, hopen, ?_⟩
  rw [run, hopen]
  dsimp only
  rw [hstart]

theorem exists_runs_of_run (h : (p.run programs script output t).1 = .ok ()) :
    ∃ child, p.Runs programs script output t child := by
  unfold run at h
  split at h
  · cases h
  · rename_i loc t₁ hopen
    split at h
    · cases h
    · rename_i start hstart
      exact ⟨start script, loc, t₁, start, hopen, hstart, rfl⟩

theorem verdict_eq_ok_iff {program : String} : verdict program output child = .ok () ↔
    ∃ status, child.status = .ok status ∧ status.success = true ∧ child.handed = .ok () := by
  unfold verdict
  rcases child.status with fault | status
  · simp
  · rcases child.handed with fault | ⟨⟩ <;> cases hsuccess : status.success <;> simp [hsuccess]

/-! ## Rendering -/

/-- Cleaning up does not change the result. -/
theorem render_fst (p : PlottingProgram) (programs : Programs) (script : Bytes) (output : String)
    (t : FileTree) :
    (p.render programs script output t).1 = (p.run programs script output t).1 := by
  unfold render
  split
  · rename_i hrun
    rw [hrun]
  · rename_i hrun
    rw [hrun]
    split <;> rfl

theorem render_eq_ok_iff : (p.render programs script output t).1 = .ok () ↔
    ∃ child status, p.Runs programs script output t child ∧
      child.status = .ok status ∧ status.success = true ∧ child.handed = .ok () := by
  rw [render_fst]
  constructor
  · intro h
    obtain ⟨child, hruns⟩ := exists_runs_of_run h
    obtain ⟨loc, t₁, -, hrun⟩ := run_of_runs hruns
    rw [hrun] at h
    obtain ⟨status, hverdict⟩ := verdict_eq_ok_iff.1 h
    exact ⟨child, status, hruns, hverdict⟩
  · rintro ⟨child, status, hruns, hverdict⟩
    obtain ⟨loc, t₁, -, hrun⟩ := run_of_runs hruns
    rw [hrun]
    exact verdict_eq_ok_iff.2 ⟨status, hverdict⟩

/-- After success the output of the child is found at the path of the plot. -/
theorem plot_of_render (h : (p.render programs script output t).1 = .ok ())
    (hruns : p.Runs programs script output t child) :
    let t' := (p.render programs script output t).2
    ((∀ d, t.stat output ≠ .ok (.device d)) →
      t'.stat output = .ok (.file child.output) ∧ t'.read output = .ok child.output) ∧
    ∀ d, t.stat output = .ok (.device d) → t' = t := by
  obtain ⟨loc, t₁, hopen, hrun⟩ := run_of_runs hruns
  rw [render_fst, hrun] at h
  rw [render, hrun, show verdict p.program output child = .ok () from h]
  exact append_of_openWrite hopen child.output

/-- After a failure no file is found at the path of the plot. -/
theorem stat_of_render_ne_ok (h : (p.render programs script output t).1 ≠ .ok ())
    (content : Bytes) :
    (p.render programs script output t).2.stat output ≠ .ok (.file content) := by
  rw [render_fst] at h
  rcases hrun : p.run programs script output t with ⟨e | ⟨⟩, t₁⟩
  · rw [render, hrun]
    dsimp only
    rcases hremove : t₁.removeFile output with fault | t₂
    · intro hstat
      obtain ⟨t₂, hremoved⟩ := exists_removeFile hstat (by simp)
      rw [hremove] at hremoved
      cases hremoved
    · exact stat_removeFile hremove _
  · rw [hrun] at h
    exact absurd rfl h

/-- The failure of a child counts before that of handing over the script. -/
theorem render_of_failed {status : ExitStatus} (hruns : p.Runs programs script output t child)
    (hstatus : child.status = .ok status) (hfailed : status.success = false) :
    (p.render programs script output t).1 =
      .error (.render output (.exited p.program status
        (Text.trim Text.isWhiteSpace (Text.Utf8.decodeLossy child.complaint)))) := by
  obtain ⟨loc, t₁, -, hrun⟩ := run_of_runs hruns
  rw [render_fst, hrun, verdict, hstatus]
  dsimp only
  rw [if_neg (by simp [hfailed])]

/-- A child that ended with success does not make up for a script that was not handed over. -/
theorem render_of_refused {status : ExitStatus} {fault : IoFault}
    (hruns : p.Runs programs script output t child) (hstatus : child.status = .ok status)
    (hsuccess : status.success = true) (hhanded : child.handed = .error fault) :
    (p.render programs script output t).1 = .error (.render output (.script fault)) := by
  obtain ⟨loc, t₁, -, hrun⟩ := run_of_runs hruns
  rw [render_fst, hrun, verdict, hstatus]
  dsimp only
  rw [if_pos hsuccess, hhanded]

/-- **A plot is made in full, or no file is left.** Rendering succeeds exactly if the file of the
plot could be created, the program was started and waited for, ended with success and was handed the
whole script. Then what the program wrote is found at the path, and nothing else; only if a device
stands there nothing is kept. After a failure no file is found at the path, also if there was one
before. If the program ended without success, the failure has its status and its complaint without
the blanks at the ends, whether it was handed the script or not; if it ended with success, the
failure is that of handing over the script. -/
theorem render_outcome (p : PlottingProgram) (programs : Programs) (script : Bytes)
    (output : String) (t : FileTree) :
    let result := (p.render programs script output t).1
    let t' := (p.render programs script output t).2
    (result = .ok () ↔ ∃ child status, p.Runs programs script output t child ∧
      child.status = .ok status ∧ status.success = true ∧ child.handed = .ok ()) ∧
    (∀ child, result = .ok () → p.Runs programs script output t child →
      ((∀ d, t.stat output ≠ .ok (.device d)) →
        t'.stat output = .ok (.file child.output) ∧ t'.read output = .ok child.output) ∧
      ∀ d, t.stat output = .ok (.device d) → t' = t) ∧
    (result ≠ .ok () → ∀ content, t'.stat output ≠ .ok (.file content)) ∧
    ∀ child status, p.Runs programs script output t child → child.status = .ok status →
      (status.success = false →
        let complaint := Text.Utf8.decodeLossy child.complaint
        let shown := Text.trim Text.isWhiteSpace complaint
        Text.Trimmed Text.isWhiteSpace complaint shown ∧
          result = .error (.render output (.exited p.program status shown))) ∧
      ∀ fault, status.success = true → child.handed = .error fault →
        result = .error (.render output (.script fault)) :=
  ⟨render_eq_ok_iff, fun _ h hruns => plot_of_render h hruns, stat_of_render_ne_ok,
    fun _ _ hruns hstatus =>
      ⟨fun hfailed => ⟨Text.trimmed_trim _ _, render_of_failed hruns hstatus hfailed⟩,
        fun _ hsuccess hhanded => render_of_refused hruns hstatus hsuccess hhanded⟩⟩

/-- What a program does that writes a part of a plot and fails before the script is handed over. -/
def refusal : Child where
  handed := .error (.os .brokenPipe)
  output := Text.Utf8.encode "%PDF"
  complaint := Text.Utf8.encode " bad directive\n"
  status := .ok (.code 3)

/-- What a program does that writes a part of a plot and ends with success before the script is
handed over. -/
def desertion : Child := { refusal with complaint := [], status := .ok (.code 0) }

/-- A program that writes what it reads. -/
def copying : Programs := fun _ _ => .ok fun input => ⟨.ok (), input, [], .ok (.code 0)⟩

/-- A plot from before. -/
def plotted : FileTree := ⟨[([.text "o"], .file (Text.Utf8.encode "old"))], []⟩

/-- A plot from before is gone when a program was not handed the whole script, however it has ended,
and it is replaced when a program has copied its input. -/
theorem render_outcome_plotted :
    plotted.stat "o" = .ok (.file (Text.Utf8.encode "old")) ∧
    ((render ⟨"sh"⟩ (fun _ _ => .ok fun _ => refusal) [0x23] "o" plotted).1 =
        .error (.render "o" (.exited "sh" (.code 3) "bad directive")) ∧
      ∀ content, (render ⟨"sh"⟩ (fun _ _ => .ok fun _ => refusal) [0x23] "o" plotted).2.stat
        "o" ≠ .ok (.file content)) ∧
    ((render ⟨"sh"⟩ (fun _ _ => .ok fun _ => desertion) [0x23] "o" plotted).1 =
        .error (.render "o" (.script (.os .brokenPipe))) ∧
      ∀ content, (render ⟨"sh"⟩ (fun _ _ => .ok fun _ => desertion) [0x23] "o" plotted).2.stat
        "o" ≠ .ok (.file content)) ∧
    (render ⟨"cat"⟩ copying [0x23] "o" plotted).1 = .ok () ∧
      (render ⟨"cat"⟩ copying [0x23] "o" plotted).2.read "o" = .ok [0x23] := by
  have hopen : plotted.openWrite true "o" = .ok ([.text "o"], ⟨[([.text "o"], .file [])], []⟩) :=
    ok_of_toOption (by decide +kernel)
  have hstat : plotted.stat "o" = .ok (.file (Text.Utf8.encode "old")) :=
    ok_of_toOption (by decide +kernel)
  refine ⟨hstat, ?_, ?_, ?_⟩
  · obtain ⟨-, -, hgone, hend⟩ :=
      render_outcome ⟨"sh"⟩ (fun _ _ => .ok fun _ => refusal) [0x23] "o" plotted
    have hresult := ((hend refusal (.code 3) ⟨_, _, _, hopen, rfl, rfl⟩ rfl).1 rfl).2
    have hshown : Text.trim Text.isWhiteSpace (Text.Utf8.decodeLossy refusal.complaint) =
        "bad directive" := by decide +kernel
    rw [hshown] at hresult
    exact ⟨hresult, hgone (by simp [hresult])⟩
  · obtain ⟨-, -, hgone, hend⟩ :=
      render_outcome ⟨"sh"⟩ (fun _ _ => .ok fun _ => desertion) [0x23] "o" plotted
    have hresult := (hend desertion (.code 0) ⟨_, _, _, hopen, rfl, rfl⟩ rfl).2 _ rfl rfl
    exact ⟨hresult, hgone (by simp [hresult])⟩
  · obtain ⟨hok, hplot, -⟩ := render_outcome ⟨"cat"⟩ copying [0x23] "o" plotted
    have hcopied := hok.2 ⟨_, .code 0, ⟨_, _, _, hopen, rfl, rfl⟩, rfl, rfl, rfl⟩
    refine ⟨hcopied, ((hplot _ hcopied ⟨_, _, _, hopen, rfl, rfl⟩).1 fun d => ?_).2⟩
    rw [hstat]
    simp

/-- A link to a device that keeps nothing. -/
def linked : FileTree where
  nodes := [([.text "n"], .link "/dev/null"), ([.text "dev"], .dir),
    ([.text "dev", .text "null"], .device .null)]
  workDir := []

/-- The program ran, was handed the whole script, wrote something and ended with success, and
nothing is read at the path of the plot. -/
theorem render_discarded :
    (∃ child, Runs ⟨"cat"⟩ copying (Text.Utf8.encode "plot x\n") "n" linked child ∧
      child.status = .ok (.code 0) ∧ child.handed = .ok () ∧ child.output ≠ []) ∧
    (render ⟨"cat"⟩ copying (Text.Utf8.encode "plot x\n") "n" linked).1 = .ok () ∧
    (render ⟨"cat"⟩ copying (Text.Utf8.encode "plot x\n") "n" linked).2.read "n" = .ok [] := by
  have hopen : linked.openWrite true "n" = .ok ([.text "dev", .text "null"], linked) :=
    ok_of_toOption (by decide +kernel)
  exact ⟨⟨_, ⟨_, _, _, hopen, rfl, rfl⟩, rfl, rfl, by decide +kernel⟩,
    ok_of_toOption (by decide +kernel), ok_of_toOption (by decide +kernel)⟩

end PlottingProgram

end SweepPlot
