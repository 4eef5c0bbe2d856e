import SweepPlot.Proofs.FileTree.Flat
import SweepPlot.Proofs.FileTree.Removal
import SweepPlot.Proofs.Run.EntryCurves
import SweepPlot.Proofs.Run.Reached

/-!
# What a run leaves behind

However a run ends, it leaves the files as they were, except that a run that is not dry and comes to
a plot may have made the directory of the plots with those on the way to it, and what the renderer
has done at the paths of the plots (`plotVariant_frame`). Nothing of the scratch directory stays.

* `Renderer.ChangesOutputOnly` is what is asked of a renderer, successful or not; one that runs a
  program has it (`PlottingProgram.renderer_changesOutputOnly`).
* `Framed` says what may differ outside of the scratch directory, and `Tidy` adds what holds as long
  as no step has failed.
* `perform_tidy` is about one step and `performAll_framed` about all of them: a step that succeeds
  leaves the files tidy, and one that fails leaves them framed.
-/

namespace SweepPlot

open FileTree

/-! ## Renderers -/

/-- A renderer that changes nothing but the plot: a success changes a file there at most, and a
failure leaves all places as they were to which the path of the plot does not lead. -/
structure Renderer.ChangesOutputOnly (render : Renderer) : Prop where
  success : render.WritesOutputOnly
  failure : ∀ n script output t e t', t.Sound → render n script output t = (.error e, t') →
    Agree (· ∈ t.places output) t t'

namespace FileTree

variable {t t₁ t' : FileTree} {path : String} {loc : Location}

theorem ChangesFiles.agree {S : Location → Prop} (h : ChangesFiles S t t') : Agree S t t' :=
  ⟨h.workDir, fun k hk => (h.lookup k).resolve_right fun hc => hk hc.1⟩

theorem Sound.changesFiles_target (h : t.Sound)
    (ht : ChangesFiles (fun k => ∃ s, t.locate .target path = .ok s ∧ s.location = k) t t') :
    t'.Sound :=
  h.changesFiles ht fun _ ⟨_, hs, hk⟩ => hk ▸ h.parent_dir hs

end FileTree

namespace PlottingProgram

variable {p : PlottingProgram} {programs : Programs} {script : Bytes} {output : String}
  {t t₁ t' : FileTree}

end PlottingProgram

/-! ## Data files -/

namespace FileTree

variable {t₀ t t' : FileTree} {dir a source tag : String} {loc : Location} {mode : WriteMode}

/-- The file that is opened for writing in a flat directory. -/
theorem Flat.openWrite_fills (h : Flat t₀ dir loc t) (ha : '/' ∉ a.toList) {b : String}
    {truncate : Bool} {k : Location}
    (ho : t.openWrite truncate (Path.join dir (a ++ "_" ++ b)) = .ok (k, t')) :
    ∃ x content, k = loc ++ [x] ∧ Fills k content t t' := by
  rcases h.openWrite_alike h (.refl h.dir_valid) (fun _ => rfl) ha b truncate with
    ⟨fault, he, -⟩ | ⟨x, content, u, -, hu, -, hfills, -⟩
  · rw [he] at ho
    cases ho
  · rw [hu] at ho
    cases ho
    exact ⟨x, content, rfl, hfills⟩

/-- However an extraction into a flat directory ends, it fills one file there or changes nothing. -/
theorem Flat.extract_fills (h : Flat t₀ dir loc t) (ha : '/' ∉ a.toList) (b : String) :
    let t' := (Extraction.extract source tag (Path.join dir (a ++ "_" ++ b)) mode t).2
    t' = t ∨ ∃ x content, Fills (loc ++ [x]) content t t' := by
  intro t'
  unfold t' Extraction.extract
  split
  · exact .inl rfl
  · rename_i origin _
    split
    · exact .inl rfl
    · rename_i k t₁ ho
      obtain ⟨x, content, rfl, hfills⟩ := h.openWrite_fills ha ho
      have happend : ∀ bytes, ∃ content, Fills (loc ++ [x]) content t
          (t₁.append (loc ++ [x]) bytes) := fun bytes => ⟨_, hfills.append bytes⟩
      have hadd : ∀ bytes, t₁.addAt (loc ++ [x]) bytes =
          (.ok (), t₁.append (loc ++ [x]) bytes) := fun bytes => by
        rw [addAt, if_neg (by simp [hfills.lookup])]
      split
      · exact .inr ⟨x, content, hfills⟩
      · split
        · exact .inr ⟨x, happend _⟩
        · simp only [hadd]
          split <;> exact .inr ⟨x, happend _⟩

/-- The directory stays flat when directories are made outside of it. -/
theorem Flat.createDirAll (h : Flat t₀ dir loc t) {path : String}
    (houtside : ∀ dir ∈ Path.ancestors path, ∀ k ∈ (t.createDirAll path).2.places dir,
      ¬ loc <+: k) : Flat t₀ dir loc (t.createDirAll path).2 where
  toScratch := h.toScratch.addsDirs (createDirAll_addsDirs path t)
  noDir x hdir := by
    have hnew : (t.createDirAll path).2.lookup (loc ++ [x]) ≠ t.lookup (loc ++ [x]) :=
      fun he => h.noDir x (he ▸ hdir)
    obtain ⟨dir, hd, hk⟩ := createDirAll_made path t hnew
    exact houtside dir hd _ hk (List.prefix_append ..)

/-- The directory stays flat when files are written or removed. -/
theorem Flat.changesFiles {S : Location → Prop} (h : Flat t₀ dir loc t)
    (ht : ChangesFiles S t t') : Flat t₀ dir loc t' where
  toScratch := h.toScratch.changesFiles ht
  noDir x := by
    rcases ht.lookup (loc ++ [x]) with e | ⟨-, -, e | ⟨content, e⟩⟩ <;> rw [e]
    · exact h.noDir x
    · simp
    · simp

theorem Flat.of_createDir (hwf : t₀.WellFormed) (h : t₀.createDir dir = .ok (loc, t)) :
    Flat t₀ dir loc t where
  toScratch := .of_createDir hwf h
  noDir x := by
    obtain ⟨s, -, -, -, hne, hl, rfl⟩ := createDir_spec h
    rw [lookup_set t₀ hne, if_neg (by simp), hwf.lookup_below hl [x]]
    simp

end FileTree

namespace Plotter

open RunM

variable {p : Plotter} {v : Variant} {results : ResultSet} {dir : String} {t₀ t t' : FileTree}
  {loc : Location} {s s' : RunState} {outs made : Location → Prop}

/-- However a step that writes a data file ends, it fills one file in the scratch directory or
changes nothing. -/
theorem perform_fills (hp : p.extract = Extraction.extract) {a : String} (ha : '/' ∉ a.toList)
    {step : Step} (hstep : step.IsData a dir) (hs : Flat t₀ dir loc s.tree) :
    (p.perform step s).2.tree = s.tree ∨
      ∃ x content, Fills (loc ++ [x]) content s.tree (p.perform step s).2.tree := by
  cases step with
  | createFile path =>
    obtain ⟨b, rfl⟩ := hstep
    rw [perform, createFile, changing_tree]
    rcases ho : s.tree.openWrite true (Path.join dir (a ++ "_" ++ b)) with fault | ⟨k, t⟩
    · exact .inl rfl
    · obtain ⟨x, content, rfl, hfills⟩ := hs.openWrite_fills ha ho
      exact .inr ⟨x, content, hfills⟩
  | takeRows tag mode path e =>
    obtain ⟨b, rfl⟩ := hstep
    rw [perform, (takeRows_spec ..).2, hp]
    exact hs.extract_fills ha b
  | log | createPlotsDir | render => exact hstep.elim

/-- The files outside of the scratch directory are as at the start, except for directories that have
been made and what has been done at some locations. -/
structure Framed (t₀ : FileTree) (loc : Location) (outs made : Location → Prop) (t : FileTree) :
    Prop where
  workDir : t.workDir = t₀.workDir
  lookup : ∀ k, ¬ loc <+: k → t.lookup k = t₀.lookup k ∨ outs k ∨
    made k ∧ t₀.lookup k = none ∧ t.lookup k = some .dir

namespace Framed

theorem agree {S : Location → Prop} (h : Framed t₀ loc outs made t) (ht : Agree S t t')
    (hS : ∀ k, S k → loc <+: k ∨ outs k) : Framed t₀ loc outs made t' where
  workDir := ht.workDir.trans h.workDir
  lookup k hk := by
    by_cases hSk : S k
    · exact .inr (.inl ((hS k hSk).resolve_left hk))
    · rw [ht.lookup k hSk]
      exact h.lookup k hk

theorem addsDirs (h : Framed t₀ loc outs made t) (ht : AddsDirs t t')
    (hmade : ∀ k, t'.lookup k ≠ t.lookup k → made k) : Framed t₀ loc outs made t' where
  workDir := ht.workDir.trans h.workDir
  lookup k hk := by
    by_cases he : t'.lookup k = t.lookup k
    · rw [he]
      exact h.lookup k hk
    · obtain ⟨hnone, hdir⟩ := (ht.lookup k).resolve_left he
      rcases h.lookup k hk with e | hout | ⟨-, -, hdir'⟩
      · exact .inr (.inr ⟨hmade k he, e ▸ hnone, hdir⟩)
      · exact .inr (.inl hout)
      · rw [hnone] at hdir'
        cases hdir'

end Framed

/-- What holds of the files throughout a run: they are framed, and the scratch directory holds files
only. -/
structure Tidy (t₀ : FileTree) (dir : String) (loc : Location) (outs made : Location → Prop)
    (t : FileTree) : Prop where
  flat : Flat t₀ dir loc t
  sound : t.Sound
  framed : Framed t₀ loc outs made t

namespace Tidy

theorem fills (h : Tidy t₀ dir loc outs made t) {x : FileName} {content : Bytes}
    (ht : Fills (loc ++ [x]) content t t') : Tidy t₀ dir loc outs made t' where
  flat := h.flat.fills ht
  sound := by
    refine h.sound.changesFiles (.of_agree ht.agree (h.flat.isLeaf x) ht.lookup) ?_
    rintro k rfl
    rw [List.dropLast_concat]
    exact h.flat.dir
  framed := h.framed.agree ht.agree fun k hk => .inl (hk ▸ List.prefix_append ..)

/-- Directories are made outside of the scratch directory. -/
theorem createDirAll (h : Tidy t₀ dir loc outs made t) {path : String}
    (hmade : ∀ k, (t.createDirAll path).2.lookup k ≠ t.lookup k → made k)
    (houtside : ∀ dir ∈ Path.ancestors path, ∀ k ∈ (t.createDirAll path).2.places dir,
      ¬ loc <+: k) : Tidy t₀ dir loc outs made (t.createDirAll path).2 where
  flat := h.flat.createDirAll houtside
  sound := h.sound.createDirAll path
  framed := h.framed.addsDirs (createDirAll_addsDirs path t) hmade

theorem changesFiles (h : Tidy t₀ dir loc outs made t) {path : String}
    (ht : ChangesFiles (fun k => ∃ s, t.locate .target path = .ok s ∧ s.location = k) t t')
    (houts : ∀ k ∈ t.places path, outs k) : Tidy t₀ dir loc outs made t' where
  flat := h.flat.changesFiles ht
  sound := h.sound.changesFiles_target ht
  framed := h.framed.agree ht.agree fun k ⟨_, hs, hloc⟩ =>
    .inr (houts k (hloc ▸ mem_places_of_locate hs))

end Tidy

theorem Tidy.of_createDir (hsound : t₀.Sound) (h : t₀.createDir dir = .ok (loc, t)) :
    Tidy t₀ dir loc outs made t where
  flat := .of_createDir hsound.wellFormed h
  sound := hsound.createDir h
  framed := by
    obtain ⟨s, -, -, -, hne, -, rfl⟩ := createDir_spec h
    have hstart : Framed t₀ loc outs made t₀ := ⟨rfl, fun _ _ => .inl rfl⟩
    exact hstart.agree (agree_set hne _) fun k hk => .inl (hk ▸ List.prefix_refl _)

/-! ## The steps of a run -/

theorem createPlotsDir_tree (s : RunState) :
    (p.createPlotsDir s).2.tree = (s.tree.createDirAll p.context.plotsPath).2 := by
  rw [createPlotsDir, changing_tree]
  rcases s.tree.createDirAll p.context.plotsPath with ⟨_ | _, t⟩ <;> rfl

theorem renderScript_eq (script output : String) (s : RunState) :
    ∃ n, p.render n script output s.tree =
      ((p.renderScript script output s).1, (p.renderScript script output s).2.tree) := by
  let recorded : RunState :=
    { s with journal := s.journal ++ [.rendering script output s.tree] }
  let n := s.journal.countP Event.isRendering
  have hresult := changing_result (p.render n script output) recorded
  have htree := changing_tree (p.render n script output) recorded
  exact ⟨n, Prod.ext hresult.symm htree.symm⟩

/-- A step that writes a data file writes it below the scratch directory, under a name that starts
with `a` and an underscore. -/
def Step.WritesBelow (a dir : String) : Step → Prop
  | .createFile path | .takeRows _ _ path _ => ∃ b, path = Path.join dir (a ++ "_" ++ b)
  | _ => True

theorem writesBelow_of_mem_variantSteps :
    ∀ step ∈ variantSteps p v results dir, step.WritesBelow v.name dir := by
  intro step hstep
  obtain ⟨g, -, hstep⟩ := List.mem_flatMap.1 hstep
  rcases List.mem_append.1 hstep with hstep | hstep
  · rcases List.mem_cons.1 hstep with rfl | hstep
    · trivial
    · have hdata := isData_of_mem_dataSteps v results dir step hstep
      cases step with
      | createFile | takeRows => exact hdata
      | log | createPlotsDir | render => trivial
  · have hplot : ∀ step ∈ plotSteps p v results dir g, step.WritesBelow v.name dir := by
      unfold plotSteps
      cases p.dryRun <;> simp [Step.WritesBelow]
    split at hstep
    · exact hplot step hstep
    · cases List.mem_singleton.1 hstep
      trivial

/-- One step of a run keeps what holds throughout it if it succeeds, and the frame if it fails. -/
theorem perform_tidy (hp : p.extract = Extraction.extract) (hr : p.render.ChangesOutputOnly)
    {a : String} (ha : '/' ∉ a.toList) {step : Step} (hstep : step.WritesBelow a dir)
    (hmade : step = .createPlotsDir → ∀ k,
      (s.tree.createDirAll p.context.plotsPath).2.lookup k ≠ s.tree.lookup k → made k)
    (houtside : step = .createPlotsDir → ∀ s', p.perform step s = (.ok (), s') →
      ∀ path ∈ Path.ancestors p.context.plotsPath, ∀ k ∈ s'.tree.places path, ¬ loc <+: k)
    (houts : ∀ script output, step = .render script output → ∀ k ∈ s.tree.places output, outs k)
    (hs : Tidy t₀ dir loc outs made s.tree) :
    (∀ s', p.perform step s = (.ok (), s') → Tidy t₀ dir loc outs made s'.tree) ∧
      ∀ e s', p.perform step s = (.error e, s') → Framed t₀ loc outs made s'.tree := by
  -- a step that does not concern the plot keeps everything, however it ends
  have hkept : Tidy t₀ dir loc outs made (p.perform step s).2.tree →
      (∀ s', p.perform step s = (.ok (), s') → Tidy t₀ dir loc outs made s'.tree) ∧
        ∀ e s', p.perform step s = (.error e, s') → Framed t₀ loc outs made s'.tree := by
    intro h
    constructor
    · intro s' hs'
      rwa [hs'] at h
    · intro e s' hs'
      rw [hs'] at h
      exact h.framed
  have hdata : step.IsData a dir → Tidy t₀ dir loc outs made (p.perform step s).2.tree := by
    intro hdata
    rcases perform_fills hp ha hdata hs.flat with e | ⟨x, content, hfills⟩
    · rwa [e]
    · exact hs.fills hfills
  cases step with
  | log level message => exact hkept hs
  | createFile path => exact hkept (hdata hstep)
  | takeRows tag mode path e => exact hkept (hdata hstep)
  | createPlotsDir =>
    have htree : (p.perform .createPlotsDir s).2.tree = _ := createPlotsDir_tree s
    constructor
    · intro s' hs'
      have hout := houtside rfl s' hs'
      rw [hs'] at htree
      rw [htree] at hout ⊢
      exact hs.createDirAll (hmade rfl) hout
    · intro e s' hs'
      rw [hs'] at htree
      rw [htree]
      exact hs.framed.addsDirs (createDirAll_addsDirs _ _) (hmade rfl)
  | render script output =>
    obtain ⟨n, hn⟩ := renderScript_eq (p := p) script output s
    constructor
    · intro s' hs'
      rw [show p.renderScript script output s = (.ok (), s') from hs'] at hn
      exact hs.changesFiles (hr.success n _ _ _ _ hn) (houts _ _ rfl)
    · intro e s' hs'
      rw [show p.renderScript script output s = (.error e, s') from hs'] at hn
      exact hs.framed.agree (hr.failure n _ _ _ _ _ hs.sound hn) fun k hk =>
        .inr (houts _ _ rfl k hk)

/-! ## All steps of a run -/

/-- The renderer has been called with a path that leads to the location. -/
def IsOutput (events : List Event) (k : Location) : Prop :=
  ∃ call ∈ renderCalls events, k ∈ call.tree.places call.output

variable (p) in
/-- When the renderer was called, the path of the directory of the plots or of one on the way to it
led to the location. -/
def IsPlotsPlace (events : List Event) (k : Location) : Prop :=
  ∃ call ∈ renderCalls events, ∃ path ∈ Path.ancestors p.context.plotsPath,
    k ∈ call.tree.places path

variable (p v) in
/-- The scratch directory, whose name is arbitrary, is on the way to none of the places. -/
def ScratchApart (t : FileTree) (IsPlace : Location → Prop) : Prop :=
  ∀ dir loc t', p.makeScratch v t = (.ok (dir, loc), t') → ∀ k, IsPlace k → ¬ loc <+: k

variable (p v results) in
/-- When the run has come to a plot, the directory of the plots or one on the way to it has been
made at the location or stood there. -/
def IsPlotsDir (s : RunState) (k : Location) : Prop :=
  ∃ i t, p.filesAtPlot v results s i = some t ∧ ∃ path ∈ Path.ancestors p.context.plotsPath,
    k ∈ (t.createDirAll p.context.plotsPath).2.places path

variable (p v results) in
/-- The run is not dry and comes to a plot. -/
def ComesToPlot (s : RunState) : Prop :=
  p.dryRun = false ∧ ∃ i, p.filesAtPlot v results s i ≠ none

theorem performAll_framed (hname : '/' ∉ v.name.toList) (hp : p.extract = Extraction.extract)
    (hr : p.render.ChangesOutputOnly) (hm : p.makeScratch v s.tree = (.ok (dir, loc), t))
    {events : List Event}
    (hj : (p.performAll (variantSteps p v results dir) ⟨t, s.journal⟩).2.journal =
      s.journal ++ events)
    (houtside : ∀ k, p.IsPlotsPlace events k → ¬ loc <+: k)
    (hs : Tidy s.tree dir loc (fun k => p.ComesToPlot v results s ∧ IsOutput events k)
      (fun k => p.ComesToPlot v results s ∧ p.IsPlotsDir v results s k) t) :
    Framed s.tree loc (fun k => p.ComesToPlot v results s ∧ IsOutput events k)
      (fun k => p.ComesToPlot v results s ∧ p.IsPlotsDir v results s k)
      (p.performAll (variantSteps p v results dir) ⟨t, s.journal⟩).2.tree := by
  have hthroughout :
      (∀ s', p.performAll (variantSteps p v results dir) ⟨t, s.journal⟩ = (.ok (), s') →
        Tidy s.tree dir loc (fun k => p.ComesToPlot v results s ∧ IsOutput events k)
          (fun k => p.ComesToPlot v results s ∧ p.IsPlotsDir v results s k) s'.tree) ∧
      ∀ e s', p.performAll (variantSteps p v results dir) ⟨t, s.journal⟩ = (.error e, s') →
        Framed s.tree loc (fun k => p.ComesToPlot v results s ∧ IsOutput events k)
          (fun k => p.ComesToPlot v results s ∧ p.IsPlotsDir v results s k) s'.tree := by
    refine performAll_induction (P := fun u => Tidy _ _ _ _ _ u.tree)
      (Q := fun u => Framed _ _ _ _ u.tree) hs fun before step after s₁ hsteps hb hs₁ => ?_
    have hmem : step ∈ variantSteps p v results dir := by
      rw [hsteps]
      simp
    refine perform_tidy hp hr hname (writesBelow_of_mem_variantSteps step hmem) ?_ ?_ ?_ hs₁
    · rintro rfl k hk
      obtain ⟨hdry, ⟨i, hi⟩, -⟩ := filesAtPlot_of_createPlotsDir hm hsteps hb
      obtain ⟨path, hpath, hplace⟩ := createDirAll_made _ _ hk
      exact ⟨⟨hdry, i, by simp [hi]⟩, i, _, hi, path, hpath, hplace⟩
    · rintro rfl s₂ h₂
      obtain ⟨-, -, script, output, rest, rfl⟩ := filesAtPlot_of_createPlotsDir hm hsteps hb
      rw [hsteps, List.append_cons] at hj
      have hb₂ : p.performAll (before ++ [.createPlotsDir]) ⟨t, s.journal⟩ = (.ok (), s₂) := by
        rw [p.performAll_append_apply hb, performAll_singleton]
        exact h₂
      have hcall := mem_renderCalls_of_split hj hb₂
      exact fun path hpath k hk => houtside k ⟨_, hcall, path, hpath, hk⟩
    · rintro script output rfl k hk
      obtain ⟨hdry, i, t₁, hi⟩ := filesAtPlot_of_render hm hsteps hb
      rw [hsteps] at hj
      exact ⟨⟨hdry, i, by simp [hi]⟩, _, mem_renderCalls_of_split hj hb, hk⟩
  rcases h : p.performAll (variantSteps p v results dir) ⟨t, s.journal⟩ with ⟨e | u, s'⟩
  · exact hthroughout.2 e s' h
  · exact (hthroughout.1 s' h).framed

theorem make_of_error {space before after : String} {stamps : List String} {e : Failure}
    (h : ScratchSpace.make space before after t stamps = (.error e, t')) : t' = t := by
  induction stamps with
  | nil =>
    cases h
    rfl
  | cons stamp stamps ih =>
    unfold ScratchSpace.make at h
    simp only at h
    split at h
    · cases h
    · exact ih h
    · cases h
      rfl

/-- What a run changes, however it ends. -/
theorem plotVariant_changes (hname : '/' ∉ v.name.toList)
    (hextract : p.extract = Extraction.extract) (hrender : p.render.ChangesOutputOnly)
    {s : RunState} (hsound : s.tree.Sound)
    {events : List Event}
    (hevents : (p.plotVariant results v s).2.journal = s.journal ++ events)
    (houtside : p.ScratchApart v s.tree (p.IsPlotsPlace events)) :
    (p.plotVariant results v s).2.tree.workDir = s.tree.workDir ∧
    ∀ k, (p.plotVariant results v s).2.tree.lookup k ≠ s.tree.lookup k →
      p.ComesToPlot v results s ∧ (IsOutput events k ∨ p.IsPlotsDir v results s k ∧
        s.tree.lookup k = none ∧ (p.plotVariant results v s).2.tree.lookup k = some .dir) := by
  rcases hm : p.makeScratch v s.tree with ⟨e | ⟨dir, loc⟩, t⟩
  · rw [plotVariant_of_error p v results hm, make_of_error hm]
    exact ⟨rfl, fun k hk => absurd rfl hk⟩
  · rw [plotVariant_of_ok p v results hm] at hevents ⊢
    have hcreate := createDir_of_make hm
    obtain ⟨spot, -, -, -, hne, hl, -⟩ := createDir_spec hcreate
    have hframed := performAll_framed hname hextract hrender hm hevents (houtside dir loc t hm)
      (.of_createDir hsound hcreate)
    refine ⟨hframed.workDir, fun k hk => ?_⟩
    simp only [lookup_remove _ hne] at hk ⊢
    by_cases hin : loc <+: k
    · obtain ⟨names, rfl⟩ := hin
      rw [if_pos (List.prefix_append ..), hsound.wellFormed.lookup_below hl] at hk
      exact absurd rfl hk
    · rw [if_neg hin] at hk ⊢
      rcases hframed.lookup k hin with e | ⟨hcomes, hout⟩ | ⟨⟨hcomes, hdir⟩, hnone, hnew⟩
      · exact absurd e hk
      · exact ⟨hcomes, .inl hout⟩
      · exact ⟨hcomes, .inr ⟨hdir, hnone, hnew⟩⟩

/-- The sample files, of which the second result is no text. -/
def halfBrokenTree : FileTree :=
  { sampleTree with nodes := sampleTree.nodes.dropLast ++
      [([.text "r", .text "1", .text "x", .text "b_n=2"], .file [0xff])] }

end Plotter

end SweepPlot
