import SweepPlot.Proofs.FileTree.Scratch

/-!
# Sound trees

In a sound tree all that stands somewhere stands in a directory, and relative paths start from one.
Then a path that leads somewhere leads to a name in a directory (`Sound.parent_dir`), which is why
the changes that a run makes keep a tree sound (`Sound.addsDirs`, `Sound.changesFiles`).

* `places` lists where a path leads, with a link at its end followed or not.
* `createDirAll_made` says that the directories made for a path are those on the way to it.
-/

namespace SweepPlot.FileTree

variable {t t' t'' : FileTree} {aim : Aim} {links : Nat} {here : Location}
  {steps : List Route.Step} {dirOnly : Bool} {s : Spot} {path : String} {k loc : Location}

/-! ## The directory of a place -/

/-- What stands somewhere stands in a directory, and so does what relative paths start from. -/
structure Sound (t : FileTree) : Prop where
  wellFormed : t.WellFormed
  workDir : t.lookup t.workDir = some .dir

theorem WellFormed.lookup_dropLast (h : t.WellFormed) (hk : t.lookup k ≠ none) :
    t.lookup k.dropLast = some .dir := by
  rcases List.eq_nil_or_concat k with rfl | ⟨loc, name, rfl⟩
  · exact lookup_nil t
  · rw [List.concat_eq_append] at hk ⊢
    rw [List.dropLast_concat]
    exact h loc name hk

/-- Steps that start in a directory lead to a name in a directory, or to the root. -/
theorem Leads.parent_dir (hw : Leads t aim links here steps dirOnly s) (hwf : t.WellFormed)
    (hhere : t.lookup here = some .dir) : t.lookup s.location.dropLast = some .dir := by
  induction hw with
  | done => exact hwf.lookup_dropLast (by simp [hhere])
  | up _ ih => exact ih (hwf.lookup_dropLast (by simp [hhere]))
  | stay _ ih => exact ih hhere
  | dir _ _ hl _ ih => exact ih hl
  | leaf | named => rwa [List.dropLast_concat]
  | link _ _ _ _ _ _ ih =>
    refine ih ?_
    split
    · exact lookup_nil t
    · exact hhere

/-- A place that is no directory shows what stands at its location. -/
theorem Leads.lookup_eq (hw : Leads t aim links here steps dirOnly s) (hs : s.node ≠ some .dir) :
    t.lookup s.location = s.node := by
  induction hw with
  | done => exact absurd rfl hs
  | leaf => rfl
  | named _ _ hl => exact hl
  | up _ ih | stay _ ih | dir _ _ _ _ ih | link _ _ _ _ _ _ ih => exact ih hs

theorem Sound.lookup_start (h : t.Sound) (path : String) : t.lookup (t.start path) = some .dir := by
  unfold start
  split
  · exact lookup_nil t
  · exact h.workDir

/-- A path leads to a name in a directory, or to the root. -/
theorem Sound.parent_dir (h : t.Sound) (hs : t.locate aim path = .ok s) :
    t.lookup s.location.dropLast = some .dir :=
  (locate_eq_ok_iff.1 hs).2.parent_dir h.wellFormed (h.lookup_start path)

/-- A tree stays sound if only leaves change, and what is new stands in a directory. -/
theorem Sound.of_lookup (h : t.Sound) (hwork : t'.workDir = t.workDir)
    (hk : ∀ k, t'.lookup k = t.lookup k ∨
      IsLeaf (t.lookup k) ∧ (t'.lookup k = none ∨ t.lookup k.dropLast = some .dir)) :
    t'.Sound := by
  have hdir : ∀ {k}, t.lookup k = some .dir → t'.lookup k = some .dir := by
    intro k hd
    rcases hk k with e | ⟨hl, -⟩
    · rw [e, hd]
    · exact absurd hd hl.1
  constructor
  · intro loc name hne
    rcases hk (loc ++ [name]) with e | ⟨-, hn | hd⟩
    · rw [e] at hne
      exact hdir (h.wellFormed loc name hne)
    · exact absurd hn hne
    · rw [List.dropLast_concat] at hd
      exact hdir hd
  · rw [hwork]
    exact hdir h.workDir

theorem Sound.changesFiles {S : Location → Prop} (h : t.Sound) (ht : ChangesFiles S t t')
    (hS : ∀ k, S k → t.lookup k.dropLast = some .dir) : t'.Sound :=
  h.of_lookup ht.workDir fun k => (ht.lookup k).imp_right fun hk => ⟨hk.2.1, .inr (hS k hk.1)⟩

theorem Sound.createDir (h : t.Sound) (hc : t.createDir path = .ok (loc, t')) : t'.Sound := by
  obtain ⟨s, hs, rfl, -, hne, hl, rfl⟩ := createDir_spec hc
  refine h.of_lookup rfl fun k => ?_
  rw [lookup_set t hne]
  split
  · rename_i hk
    subst hk
    exact .inr ⟨hl ▸ isLeaf_none, .inr (h.parent_dir hs)⟩
  · exact .inl rfl

theorem Sound.createDirAll (h : t.Sound) (path : String) : (t.createDirAll path).2.Sound :=
  createDirs_induction _ (fun _ _ _ _ _ h hc => h.createDir hc) h

/-! ## Where a path leads -/

/-- The locations to which a path leads, with a link at its end not followed and followed. -/
def places (t : FileTree) (path : String) : List Location :=
  [Aim.name, .target].filterMap fun aim => (t.locate aim path).toOption.map Spot.location

theorem mem_places_iff : k ∈ t.places path ↔
    ∃ aim, aim ≠ .writing ∧ ∃ s, t.locate aim path = .ok s ∧ s.location = k := by
  have hlocate : ∀ aim, (t.locate aim path).toOption.map Spot.location = some k ↔
      ∃ s, t.locate aim path = .ok s ∧ s.location = k := by
    intro aim
    cases t.locate aim path <;> simp [Except.toOption]
  simp only [places, List.mem_filterMap, hlocate]
  refine exists_congr fun aim => and_congr_left fun _ => ?_
  cases aim <;> simp

theorem mem_places_of_locate (hs : t.locate aim path = .ok s) : s.location ∈ t.places path := by
  by_cases ha : aim = .writing
  · subst ha
    obtain ⟨hv, hw⟩ := locate_eq_ok_iff.1 hs
    have htarget := locate_eq_ok_iff.2 ⟨hv, hw.target_of_writing⟩
    exact mem_places_iff.2 ⟨.target, by simp, s, htarget, rfl⟩
  · exact mem_places_iff.2 ⟨aim, ha, s, hs, rfl⟩

/-- A place keeps its location while the ways are kept and no link takes it. -/
theorem KeepsWays.leads_place (h : KeepsWays t t') (hw : Leads t aim links here steps dirOnly s)
    (ha : aim ≠ .writing)
    (hs : IsLeaf s.node → ∀ target, t'.lookup s.location ≠ some (.link target)) :
    ∃ s', Leads t' aim links here steps dirOnly s' ∧ s'.location = s.location := by
  induction hw with
  | done => exact ⟨_, .done, rfl⟩
  | up _ ih =>
    obtain ⟨s', hw', hloc⟩ := ih hs
    exact ⟨s', .up hw', hloc⟩
  | stay _ ih =>
    obtain ⟨s', hw', hloc⟩ := ih hs
    exact ⟨s', .stay hw', hloc⟩
  | dir hwr hlen hl _ ih =>
    obtain ⟨s', hw', hloc⟩ := ih hs
    exact ⟨s', .dir hwr hlen (h.dir hl) hw', hloc⟩
  | @leaf links here name dirOnly hwr hlen hl =>
    by_cases hdir : t'.lookup (here ++ [name]) = some .dir
    · exact ⟨_, .dir (fun e => ha e.1) hlen hdir .done, rfl⟩
    · exact ⟨_, .leaf hwr hlen ⟨hdir, hs hl⟩, rfl⟩
  | named hn hlen hl => exact ⟨_, .named hn hlen (h.link hl), rfl⟩
  | link hwr hlen hl hn ht _ ih =>
    obtain ⟨s', hw', hloc⟩ := ih hs
    exact ⟨s', .link hwr hlen (h.link hl) hn ht hw', hloc⟩

theorem KeepsWays.mem_places (h : KeepsWays t t') (hp : k ∈ t.places path)
    (hk : ∀ target, t'.lookup k = some (.link target) → t.lookup k = some (.link target)) :
    k ∈ t'.places path := by
  obtain ⟨aim, ha, s, hs, rfl⟩ := mem_places_iff.1 hp
  obtain ⟨hv, hw⟩ := locate_eq_ok_iff.1 hs
  have hno : IsLeaf s.node → ∀ target, t'.lookup s.location ≠ some (.link target) := by
    intro hleaf target hl
    rw [hw.node_eq hleaf] at hleaf
    exact hleaf.2 target (hk target hl)
  obtain ⟨s', hw', hloc⟩ := h.leads_place hw ha hno
  rw [start_congr h.workDir path] at hw'
  exact hloc ▸ mem_places_of_locate (locate_eq_ok_iff.2 ⟨hv, hw'⟩)

/-- A path leads where it led when directories are made. -/
theorem AddsDirs.mem_places (h : AddsDirs t t') (hp : k ∈ t.places path) : k ∈ t'.places path := by
  refine (Grows.of_addsDirs (S := fun _ => False) h).keepsWays.mem_places hp fun target hl => ?_
  rcases h.lookup k with e | ⟨-, hd⟩
  · rwa [← e]
  · rw [hd] at hl
    cases hl

/-- The directories that are made are those to which the paths lead. -/
theorem createDirs_made (paths : List String) (t : FileTree)
    (hk : (t.createDirs paths).2.lookup k ≠ t.lookup k) :
    ∃ path ∈ paths, k ∈ (t.createDirs paths).2.places path := by
  -- the second part needs the first one, by which paths that led somewhere lead there still
  have hmade : AddsDirs t (t.createDirs paths).2 ∧
      ∀ k, (t.createDirs paths).2.lookup k ≠ t.lookup k →
        ∃ path ∈ paths, k ∈ (t.createDirs paths).2.places path := by
    refine createDirs_induction (P := fun u => AddsDirs t u ∧
      ∀ k, u.lookup k ≠ t.lookup k → ∃ path ∈ paths, k ∈ u.places path) paths ?_
      ⟨.refl t, fun k hk => absurd rfl hk⟩
    rintro path hp u loc u' ⟨hadds, hall⟩ hc
    have hadds' := createDir_addsDirs hc
    refine ⟨hadds.trans hadds', fun k hk => ?_⟩
    obtain ⟨s, hs, rfl, -, hne, -, rfl⟩ := createDir_spec hc
    by_cases hkl : k = s.location
    · subst hkl
      exact ⟨path, hp, hadds'.mem_places (mem_places_of_locate hs)⟩
    · rw [lookup_set u hne, if_neg hkl] at hk
      obtain ⟨path', hp', hplace⟩ := hall k hk
      exact ⟨path', hp', hadds'.mem_places hplace⟩
  exact hmade.2 k hk

/-- The directories made for a path are those on the way to it. -/
theorem createDirAll_made (path : String) (t : FileTree)
    (hk : (t.createDirAll path).2.lookup k ≠ t.lookup k) :
    ∃ dir ∈ Path.ancestors path, k ∈ (t.createDirAll path).2.places dir :=
  createDirs_made _ t hk

end SweepPlot.FileTree
