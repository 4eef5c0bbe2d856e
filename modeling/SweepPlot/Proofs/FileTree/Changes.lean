import SweepPlot.Proofs.FileTree.Ways

/-!
# What operations change

Each operation on a tree is described by what stands where afterwards.

* `Agree S t t'` says that two trees differ at most at the locations in `S`.
* `openWrite_spec` and `append_spec` say that writing to a path changes one file.
* `createDirs_induction` is the rule for what holds of a tree while directories are made, and
  `createDirAll_addsDirs` says that making them takes nothing away.
* `Grows` says that what stood somewhere still does, a file perhaps with another content.
-/

namespace SweepPlot.FileTree

variable {t t' t'' : FileTree}

/-- The trees agree at all locations that `S` does not hold of. -/
structure Agree (S : Location → Prop) (t t' : FileTree) : Prop where
  workDir : t'.workDir = t.workDir
  lookup : ∀ k, ¬ S k → t'.lookup k = t.lookup k

namespace Agree

variable {S : Location → Prop}

theorem refl (S : Location → Prop) (t : FileTree) : Agree S t t := ⟨rfl, fun _ _ => rfl⟩

theorem trans (h : Agree S t t') (h' : Agree S t' t'') : Agree S t t'' :=
  ⟨h'.workDir.trans h.workDir, fun k hk => (h'.lookup k hk).trans (h.lookup k hk)⟩

end Agree

theorem agree_set {loc : Location} (h : loc ≠ []) (node : Node) :
    Agree (· = loc) t (t.set loc node) :=
  ⟨rfl, fun k hk => by rw [lookup_set t h, if_neg hk]⟩

theorem lookup_set_self {loc : Location} (h : loc ≠ []) (node : Node) :
    (t.set loc node).lookup loc = some node := by
  rw [lookup_set t h, if_pos rfl]

theorem lookup_nil (t : FileTree) : t.lookup [] = some .dir := if_pos rfl

theorem ne_nil_of_lookup_file {loc : Location} {content : Bytes}
    (h : t.lookup loc = some (.file content)) : loc ≠ [] := by
  rintro rfl
  rw [lookup_nil] at h
  cases h

/-- Opening a file for writing creates or empties it, or leaves it as it is. -/
theorem openWrite_spec {truncate : Bool} {path : String} {loc : Location}
    (h : t.openWrite truncate path = .ok (loc, t')) :
    ∃ s, t.locate .writing path = .ok s ∧ s.location = loc ∧ s.node = t.lookup loc ∧
      Agree (· = loc) t t' ∧
      ((t.lookup loc = none ∧ t'.lookup loc = some (.file [])) ∨
        (∃ content, t.lookup loc = some (.file content) ∧
          t'.lookup loc = some (.file (if truncate then [] else content))) ∨
        ∃ d, t.lookup loc = some (.device d) ∧ t'.lookup loc = some (.device d)) := by
  unfold openWrite at h
  rcases hp : t.locate .writing path with e | s
  · rw [hp] at h
    cases h
  have hw := (locate_eq_ok_iff.1 hp).2
  rw [hp] at h
  simp only [bind, Except.bind] at h
  split at h
  · cases h
  rcases hn : s.node with _ | ⟨content | _ | target | d⟩ <;> rw [hn] at h <;> simp only at h
  · have hl : t.lookup s.location = none := by
      rw [← hw.node_eq (hn ▸ isLeaf_none), hn]
    have hne := hw.location_ne_nil (by simp [hn])
    cases h
    exact ⟨s, rfl, rfl, hn.trans hl.symm, agree_set hne _, .inl ⟨hl, lookup_set_self hne _⟩⟩
  · have hl : t.lookup s.location = some (.file content) := by
      rw [← hw.node_eq (hn ▸ isLeaf_file content), hn]
    have hne := hw.location_ne_nil (by simp [hn])
    cases truncate <;> cases h
    · exact ⟨s, rfl, rfl, hn.trans hl.symm, .refl _ _, .inr (.inl ⟨content, hl, hl⟩)⟩
    · exact ⟨s, rfl, rfl, hn.trans hl.symm, agree_set hne _,
        .inr (.inl ⟨content, hl, lookup_set_self hne _⟩)⟩
  · cases h
  · cases h
  · have hl : t.lookup s.location = some (.device d) := by
      rw [← hw.node_eq (hn ▸ isLeaf_device d), hn]
    cases h
    exact ⟨s, rfl, rfl, hn.trans hl.symm, .refl _ _, .inr (.inr ⟨d, hl, hl⟩)⟩

/-- Adding to a file changes that file only. -/
theorem append_spec {loc : Location} {content : Bytes}
    (h : t.lookup loc = some (.file content)) (bytes : Bytes) :
    Agree (· = loc) t (t.append loc bytes) ∧
      (t.append loc bytes).lookup loc = some (.file (content ++ bytes)) := by
  have hne := ne_nil_of_lookup_file h
  have hc : t.content? loc = some content := by rw [content?, h]
  rw [append, hc]
  exact ⟨agree_set hne _, lookup_set_self hne _⟩

theorem append_agree (t : FileTree) (loc : Location) (bytes : Bytes) :
    Agree (· = loc) t (t.append loc bytes) := by
  rcases hl : t.lookup loc with _ | ⟨content | _ | target | d⟩
  case some.file => exact (append_spec hl bytes).1
  all_goals
    rw [append, content?, hl]
    exact .refl _ _

/-! ## Writing and removing files -/

/-- The trees differ at most in files at locations in `S`, which may be new, changed or gone. -/
structure ChangesFiles (S : Location → Prop) (t t' : FileTree) : Prop where
  workDir : t'.workDir = t.workDir
  lookup : ∀ k, t'.lookup k = t.lookup k ∨ S k ∧ IsLeaf (t.lookup k) ∧
    (t'.lookup k = none ∨ ∃ content, t'.lookup k = some (.file content))

namespace ChangesFiles

variable {S : Location → Prop}

theorem of_agree {loc : Location} {content : Bytes} (h : Agree (· = loc) t t')
    (hl : IsLeaf (t.lookup loc)) (hl' : t'.lookup loc = some (.file content)) :
    ChangesFiles (· = loc) t t' := by
  refine ⟨h.workDir, fun k => ?_⟩
  by_cases hk : k = loc
  · subst hk
    exact .inr ⟨rfl, hl, .inr ⟨content, hl'⟩⟩
  · exact .inl (h.lookup k hk)

theorem keepsWays (h : ChangesFiles S t t') : KeepsWays t t' where
  workDir := h.workDir
  dir {k} hk := by
    rcases h.lookup k with e | ⟨-, hl, -⟩
    · rw [e, hk]
    · exact absurd hk hl.1
  link {k target} hk := by
    rcases h.lookup k with e | ⟨-, hl, -⟩
    · rw [e, hk]
    · exact absurd hk (hl.2 target)

end ChangesFiles

/-! ## Making directories -/

/-- The second tree has more directories, and else what the first one has. -/
structure AddsDirs (t t' : FileTree) : Prop where
  workDir : t'.workDir = t.workDir
  lookup : ∀ k, t'.lookup k = t.lookup k ∨ (t.lookup k = none ∧ t'.lookup k = some .dir)

namespace AddsDirs

theorem refl (t : FileTree) : AddsDirs t t := ⟨rfl, fun _ => .inl rfl⟩

theorem trans (h : AddsDirs t t') (h' : AddsDirs t' t'') : AddsDirs t t'' := by
  refine ⟨h'.workDir.trans h.workDir, fun k => ?_⟩
  rcases h'.lookup k with e | ⟨hn, hd⟩
  · rw [e]
    exact h.lookup k
  · rcases h.lookup k with e | ⟨-, hd'⟩
    · exact .inr ⟨e ▸ hn, hd⟩
    · rw [hn] at hd'
      cases hd'

/-- What stood somewhere stands there still. -/
theorem lookup_of_some (h : AddsDirs t t') {k : Location} {n : Node} (hk : t.lookup k = some n) :
    t'.lookup k = some n := by
  rcases h.lookup k with e | ⟨hn, -⟩
  · rw [e, hk]
  · rw [hn] at hk
    cases hk

end AddsDirs

/-- A directory is made where nothing stands. -/
theorem createDir_spec {path : String} {loc : Location}
    (h : t.createDir path = .ok (loc, t')) :
    ∃ s, t.locate .name path = .ok s ∧ s.location = loc ∧ s.node = none ∧ loc ≠ [] ∧
      t.lookup loc = none ∧ t' = t.set loc .dir := by
  unfold createDir at h
  rcases hp : t.locate .name path with e | s <;> rw [hp] at h
  · cases h
  have hw := (locate_eq_ok_iff.1 hp).2
  rcases hn : s.node with _ | n <;> simp only [bind, Except.bind, hn] at h
  · cases h
    refine ⟨s, rfl, rfl, hn, hw.location_ne_nil (by simp [hn]), ?_, rfl⟩
    rw [← hw.node_eq (hn ▸ isLeaf_none), hn]
  · cases h

theorem createDir_addsDirs {path : String} {loc : Location}
    (h : t.createDir path = .ok (loc, t')) : AddsDirs t t' := by
  obtain ⟨s, -, -, -, hne, hl, rfl⟩ := createDir_spec h
  refine ⟨rfl, fun k => ?_⟩
  rw [lookup_set t hne]
  split
  · rename_i hk
    exact .inr ⟨hk ▸ hl, rfl⟩
  · exact .inl rfl

/-- What the making of each directory keeps is kept when several are made. -/
theorem createDirs_induction {P : FileTree → Prop} (paths : List String)
    (hstep : ∀ path ∈ paths, ∀ {t loc t'}, P t → t.createDir path = .ok (loc, t') → P t')
    (h : P t) : P (t.createDirs paths).2 := by
  induction paths with
  | nil => exact h
  | cons path parents ih =>
    have hparents : P (t.createDirs parents).2 :=
      ih fun path hp _ _ _ => hstep path (List.mem_cons_of_mem _ hp)
    unfold createDirs
    split
    · exact h
    · split
      · rename_i hc
        exact hstep path List.mem_cons_self h hc
      · split
        · rename_i hp
          rwa [hp] at hparents
        · rename_i hp
          rw [hp] at hparents
          split
          · rename_i hc
            exact hstep path List.mem_cons_self hparents hc
          · split <;> exact hparents
      · split <;> exact h

/-- Making a directory with those on the way to it takes nothing away. -/
theorem createDirAll_addsDirs (path : String) (t : FileTree) :
    AddsDirs t (t.createDirAll path).2 :=
  createDirs_induction _ (fun _ _ _ _ _ h hc => h.trans (createDir_addsDirs hc)) (.refl t)

/-! ## Growing trees -/

/-- What stands somewhere in `t` stands there in `t'` too, except that a file at a location in `S`
may have another content. -/
structure Grows (S : Location → Prop) (t t' : FileTree) : Prop where
  workDir : t'.workDir = t.workDir
  lookup : ∀ {k n}, t.lookup k = some n → t'.lookup k = some n ∨
    S k ∧ ∃ content content', n = .file content ∧ t'.lookup k = some (.file content')

namespace Grows

variable {S S' : Location → Prop}

theorem refl (S : Location → Prop) (t : FileTree) : Grows S t t := ⟨rfl, .inl⟩

theorem trans (h : Grows S t t') (h' : Grows S t' t'') : Grows S t t'' := by
  refine ⟨h'.workDir.trans h.workDir, fun {k n} hk => ?_⟩
  rcases h.lookup hk with hk' | ⟨hS, content, content', rfl, hk'⟩
  · exact h'.lookup hk'
  · rcases h'.lookup hk' with hk'' | ⟨-, -, content'', -, hk''⟩
    · exact .inr ⟨hS, content, content', rfl, hk''⟩
    · exact .inr ⟨hS, content, content'', rfl, hk''⟩

theorem mono (h : Grows S t t') (hS : ∀ k, S k → S' k) : Grows S' t t' :=
  ⟨h.workDir, fun hk => (h.lookup hk).imp_right (And.imp_left (hS _))⟩

/-- Outside of `S` nothing changes. -/
theorem lookup_eq (h : Grows S t t') {k : Location} {n : Node} (hk : t.lookup k = some n)
    (hS : ¬ S k) : t'.lookup k = some n :=
  (h.lookup hk).resolve_right fun hs => hS hs.1

/-- A file stays one. -/
theorem file (h : Grows S t t') {k : Location} {content : Bytes}
    (hk : t.lookup k = some (.file content)) : ∃ content', t'.lookup k = some (.file content') := by
  rcases h.lookup hk with hk' | ⟨-, -, content', -, hk'⟩
  · exact ⟨content, hk'⟩
  · exact ⟨content', hk'⟩

theorem keepsWays (h : Grows S t t') : KeepsWays t t' where
  workDir := h.workDir
  dir hk := (h.lookup hk).resolve_right (by rintro ⟨-, _, _, hn, -⟩; cases hn)
  link hk := (h.lookup hk).resolve_right (by rintro ⟨-, _, _, hn, -⟩; cases hn)

theorem of_addsDirs (h : AddsDirs t t') : Grows S t t' :=
  ⟨h.workDir, fun hk => .inl (h.lookup_of_some hk)⟩

/-- A tree grows where a file is written. -/
theorem of_agree {loc : Location} {content : Bytes} (h : Agree (· = loc) t t')
    (hl : t.lookup loc = none ∨ ∃ content, t.lookup loc = some (.file content))
    (hl' : t'.lookup loc = some (.file content)) : Grows (· = loc) t t' := by
  refine ⟨h.workDir, fun {k n} hk => ?_⟩
  by_cases hkl : k = loc
  · subst hkl
    rcases hl with hl | ⟨content', hl⟩ <;> rw [hl] at hk <;> cases hk
    exact .inr ⟨rfl, content', content, rfl, hl'⟩
  · exact .inl (by rw [h.lookup k hkl, hk])

/-- What can be opened can be opened in a tree that has grown. -/
theorem openRead (h : Grows S t t') {path : String} {loc : Location}
    (hp : t.openRead path = .ok loc) : t'.openRead path = .ok loc := by
  refine h.keepsWays.openRead hp fun hl hleaf => ?_
  rcases hn : t.lookup loc with _ | ⟨content | _ | target | d⟩
  · exact absurd hn hl
  · obtain ⟨content', hc⟩ := h.file hn
    rw [hc]
    exact ⟨by simp, isLeaf_file content'⟩
  · exact absurd hn hleaf.1
  · exact absurd hn (hleaf.2 target)
  · rcases h.lookup hn with hd | ⟨-, _, _, hd, -⟩
    · rw [hd]
      exact ⟨by simp, isLeaf_device d⟩
    · cases hd

end Grows

end SweepPlot.FileTree
