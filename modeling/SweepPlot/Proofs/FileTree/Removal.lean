import SweepPlot.Proofs.FileTree.Opened
import SweepPlot.Proofs.FileTree.Sound

/-!
# Removing a file

To remove a file is to remove its last name, so that nothing is found under it. What a link leads to
stays.

* `Leads.exists_name_of_target` compares the last name of a path with what it leads to, and
  `Leads.node_eq_none_of_gone` says that a route leads to nothing where its last name is gone.
* `removeFile_eq_ok_iff` says what is removed, and `removeFile_spec` that nothing but its name
  changes.
* `stat_removeFile` says that nothing is found at the path afterwards, and `exists_removeFile` that
  what can be found and is no directory can be removed.
-/

namespace SweepPlot.FileTree

variable {t t' : FileTree} {links : Nat} {here : Location} {steps : List Route.Step}
  {dirOnly : Bool} {s s' : Spot} {path : String}

/-! ## The last name of a path -/

/-- A route that asks for a directory does so at its end. -/
theorem Leads.dirOnly_eq_true {aim : Aim} (hw : Leads t aim links here steps dirOnly s)
    (hd : dirOnly = true) : s.dirOnly = true := by
  induction hw with
  | done => rfl
  | leaf | named => exact hd
  | up _ ih | stay _ ih | dir _ _ _ _ ih => exact ih hd
  | link _ _ _ _ _ _ ih =>
    refine ih ?_
    rw [hd]
    split <;> rfl

/-- A name can be reached if what it leads to can. If that is no directory, the name is none. -/
theorem Leads.exists_name_of_target (hw : Leads t .target links here steps dirOnly s) :
    ∃ s', Leads t .name links here steps dirOnly s' ∧ (s.node ≠ none → s'.node ≠ none) ∧
      (s.node ≠ some .dir → s'.node ≠ some .dir) ∧ (s.dirOnly = false → s'.dirOnly = false) := by
  induction hw with
  | done => exact ⟨_, .done, id, id, id⟩
  | up _ ih =>
    obtain ⟨s', hw', h⟩ := ih
    exact ⟨s', .up hw', h⟩
  | stay _ ih =>
    obtain ⟨s', hw', h⟩ := ih
    exact ⟨s', .stay hw', h⟩
  | dir _ hlen hl _ ih =>
    obtain ⟨s', hw', h⟩ := ih
    exact ⟨s', .dir (by simp) hlen hl hw', h⟩
  | leaf _ hlen hl => exact ⟨_, .leaf (by simp) hlen hl, id, id, id⟩
  | named _ hlen hl => exact ⟨_, .named rfl hlen hl, id, id, id⟩
  | @link links here name rest dirOnly target s _ hlen hl _ ht hw ih =>
    by_cases hrest : rest = []
    · subst hrest
      refine ⟨_, .named rfl hlen hl, by simp, by simp, fun hd => ?_⟩
      refine Bool.eq_false_iff.2 fun (htrue : dirOnly = true) => ?_
      rw [hw.dirOnly_eq_true (by simp [htrue])] at hd
      cases hd
    · obtain ⟨s', hw', h⟩ := ih
      exact ⟨s', .link (by simp) hlen hl (by simp [hrest]) ht hw', h⟩

/-- A name that is missing leads to nothing. -/
theorem Leads.node_eq_none {aim : Aim} {name : FileName} {rest : List Route.Step}
    (hw : Leads t aim links here (.down name :: rest) dirOnly s)
    (hl : t.lookup (here ++ [name]) = none) : s.node = none := by
  cases hw with
  | leaf => exact hl
  | dir _ _ hn | named _ _ hn | link _ _ hn =>
    rw [hl] at hn
    cases hn

/-- Where a name has been taken out of a tree, its route leads to nothing. -/
theorem Leads.node_eq_none_of_gone (hw : Leads t .name links here steps dirOnly s)
    (hs : s.node ≠ some .dir) (hkept : ∀ k, t'.lookup k = none ∨ t'.lookup k = t.lookup k)
    (hgone : t'.lookup s.location = none) (hw' : Leads t' .target links here steps dirOnly s') :
    s'.node = none := by
  -- along the route the names stand in the second tree too, unless the walk ends there
  induction hw with
  | done => exact absurd rfl hs
  | up _ ih => exact ih hs hgone (leads_of_walk (walk_up ▸ hw'.walk_eq))
  | stay _ ih => exact ih hs hgone (leads_of_walk (walk_stay ▸ hw'.walk_eq))
  | @dir links here name rest dirOnly s _ hlen hl _ ih =>
    rcases hkept (here ++ [name]) with hnone | hsame
    · exact hw'.node_eq_none hnone
    · have hwalk := hw'.walk_eq
      rw [walk_dir (by simp) hlen (hsame.trans hl)] at hwalk
      exact ih hs hgone (leads_of_walk hwalk)
  | leaf | named => exact hw'.node_eq_none hgone
  | @link links here name rest dirOnly target s _ hlen hl _ ht _ ih =>
    rcases hkept (here ++ [name]) with hnone | hsame
    · exact hw'.node_eq_none hnone
    · have hwalk := hw'.walk_eq
      rw [walk_link (by simp) hlen (hsame.trans hl) (by simp) ht] at hwalk
      exact ih hs hgone (leads_of_walk hwalk)

/-! ## The removal -/

/-- What is removed is what stands at the last name of the path, and is no directory. -/
theorem removeFile_eq_ok_iff : t.removeFile path = .ok t' ↔
    ∃ s, t.locate .name path = .ok s ∧ s.node ≠ none ∧ s.node ≠ some .dir ∧ s.dirOnly = false ∧
      t' = t.remove s.location := by
  unfold removeFile present
  rcases t.locate .name path with e | ⟨loc, _ | ⟨content | _ | target | d⟩, _ | _⟩ <;>
    simp [bind, Except.bind] <;> exact eq_comm

/-- Nothing is found at the path of a file that has been removed. -/
theorem stat_removeFile (h : t.removeFile path = .ok t') (node : Node) :
    t'.stat path ≠ .ok node := by
  obtain ⟨s, hs, -, hdir, -, rfl⟩ := removeFile_eq_ok_iff.1 h
  obtain ⟨-, hw⟩ := locate_eq_ok_iff.1 hs
  intro hstat
  obtain ⟨s', hs', hnode, -⟩ := stat_eq_ok_iff.1 hstat
  obtain ⟨-, hw'⟩ := locate_eq_ok_iff.1 hs'
  have hremoved := lookup_remove t (hw.location_ne_nil hdir)
  have hnone := hw.node_eq_none_of_gone hdir (fun k => by rw [hremoved]; split <;> simp)
    (by simp [hremoved]) hw'
  rw [hnone] at hnode
  cases hnode

/-- What can be found and is no directory can be removed. -/
theorem exists_removeFile {node : Node} (h : t.stat path = .ok node) (hdir : node ≠ .dir) :
    ∃ t', t.removeFile path = .ok t' := by
  obtain ⟨s, hs, hnode, hd⟩ := stat_eq_ok_iff.1 h
  obtain ⟨hv, hw⟩ := locate_eq_ok_iff.1 hs
  obtain ⟨s', hw', hnone', hdir', hd'⟩ := hw.exists_name_of_target
  exact ⟨_, removeFile_eq_ok_iff.2 ⟨s', locate_eq_ok_iff.2 ⟨hv, hw'⟩, hnone' (by simp [hnode]),
    hdir' (by simpa [hnode]), hd' (hd hdir), rfl⟩⟩

end SweepPlot.FileTree
