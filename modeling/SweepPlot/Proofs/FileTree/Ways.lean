import SweepPlot.FileTree.Access

/-!
# The ways of a tree

The directories and links of a tree are the ways on which paths lead to files. `FileTree.Leads` is
the relation behind `FileTree.walk`, with one rule for each kind of step that succeeds
(`walk_eq_ok_iff`). A path that leads to a file leads there still in a tree that has all ways of
the first one (`KeepsWays.leads`), whatever became of its files.
-/

namespace SweepPlot

/-- A result with a value is a success with this value. -/
theorem ok_of_toOption {ε α : Type} {result : Except ε α} {a : α}
    (h : result.toOption = some a) : result = .ok a := by
  cases result with
  | error e => cases h
  | ok b =>
    cases h
    rfl

/-- A result with an error is a failure with this error. -/
theorem error_of_match {ε α : Type} {result : Except ε α} {e : ε}
    (h : (match result with | .error e => some e | .ok _ => none) = some e) :
    result = .error e := by
  cases result with
  | error e' =>
    cases h
    rfl
  | ok a => cases h

namespace FileTree

/-- No way goes on from here: nothing stands here, or a file or a device. -/
def IsLeaf (n : Option Node) : Prop := n ≠ some .dir ∧ ∀ target, n ≠ some (.link target)

theorem isLeaf_none : IsLeaf none := ⟨by simp, by simp⟩

theorem isLeaf_file (content : Bytes) : IsLeaf (some (.file content)) := ⟨by simp, by simp⟩

theorem isLeaf_device (d : Device) : IsLeaf (some (.device d)) := ⟨by simp, by simp⟩

/-- The steps lead from `here` to the place `s`. -/
inductive Leads (t : FileTree) (aim : Aim) :
    Nat → Location → List Route.Step → Bool → Spot → Prop
  /-- The route is at its end. -/
  | done {links here dirOnly} : Leads t aim links here [] dirOnly ⟨here, some .dir, true⟩
  /-- To the parent directory. -/
  | up {links here rest dirOnly s} :
      Leads t aim links here.dropLast rest dirOnly s →
      Leads t aim links here (.up :: rest) dirOnly s
  /-- To the directory itself. -/
  | stay {links here rest dirOnly s} :
      Leads t aim links here rest dirOnly s →
      Leads t aim links here (.stay :: rest) dirOnly s
  /-- Into a directory. -/
  | dir {links here name rest dirOnly s} :
      ¬ (aim = .writing ∧ rest = [] ∧ dirOnly = true) → name.byteLength ≤ maxNameLength →
      t.lookup (here ++ [name]) = some .dir →
      Leads t aim links (here ++ [name]) rest dirOnly s →
      Leads t aim links here (.down name :: rest) dirOnly s
  /-- To a last name from which no way goes on. -/
  | leaf {links here name dirOnly} :
      ¬ (aim = .writing ∧ dirOnly = true) → name.byteLength ≤ maxNameLength →
      IsLeaf (t.lookup (here ++ [name])) →
      Leads t aim links here [.down name] dirOnly
        ⟨here ++ [name], t.lookup (here ++ [name]), dirOnly⟩
  /-- To a last name that is a link and wanted itself. -/
  | named {links here name dirOnly target} :
      aim = .name → name.byteLength ≤ maxNameLength →
      t.lookup (here ++ [name]) = some (.link target) →
      Leads t aim links here [.down name] dirOnly
        ⟨here ++ [name], some (.link target), dirOnly⟩
  /-- Along a link. -/
  | link {links here name rest dirOnly target s} :
      ¬ (aim = .writing ∧ rest = [] ∧ dirOnly = true) → name.byteLength ≤ maxNameLength →
      t.lookup (here ++ [name]) = some (.link target) → ¬ (rest = [] ∧ aim = .name) →
      target ≠ "" →
      Leads t aim links (if (Route.ofPath target).absolute then [] else here)
        ((Route.ofPath target).steps ++ rest)
        (if rest = [] then dirOnly || (Route.ofPath target).dirOnly else dirOnly) s →
      Leads t aim (links + 1) here (.down name :: rest) dirOnly s

variable {t t' : FileTree} {aim : Aim} {links : Nat} {here : Location} {steps : List Route.Step}
  {dirOnly : Bool} {s : Spot}

/-- A walk follows the rules if it does so along links. -/
theorem leads_of_walkWith
    {follow : String → Location → List Route.Step → Bool → Except IoFault Spot}
    (hfollow : ∀ target here rest dirOnly, follow target here rest dirOnly = .ok s →
      ∃ links', links = links' + 1 ∧ target ≠ "" ∧
        Leads t aim links' (if (Route.ofPath target).absolute then [] else here)
          ((Route.ofPath target).steps ++ rest)
          (if rest = [] then dirOnly || (Route.ofPath target).dirOnly else dirOnly) s)
    (h : t.walkWith aim follow here steps dirOnly = .ok s) :
    Leads t aim links here steps dirOnly s := by
  induction steps generalizing here with
  | nil =>
    cases h
    exact .done
  | cons step rest ih =>
    cases step with
    | up => exact .up (ih h)
    | stay => exact .stay (ih h)
    | down name =>
      rw [walkWith] at h
      split at h
      · cases h
      rename_i hw
      split at h
      · cases h
      rename_i hlen
      have hleaf : IsLeaf (t.lookup (here ++ [name])) → rest = [] →
          Leads t aim links here (.down name :: rest) dirOnly
            ⟨here ++ [name], t.lookup (here ++ [name]), dirOnly⟩ := by
        rintro hl rfl
        exact .leaf (fun e => hw ⟨e.1, rfl, e.2⟩) (Nat.not_lt.1 hlen) hl
      rcases hl : t.lookup (here ++ [name]) with _ | ⟨content | _ | target | d⟩ <;>
        rw [hl] at h hleaf <;> simp only at h
      · split at h <;> cases h
        exact hleaf isLeaf_none ‹_›
      · split at h <;> cases h
        exact hleaf (isLeaf_file content) ‹_›
      · exact .dir hw (Nat.not_lt.1 hlen) hl (ih h)
      · split at h
        · rename_i hn
          cases h
          obtain ⟨rfl, hn⟩ := hn
          exact .named hn (Nat.not_lt.1 hlen) hl
        · rename_i hn
          obtain ⟨links', rfl, ht, hw'⟩ := hfollow target here rest dirOnly h
          exact .link hw (Nat.not_lt.1 hlen) hl hn ht hw'
      · split at h <;> cases h
        exact hleaf (isLeaf_device d) ‹_›

theorem leads_of_walk (h : t.walk aim links here steps dirOnly = .ok s) :
    Leads t aim links here steps dirOnly s := by
  induction links generalizing here steps dirOnly s with
  | zero => exact leads_of_walkWith (fun _ _ _ _ hf => by cases hf) h
  | succ links ih =>
    refine leads_of_walkWith (fun target here rest dirOnly hf => ?_) h
    split at hf
    · cases hf
    · rename_i ht
      exact ⟨links, rfl, ht, ih hf⟩

theorem exists_walk_eq (t : FileTree) (aim : Aim) (links : Nat) :
    ∃ follow, t.walk aim links = t.walkWith aim follow := by
  cases links <;> exact ⟨_, rfl⟩

theorem walk_nil : t.walk aim links here [] dirOnly = .ok ⟨here, some .dir, true⟩ := by
  cases links <;> rfl

theorem walk_up {rest : List Route.Step} :
    t.walk aim links here (.up :: rest) dirOnly = t.walk aim links here.dropLast rest dirOnly := by
  cases links <;> rfl

theorem walk_stay {rest : List Route.Step} :
    t.walk aim links here (.stay :: rest) dirOnly = t.walk aim links here rest dirOnly := by
  cases links <;> rfl

theorem walk_dir {name : FileName} {rest : List Route.Step}
    (hw : ¬ (aim = .writing ∧ rest = [] ∧ dirOnly = true)) (hlen : name.byteLength ≤ maxNameLength)
    (hl : t.lookup (here ++ [name]) = some .dir) :
    t.walk aim links here (.down name :: rest) dirOnly =
      t.walk aim links (here ++ [name]) rest dirOnly := by
  obtain ⟨follow, hf⟩ := exists_walk_eq t aim links
  rw [hf, walkWith, if_neg hw, if_neg (Nat.not_lt.2 hlen), hl]

theorem walk_leaf {name : FileName} (hw : ¬ (aim = .writing ∧ dirOnly = true))
    (hlen : name.byteLength ≤ maxNameLength) (hl : IsLeaf (t.lookup (here ++ [name]))) :
    t.walk aim links here [.down name] dirOnly =
      .ok ⟨here ++ [name], t.lookup (here ++ [name]), dirOnly⟩ := by
  obtain ⟨follow, hf⟩ := exists_walk_eq t aim links
  rw [hf, walkWith, if_neg (fun e => hw ⟨e.1, e.2.2⟩), if_neg (Nat.not_lt.2 hlen)]
  rcases hn : t.lookup (here ++ [name]) with _ | ⟨content | _ | target | d⟩ <;> simp_all [IsLeaf]

theorem walk_link {name : FileName} {rest : List Route.Step} {target : String}
    (hw : ¬ (aim = .writing ∧ rest = [] ∧ dirOnly = true)) (hlen : name.byteLength ≤ maxNameLength)
    (hl : t.lookup (here ++ [name]) = some (.link target)) (hn : ¬ (rest = [] ∧ aim = .name))
    (ht : target ≠ "") :
    t.walk aim (links + 1) here (.down name :: rest) dirOnly =
      t.walk aim links (if (Route.ofPath target).absolute then [] else here)
        ((Route.ofPath target).steps ++ rest)
        (if rest = [] then dirOnly || (Route.ofPath target).dirOnly else dirOnly) := by
  rw [walk, walkWith, if_neg hw, if_neg (Nat.not_lt.2 hlen), hl]
  simp only [if_neg hn, if_neg ht]

theorem Leads.walk_eq (h : Leads t aim links here steps dirOnly s) :
    t.walk aim links here steps dirOnly = .ok s := by
  induction h with
  | done => exact walk_nil
  | up _ ih => rw [walk_up, ih]
  | stay _ ih => rw [walk_stay, ih]
  | dir hw hlen hl _ ih => rw [walk_dir hw hlen hl, ih]
  | leaf hw hlen hl => exact walk_leaf hw hlen hl
  | @named links here name dirOnly target ha hlen hl =>
    obtain ⟨follow, hf⟩ := exists_walk_eq t aim links
    rw [hf, walkWith, if_neg (by simp [ha]), if_neg (Nat.not_lt.2 hlen), hl]
    simp [ha]
  | link hw hlen hl hn ht _ ih => rw [walk_link hw hlen hl hn ht, ih]

/-- The walk succeeds exactly as the rules say. -/
theorem walk_eq_ok_iff : t.walk aim links here steps dirOnly = .ok s ↔
    Leads t aim links here steps dirOnly s :=
  ⟨leads_of_walk, Leads.walk_eq⟩

/-- Where no way goes on, the place shows what stands at its location. -/
theorem Leads.node_eq (h : Leads t aim links here steps dirOnly s) (hs : IsLeaf s.node) :
    s.node = t.lookup s.location := by
  induction h with
  | done => exact absurd rfl hs.1
  | named => exact absurd rfl (hs.2 _)
  | leaf => rfl
  | up _ ih | stay _ ih | dir _ _ _ _ ih | link _ _ _ _ _ _ ih => exact ih hs

/-- A place is the root or a directory, or it ends in a name. -/
theorem Leads.location_ne_nil (h : Leads t aim links here steps dirOnly s)
    (hs : s.node ≠ some .dir) : s.location ≠ [] := by
  induction h with
  | done => exact absurd rfl hs
  | leaf | named => simp
  | up _ ih | stay _ ih | dir _ _ _ _ ih | link _ _ _ _ _ _ ih => exact ih hs

/-- Links are followed unless the last name is wanted itself. -/
theorem Leads.isLeaf_or_dir (h : Leads t aim links here steps dirOnly s) (ha : aim ≠ .name) :
    s.node = some .dir ∨ IsLeaf s.node := by
  induction h with
  | done => exact .inl rfl
  | leaf _ _ hl => exact .inr hl
  | named hn => exact absurd hn ha
  | up _ ih | stay _ ih | dir _ _ _ _ ih | link _ _ _ _ _ _ ih => exact ih

/-- What can be written is what the links lead to. -/
theorem Leads.target_of_writing (h : Leads t .writing links here steps dirOnly s) :
    Leads t .target links here steps dirOnly s := by
  induction h with
  | done => exact .done
  | up _ ih => exact .up ih
  | stay _ ih => exact .stay ih
  | dir _ hlen hl _ ih => exact .dir (by simp) hlen hl ih
  | leaf _ hlen hl => exact .leaf (by simp) hlen hl
  | named ha => cases ha
  | link _ hlen hl _ ht _ ih => exact .link (by simp) hlen hl (by simp) ht ih

/-! ## Paths -/

/-- A path that the system takes. -/
def ValidPath (path : String) : Prop :=
  '\x00' ∉ path.toList ∧ path.utf8ByteSize ≤ maxPathLength ∧ path ≠ ""

/-- Where a path starts. -/
def start (t : FileTree) (path : String) : Location :=
  if Path.isAbsolute path then [] else t.workDir

theorem start_congr (h : t'.workDir = t.workDir) (path : String) :
    t.start path = t'.start path := by
  rw [start, start, h]

/-- A path that the system takes is followed along its route. -/
theorem locate_of_valid {path : String} (h : ValidPath path) : t.locate aim path =
    t.walk aim maxLinks (t.start path) (Route.ofPath path).steps (Route.ofPath path).dirOnly := by
  obtain ⟨hnul, hlen, hempty⟩ := h
  rw [locate, if_neg (by simpa using hnul), if_neg (Nat.not_lt.2 hlen), if_neg hempty]
  rfl

theorem locate_eq_ok_iff {path : String} : t.locate aim path = .ok s ↔
    ValidPath path ∧ Leads t aim maxLinks (t.start path) (Route.ofPath path).steps
      (Route.ofPath path).dirOnly s := by
  unfold locate ValidPath
  by_cases hnul : '\x00' ∈ path.toList
  · simp [hnul]
  by_cases hlen : maxPathLength < path.utf8ByteSize
  · simp [hnul, hlen, Nat.not_le.2 hlen]
  by_cases hempty : path = ""
  · simp [hempty]
  simp only [List.contains_eq_mem, decide_eq_true_eq, hnul, hlen, hempty, if_false, not_false_iff,
    Nat.not_lt.1 hlen, true_and, ne_eq, and_self]
  exact walk_eq_ok_iff

theorem openRead_eq_ok_iff {path : String} {loc : Location} : t.openRead path = .ok loc ↔
    ∃ s, t.locate .target path = .ok s ∧ s.node ≠ none ∧
      (s.node ≠ some .dir → s.dirOnly = false) ∧ s.location = loc := by
  unfold openRead present
  rcases t.locate .target path with e | ⟨loc', node, dirOnly⟩
  · simp [bind, Except.bind]
  · rcases node with _ | ⟨content | _ | target | d⟩ <;> cases dirOnly <;>
      simp [bind, Except.bind, pure, Except.pure]

/-! ## Trees with the same ways -/

/-- The directories and links of `t` are in `t'` too. -/
structure KeepsWays (t t' : FileTree) : Prop where
  workDir : t'.workDir = t.workDir
  dir : ∀ {k}, t.lookup k = some .dir → t'.lookup k = some .dir
  link : ∀ {k target}, t.lookup k = some (.link target) → t'.lookup k = some (.link target)

namespace KeepsWays

theorem trans {t t' t'' : FileTree} (h : KeepsWays t t') (h' : KeepsWays t' t'') :
    KeepsWays t t'' :=
  ⟨h'.workDir.trans h.workDir, fun hk => h'.dir (h.dir hk), fun hk => h'.link (h.link hk)⟩

/-- A route to a place from which no way goes on leads to the same location in a tree with the
same ways, unless a way goes on from there now. -/
theorem leads (h : KeepsWays t t') (hw : Leads t aim links here steps dirOnly s)
    (hs : IsLeaf s.node) (hs' : IsLeaf (t'.lookup s.location)) :
    Leads t' aim links here steps dirOnly { s with node := t'.lookup s.location } := by
  induction hw with
  | done => exact absurd rfl hs.1
  | up _ ih => exact .up (ih hs hs')
  | stay _ ih => exact .stay (ih hs hs')
  | dir hw hlen hl _ ih => exact .dir hw hlen (h.dir hl) (ih hs hs')
  | leaf hw hlen _ => exact .leaf hw hlen hs'
  | named => exact absurd rfl (hs.2 _)
  | link hw hlen hl hn ht _ ih => exact .link hw hlen (h.link hl) hn ht (ih hs hs')

/-- A route to a directory leads there in a tree with the same ways. -/
theorem leads_dir (h : KeepsWays t t') (hw : Leads t aim links here steps dirOnly s)
    (hs : s.node = some .dir) : Leads t' aim links here steps dirOnly s := by
  induction hw with
  | done => exact .done
  | up _ ih => exact .up (ih hs)
  | stay _ ih => exact .stay (ih hs)
  | dir hw hlen hl _ ih => exact .dir hw hlen (h.dir hl) (ih hs)
  | leaf _ _ hl => exact absurd hs hl.1
  | named => cases hs
  | link hw hlen hl hn ht _ ih => exact .link hw hlen (h.link hl) hn ht (ih hs)

theorem locate (h : KeepsWays t t') {path : String} (hp : t.locate aim path = .ok s)
    (hs : IsLeaf s.node) (hs' : IsLeaf (t'.lookup s.location)) :
    t'.locate aim path = .ok { s with node := t'.lookup s.location } := by
  obtain ⟨hv, hw⟩ := locate_eq_ok_iff.1 hp
  exact locate_eq_ok_iff.2 ⟨hv, start_congr h.workDir path ▸ h.leads hw hs hs'⟩

theorem locate_dir (h : KeepsWays t t') {path : String} (hp : t.locate aim path = .ok s)
    (hs : s.node = some .dir) : t'.locate aim path = .ok s := by
  obtain ⟨hv, hw⟩ := locate_eq_ok_iff.1 hp
  exact locate_eq_ok_iff.2 ⟨hv, start_congr h.workDir path ▸ h.leads_dir hw hs⟩

/-- A path that can be opened can be opened in a tree with the same ways in which the file is
still there. -/
theorem openRead (h : KeepsWays t t') {path : String} {loc : Location}
    (hp : t.openRead path = .ok loc)
    (hl : t.lookup loc ≠ none → IsLeaf (t.lookup loc) →
      t'.lookup loc ≠ none ∧ IsLeaf (t'.lookup loc)) :
    t'.openRead path = .ok loc := by
  obtain ⟨s, hloc, hs, hd, rfl⟩ := openRead_eq_ok_iff.1 hp
  rcases (locate_eq_ok_iff.1 hloc).2.isLeaf_or_dir (by simp) with hdir | hleaf
  · exact openRead_eq_ok_iff.2 ⟨s, h.locate_dir hloc hdir, hs, hd, rfl⟩
  · have hn := (locate_eq_ok_iff.1 hloc).2.node_eq hleaf
    obtain ⟨hne, hleaf'⟩ := hl (hn ▸ hs) (hn ▸ hleaf)
    refine openRead_eq_ok_iff.2 ⟨_, h.locate hloc hleaf hleaf', hne, fun hnd => ?_, rfl⟩
    exact hd hleaf.1

end KeepsWays

end FileTree

end SweepPlot
