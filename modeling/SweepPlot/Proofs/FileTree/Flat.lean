import SweepPlot.Proofs.FileTree.Scratch

/-!
# A scratch directory with files only

While a scratch directory holds files only, a path below it cannot pass through anything in it: it
names a file there, or it cannot be opened for writing. This needs no more of what comes after the
directory than that it starts like the name of a data file (`Route.ofPath_of_underscore`).

* `Flat` adds to `Scratch` that there is no directory in the directory, and `Flat.fills` says that
  it stays so when a file is written.
* `Flat.openWrite_alike` compares two such directories that hold the same: opening a path below
  them has the same outcome in both.
-/

namespace SweepPlot

/-- The route of what starts with a text without slashes and an underscore starts with a step down
to a name. -/
theorem Route.ofPath_of_underscore {a : String} (ha : '/' ∉ a.toList) (b : String) :
    ∃ name more dirOnly, Route.ofPath (a ++ "_" ++ b) =
      ⟨false, .down (.text name) :: more, dirOnly⟩ := by
  by_cases hb : '/' ∈ b.toList
  · obtain ⟨b₁, b₂, hb, hb₁⟩ := List.eq_append_cons_of_mem hb
    have htext : a ++ "_" ++ b = a ++ "_" ++ String.ofList b₁ ++ "/" ++ String.ofList b₂ :=
      String.toList_inj.1 (by simp [hb])
    rw [htext, Route.ofPath_name_append (isName_of_underscore ha (by simpa))]
    exact ⟨_, _, _, rfl⟩
  · exact ⟨_, _, _, Route.ofPath_of_isName (isName_of_underscore ha hb)⟩

namespace FileTree

variable {t₀ t₀' t t' u u' : FileTree} {dir dir' : String} {loc loc' k : Location}

/-! ## Writing a file -/

/-- The second tree has a file with the content, and else what the first one has. -/
structure Fills (k : Location) (content : Bytes) (t t' : FileTree) : Prop where
  agree : Agree (· = k) t t'
  lookup : t'.lookup k = some (.file content)

theorem Fills.append {content : Bytes} (h : Fills k content t u) (bytes : Bytes) :
    Fills k (content ++ bytes) t (u.append k bytes) := by
  obtain ⟨hagree, hl⟩ := append_spec h.lookup bytes
  exact ⟨h.agree.trans hagree, hl⟩

/-- What a route leads to from a directory in which the first name is a leaf: to this name if it is
the only step. -/
theorem walk_of_isLeaf {aim : Aim} {links : Nat} {here : Location} {name : FileName}
    {more : List Route.Step} {dirOnly : Bool} (hl : IsLeaf (t.lookup (here ++ [name]))) :
    t.walk aim links here (.down name :: more) dirOnly =
      if aim = .writing ∧ more = [] ∧ dirOnly = true then .error (.os .isADirectory)
      else if maxNameLength < name.byteLength then .error (.os .nameTooLong)
      else if more = [] then .ok ⟨here ++ [name], t.lookup (here ++ [name]), dirOnly⟩
      else .error
        (.os (if t.lookup (here ++ [name]) = none then .notFound else .notADirectory)) := by
  obtain ⟨follow, hf⟩ := exists_walk_eq t aim links
  rw [hf, walkWith]
  rcases hn : t.lookup (here ++ [name]) with _ | ⟨content | _ | target | d⟩
  case some.dir => exact absurd hn hl.1
  case some.link => exact absurd hn (hl.2 target)
  all_goals simp

/-! ## Flat directories -/

/-- A scratch directory that holds files only. -/
structure Flat (t₀ : FileTree) (dir : String) (loc : Location) (t : FileTree) : Prop
    extends Scratch t₀ dir loc t where
  noDir : ∀ x, t.lookup (loc ++ [x]) ≠ some .dir

/-- The paths of two directories are of one length, so that what can be named in the one can be
named in the other. -/
structure Interchangeable (dir dir' : String) : Prop where
  valid : ValidPath dir
  valid' : ValidPath dir'
  size : dir.utf8ByteSize = dir'.utf8ByteSize
  slash : dir.toList.getLast? = dir'.toList.getLast?

namespace Flat

theorem isLeaf (h : Flat t₀ dir loc t) (x : FileName) : IsLeaf (t.lookup (loc ++ [x])) :=
  ⟨h.noDir x, h.noLink x⟩

theorem fills (h : Flat t₀ dir loc t) {x : FileName} {content : Bytes}
    (ht : Fills (loc ++ [x]) content t t') : Flat t₀ dir loc t' where
  toScratch := h.toScratch.changesFiles (.of_agree ht.agree (h.isLeaf x) ht.lookup)
  noDir y := by
    by_cases hy : loc ++ [y] = loc ++ [x]
    · rw [hy, ht.lookup]
      simp
    · rw [ht.agree.lookup _ hy]
      exact h.noDir y

theorem dir_valid (h : Flat t₀ dir loc t) : ValidPath dir := by
  obtain ⟨_, hmade⟩ := h.made
  exact (locate_eq_ok_iff.1 hmade).1

end Flat

/-! ## Two directories that hold the same -/

theorem locate_of_not_valid {aim : Aim} {path : String} (h : ¬ ValidPath path) :
    t.locate aim path = .error (if '\x00' ∈ path.toList then .nulInPath
      else if maxPathLength < path.utf8ByteSize then .os .nameTooLong else .os .notFound) := by
  unfold locate
  by_cases hnul : '\x00' ∈ path.toList
  · simp [hnul]
  by_cases hlen : maxPathLength < path.utf8ByteSize
  · simp [hnul, hlen]
  by_cases hempty : path = ""
  · simp [hempty]
  · exact absurd ⟨hnul, Nat.not_lt.1 hlen, hempty⟩ h

namespace Interchangeable

variable {x : String}

theorem refl (h : ValidPath dir) : Interchangeable dir dir := ⟨h, h, rfl, rfl⟩

theorem nul_mem_join (h : Interchangeable dir dir') (hx : Path.isAbsolute x = false) :
    '\x00' ∈ (Path.join dir x).toList ↔ '\x00' ∈ (Path.join dir' x).toList := by
  have hnul : ∀ {dir : String}, ValidPath dir →
      ('\x00' ∈ (Path.join dir x).toList ↔ '\x00' ∈ x.toList) := by
    intro dir hv
    unfold Path.join
    rw [if_neg (by simp [hx])]
    split <;> simp [hv.1]
  rw [hnul h.valid, hnul h.valid']

theorem size_join (h : Interchangeable dir dir') (hx : Path.isAbsolute x = false) :
    (Path.join dir x).utf8ByteSize = (Path.join dir' x).utf8ByteSize := by
  have hne : ∀ {dir : String}, ValidPath dir → dir.toList ≠ [] := fun hv hnil =>
    hv.2.2 (String.toList_inj.1 hnil)
  unfold Path.join
  simp only [hx, hne h.valid, hne h.valid', h.slash, false_or, Bool.false_eq_true, if_false]
  split <;> simp [h.size]

theorem valid_join_iff (h : Interchangeable dir dir') (hx : Path.isAbsolute x = false) :
    ValidPath (Path.join dir x) ↔ ValidPath (Path.join dir' x) := by
  have hne : ∀ {dir : String}, ValidPath dir → Path.join dir x ≠ "" := by
    intro dir hv hempty
    unfold Path.join at hempty
    rw [if_neg (by simp [hx])] at hempty
    split at hempty <;> simp [hv.2.2] at hempty
  rw [ValidPath, ValidPath, h.nul_mem_join hx, h.size_join hx]
  simp [hne h.valid, hne h.valid']

end Interchangeable

/-- A path that starts like the name of a data file leads to a place in both directories, and then
to a name there, or it leads nowhere for the same reason. -/
theorem Flat.locate_alike (h : Flat t₀ dir loc t) (h' : Flat t₀' dir' loc' t')
    (hdirs : Interchangeable dir dir')
    (hsame : ∀ x, t.lookup (loc ++ [x]) = t'.lookup (loc' ++ [x])) {a : String}
    (ha : '/' ∉ a.toList) (b : String) :
    (∃ fault, t.locate .writing (Path.join dir (a ++ "_" ++ b)) = .error fault ∧
      t'.locate .writing (Path.join dir' (a ++ "_" ++ b)) = .error fault) ∨
    ∃ x dirOnly, t.locate .writing (Path.join dir (a ++ "_" ++ b)) =
        .ok ⟨loc ++ [x], t.lookup (loc ++ [x]), dirOnly⟩ ∧
      t'.locate .writing (Path.join dir' (a ++ "_" ++ b)) =
        .ok ⟨loc' ++ [x], t.lookup (loc ++ [x]), dirOnly⟩ := by
  obtain ⟨name, more, dirOnly, hroute⟩ := Route.ofPath_of_underscore ha b
  have hsteps : (Route.ofPath (a ++ "_" ++ b)).steps ≠ [] := by simp [hroute]
  have habs : Path.isAbsolute (a ++ "_" ++ b) = false := congrArg Route.absolute hroute
  by_cases hv : ValidPath (Path.join dir (a ++ "_" ++ b))
  · obtain ⟨links, hlocate⟩ := h.locate_join .writing habs hsteps hv
    obtain ⟨links', hlocate'⟩ :=
      h'.locate_join .writing habs hsteps ((hdirs.valid_join_iff habs).1 hv)
    rw [hroute, walk_of_isLeaf (h.isLeaf _)] at hlocate
    rw [hroute, walk_of_isLeaf (h'.isLeaf _), ← hsame] at hlocate'
    rw [hlocate, hlocate']
    split
    · exact .inl ⟨_, rfl, rfl⟩
    · split
      · exact .inl ⟨_, rfl, rfl⟩
      · split
        · exact .inr ⟨_, _, rfl, rfl⟩
        · exact .inl ⟨_, rfl, rfl⟩
  · refine .inl ⟨_, locate_of_not_valid hv, ?_⟩
    rw [locate_of_not_valid fun hv' => hv ((hdirs.valid_join_iff habs).2 hv')]
    simp only [hdirs.nul_mem_join habs, hdirs.size_join habs]

/-- A path that starts like the name of a data file is opened for writing in both directories, and
then the same file is written in them, or it cannot be opened for the same reason. -/
theorem Flat.openWrite_alike (h : Flat t₀ dir loc t) (h' : Flat t₀' dir' loc' t')
    (hdirs : Interchangeable dir dir')
    (hsame : ∀ x, t.lookup (loc ++ [x]) = t'.lookup (loc' ++ [x])) {a : String}
    (ha : '/' ∉ a.toList) (b : String) (truncate : Bool) :
    (∃ fault, t.openWrite truncate (Path.join dir (a ++ "_" ++ b)) = .error fault ∧
      t'.openWrite truncate (Path.join dir' (a ++ "_" ++ b)) = .error fault) ∨
    ∃ x content u u', t.openWrite truncate (Path.join dir (a ++ "_" ++ b)) = .ok (loc ++ [x], u) ∧
      t'.openWrite truncate (Path.join dir' (a ++ "_" ++ b)) = .ok (loc' ++ [x], u') ∧
      Fills (loc ++ [x]) content t u ∧ Fills (loc' ++ [x]) content t' u' := by
  have hset : ∀ {t : FileTree} {loc : Location} {x : FileName},
      Fills (loc ++ [x]) [] t (t.set (loc ++ [x]) (.file [])) := fun {t loc x} =>
    ⟨agree_set (by simp) _, lookup_set_self (by simp) _⟩
  rcases h.locate_alike h' hdirs hsame ha b with ⟨fault, hs, hs'⟩ | ⟨x, dirOnly, hs, hs'⟩
  · exact .inl ⟨fault, by rw [openWrite, hs]; rfl, by rw [openWrite, hs']; rfl⟩
  · have hlookup := hsame x
    unfold openWrite
    rw [hs, hs']
    simp only [bind, Except.bind]
    split
    · exact .inl ⟨_, rfl, rfl⟩
    · rcases hn : t.lookup (loc ++ [x]) with _ | ⟨content | _ | target | d⟩
      · exact .inr ⟨x, [], _, _, rfl, rfl, hset, hset⟩
      · cases truncate with
        | true => exact .inr ⟨x, [], _, _, rfl, rfl, hset, hset⟩
        | false =>
          exact .inr ⟨x, content, _, _, rfl, rfl, ⟨.refl _ _, hn⟩, ⟨.refl _ _, hlookup ▸ hn⟩⟩
      · exact absurd hn (h.noDir x)
      · exact absurd hn (h.noLink x target)
      · exact absurd hn (h.noDevice x d)

end FileTree

end SweepPlot
