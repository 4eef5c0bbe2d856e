import SweepPlot.Proofs.FileTree.Flat
import SweepPlot.Run

/-!
# Stamps

The name of a scratch directory holds a stamp that tells it apart from all others. With stamps of
one length the directories are made alike, or they cannot be made for the same reason
(`ScratchSpace.make_alike`).

* `FileTree.walk_into` cuts a walk where its last steps start.
* `ScratchSpace.locate_alike` says that the paths with two stamps lead somewhere, or they lead
  nowhere for the same reason.
-/

namespace SweepPlot

namespace FileTree

variable {t : FileTree} {aim : Aim} {links : Nat} {here : Location} {name : FileName}
  {more : List Route.Step} {dirOnly : Bool}

/-! ## The last steps of a walk -/

theorem walk_of_long (hw : ¬ (aim = .writing ∧ more = [] ∧ dirOnly = true))
    (hlen : maxNameLength < name.byteLength) :
    t.walk aim links here (.down name :: more) dirOnly = .error (.os .nameTooLong) := by
  obtain ⟨follow, hf⟩ := exists_walk_eq t aim links
  rw [hf, walkWith, if_neg hw, if_pos hlen]

/-- The steps with others after them lead into a directory where these go on, or they lead nowhere,
whatever comes after them. -/
def Splits (t : FileTree) (aim : Aim) (links : Nat) (here : Location)
    (steps : List Route.Step) : Prop :=
  (∃ fault, ∀ rest, rest ≠ [] → ∀ d,
    t.walk aim links here (steps ++ rest) d = .error fault) ∨
  ∃ links' here', ∀ rest, rest ≠ [] → ∀ d,
    t.walk aim links here (steps ++ rest) d = t.walk aim links' here' rest d

theorem Splits.congr {links' : Nat} {here' : Location} {steps steps' : List Route.Step}
    (h : t.Splits aim links' here' steps') (heq : ∀ rest, rest ≠ [] → ∀ d,
      t.walk aim links here (steps ++ rest) d = t.walk aim links' here' (steps' ++ rest) d) :
    t.Splits aim links here steps := by
  rcases h with ⟨fault, h⟩ | ⟨links'', here'', h⟩
  · exact .inl ⟨fault, fun rest hr d => (heq rest hr d).trans (h rest hr d)⟩
  · exact .inr ⟨links'', here'', fun rest hr d => (heq rest hr d).trans (h rest hr d)⟩

theorem splits_of_link {links : Nat} (hlink : ∀ here name steps target,
      name.byteLength ≤ maxNameLength → t.lookup (here ++ [name]) = some (.link target) →
      t.Splits aim links here (.down name :: steps)) (here : Location) (steps : List Route.Step) :
    t.Splits aim links here steps := by
  induction steps generalizing here with
  | nil => exact .inr ⟨links, here, fun _ _ _ => rfl⟩
  | cons step steps ih =>
    cases step with
    | up => exact (ih here.dropLast).congr fun _ _ _ => walk_up
    | stay => exact (ih here).congr fun _ _ _ => walk_stay
    | down name =>
      by_cases hlen : maxNameLength < name.byteLength
      · refine .inl ⟨.os .nameTooLong, fun rest hr d => ?_⟩
        rw [List.cons_append, walk_of_long (by simp [hr]) hlen]
      have hleaf : IsLeaf (t.lookup (here ++ [name])) →
          t.Splits aim links here (.down name :: steps) := by
        intro hleaf
        let fault := if t.lookup (here ++ [name]) = none then OsError.notFound else .notADirectory
        refine .inl ⟨.os fault, fun rest hr d => ?_⟩
        rw [List.cons_append, walk_of_isLeaf hleaf, if_neg (by simp [hr]), if_neg hlen,
          if_neg (by simp [hr])]
      rcases hl : t.lookup (here ++ [name]) with _ | ⟨content | _ | target | d⟩
      · exact hleaf (hl ▸ isLeaf_none)
      · exact hleaf (hl ▸ isLeaf_file content)
      · refine (ih (here ++ [name])).congr fun rest hr d => ?_
        rw [List.cons_append, walk_dir (by simp [hr]) (Nat.not_lt.1 hlen) hl]
      · exact hlink here name steps target (Nat.not_lt.1 hlen) hl
      · exact hleaf (hl ▸ isLeaf_device d)

theorem splits (t : FileTree) (aim : Aim) (links : Nat) (here : Location)
    (steps : List Route.Step) : t.Splits aim links here steps := by
  induction links generalizing here steps with
  | zero =>
    refine splits_of_link (fun here name steps target hlen hl => ?_) here steps
    refine .inl ⟨.os .tooManyLinks, fun rest hr d => ?_⟩
    rw [List.cons_append, walk, walkWith, if_neg (by simp [hr]), if_neg (Nat.not_lt.2 hlen), hl]
    simp [hr]
  | succ links ih =>
    refine splits_of_link (fun here name steps target hlen hl => ?_) here steps
    by_cases htarget : target = ""
    · refine .inl ⟨.os .notFound, fun rest hr d => ?_⟩
      rw [List.cons_append, walk, walkWith, if_neg (by simp [hr]), if_neg (Nat.not_lt.2 hlen), hl]
      simp [hr, htarget]
    · refine Splits.congr (ih (if (Route.ofPath target).absolute then [] else here)
        ((Route.ofPath target).steps ++ steps)) fun rest hr d => ?_
      have hne : ¬ steps ++ rest = [] := by simp [hr]
      rw [List.cons_append, walk_link (by simp [hr]) hlen hl (by simp [hr]) htarget, if_neg hne,
        List.append_assoc]

/-- A step down to a last name that is wanted itself shows what stands there. -/
theorem walk_self (t : FileTree) (links : Nat) (here : Location) (dirOnly : Bool)
    (hlen : name.byteLength ≤ maxNameLength) : ∃ d,
    t.walk .name links here [.down name] dirOnly =
      .ok ⟨here ++ [name], t.lookup (here ++ [name]), d⟩ := by
  obtain ⟨follow, hf⟩ := exists_walk_eq t .name links
  rw [hf, walkWith, if_neg (by simp), if_neg (Nat.not_lt.2 hlen)]
  rcases t.lookup (here ++ [name]) with _ | ⟨content | _ | target | d⟩ <;> exact ⟨_, rfl⟩

/-- What comes of a step down to a name that is the last one, or where nothing stands. -/
theorem walk_down_outcome
    (h : more ≠ [] → name.byteLength ≤ maxNameLength → t.lookup (here ++ [name]) = none) :
    (t.walk .name links here (.down name :: more) dirOnly).map (fun _ => ()) =
      if maxNameLength < name.byteLength then .error (.os .nameTooLong)
      else if more = [] then .ok () else .error (.os .notFound) := by
  by_cases hlen : maxNameLength < name.byteLength
  · rw [walk_of_long (by simp) hlen, if_pos hlen]
    rfl
  have hlen' := Nat.not_lt.1 hlen
  by_cases hmore : more = []
  · obtain ⟨d, hd⟩ := walk_self t links here dirOnly hlen'
    rw [hmore, hd, if_neg hlen, if_pos rfl]
    rfl
  · have hnone := h hmore hlen'
    rw [walk_of_isLeaf (hnone ▸ isLeaf_none), if_neg (by simp), if_neg hlen, if_neg hmore, hnone,
      if_neg hlen, if_neg hmore]
    rfl

end FileTree

/-! ## Paths of names with a stamp -/

/-- What is joined to a path comes after the same text, whatever it is. -/
theorem Path.exists_start (a : String) :
    ∃ start, ∀ x, isAbsolute x = false → join a x = start ++ x := by
  unfold join
  by_cases h : a.toList = [] ∨ a.toList.getLast? = some '/'
  · refine ⟨a, fun x hx => ?_⟩
    rw [if_neg (by simp [hx]), if_pos h]
  · refine ⟨a ++ "/", fun x hx => ?_⟩
    rw [if_neg (by simp [hx]), if_neg h]

namespace ScratchSpace

open FileTree

/-- A stamp of letters and digits. If it makes a path that leads on from another directory, there is
no such directory. -/
structure Stamp (space before after : String) (t : FileTree) (size : Nat) (stamp : String) :
    Prop where
  size_eq : stamp.utf8ByteSize = size
  alphanumeric : ∀ c ∈ stamp.toList, c.isAlphanum = true
  parentless : ∀ first rest, before ++ stamp ++ after = first ++ "/" ++ rest →
    '/' ∉ first.toList → ∀ s, t.locate .name (Path.join space first) = .ok s → s.node = none

/-- Stamps of one length with which not all names are taken. -/
structure Stamps (space before after : String) (t : FileTree) (size : Nat)
    (stamps : List String) : Prop where
  stamp : ∀ stamp ∈ stamps, Stamp space before after t size stamp
  free : ∃ stamp ∈ stamps, t.createDir (Path.join space (before ++ stamp ++ after)) ≠
    .error (.os .alreadyExists)

variable {space a after stamp stamp' : String} {t : FileTree} {size : Nat}

theorem Stamp.not_mem {before : String} (h : Stamp space before after t size stamp) {c : Char}
    (hc : c.isAlphanum = false) : c ∉ stamp.toList := by
  intro hmem
  rw [h.alphanumeric c hmem] at hc
  cases hc

/-- The route of a name with a stamp starts with a step down to a name that holds the stamp. -/
theorem exists_route (ha : '/' ∉ a.toList) (after : String) : ∃ b more dirOnly,
    (more ≠ [] → ∃ rest, after = b ++ "/" ++ rest) ∧
    ∀ stamp, '/' ∉ stamp.toList → IsName (a ++ "-" ++ stamp ++ b) ∧
      Route.ofPath (a ++ "-" ++ stamp ++ after) =
        ⟨false, .down (.text (a ++ "-" ++ stamp ++ b)) :: more, dirOnly⟩ := by
  have hname : ∀ b stamp : String, '/' ∉ b.toList → '/' ∉ stamp.toList →
      IsName (a ++ "-" ++ stamp ++ b) := by
    intro b stamp hb hstamp
    have hmem : '-' ∈ (a ++ "-" ++ stamp ++ b).toList := by simp
    exact isName_of_mem (by simp [ha, hb, hstamp]) hmem (by decide)
  by_cases hafter : '/' ∈ after.toList
  · obtain ⟨b, rest, hb, hslash⟩ := List.eq_append_cons_of_mem hafter
    have heq : after = String.ofList b ++ "/" ++ String.ofList rest :=
      String.toList_inj.1 (by simp [hb])
    let route := Route.ofPath (String.ofList rest)
    refine ⟨String.ofList b, route.steps, route.dirOnly, fun _ => ⟨_, heq⟩, fun stamp hstamp => ?_⟩
    have hfirst := hname (String.ofList b) stamp (by simpa) hstamp
    refine ⟨hfirst, ?_⟩
    rw [heq, ← String.append_assoc, ← String.append_assoc, Route.ofPath_name_append hfirst]
  · refine ⟨after, [], false, fun h => absurd rfl h, fun stamp hstamp => ?_⟩
    have hfirst := hname after stamp hafter hstamp
    exact ⟨hfirst, Route.ofPath_of_isName hfirst⟩

/-- Nothing stands at the first name of a path that leads on from there. -/
theorem Stamp.lookup_eq_none {before first rest : String} {links : Nat} {here : Location}
    (h : Stamp space before after t size stamp) (hfirst : IsName first)
    (heq : before ++ stamp ++ after = first ++ "/" ++ rest)
    (hv : ValidPath (Path.join space (before ++ stamp ++ after)))
    (hinto : ∀ rest, rest ≠ [] → ∀ d,
      t.walk .name maxLinks (t.start space) ((Route.ofPath space).steps ++ rest) d =
        t.walk .name links here rest d)
    (hlen : (FileName.text first).byteLength ≤ maxNameLength) :
    t.lookup (here ++ [.text first]) = none := by
  have habs := Path.not_isAbsolute_of_isName hfirst
  have hroute := Route.ofPath_name_append hfirst rest
  have hv' : ValidPath (Path.join space first) := by
    obtain ⟨start, hstart⟩ := Path.exists_start space
    rw [heq, hstart _ (congrArg Route.absolute hroute)] at hv
    obtain ⟨hnul, hsize, -⟩ := hv
    simp only [String.toList_append, List.mem_append, not_or, String.utf8ByteSize_append]
      at hnul hsize
    rw [hstart _ habs]
    refine ⟨by simp [hnul.1, hnul.2.1], ?_, ?_⟩
    · rw [String.utf8ByteSize_append]
      omega
    · simp [hfirst.ne_empty]
  obtain ⟨d, hd⟩ := walk_self t links here false hlen
  have hlocate : t.locate .name (Path.join space first) =
      .ok ⟨here ++ [.text first], t.lookup (here ++ [.text first]), d⟩ := by
    rw [locate_of_valid hv', Route.ofPath_join habs, start_join habs,
      Route.ofPath_of_isName hfirst, hinto _ (by simp), hd]
  exact h.parentless first rest heq hfirst.slashFree _ hlocate

/-- The paths of the names with two stamps start and end in the same way. -/
theorem exists_paths (ha : '/' ∉ a.toList) (space after : String) : ∃ start, ∀ stamp,
    '/' ∉ stamp.toList →
      Path.join space (a ++ "-" ++ stamp ++ after) = start ++ (a ++ "-" ++ stamp ++ after) := by
  obtain ⟨b, more, dirOnly, -, hroute⟩ := exists_route ha after
  obtain ⟨start, hstart⟩ := Path.exists_start space
  exact ⟨start, fun stamp hstamp => hstart _ (congrArg Route.absolute (hroute stamp hstamp).2)⟩

/-- The paths of the names with two stamps of one length lead somewhere, or they lead nowhere for
the same reason. -/
theorem locate_alike (ha : '/' ∉ a.toList) (h : Stamp space (a ++ "-") after t size stamp)
    (h' : Stamp space (a ++ "-") after t size stamp') :
    (t.locate .name (Path.join space (a ++ "-" ++ stamp ++ after))).map (fun _ => ()) =
      (t.locate .name (Path.join space (a ++ "-" ++ stamp' ++ after))).map fun _ => () := by
  obtain ⟨b, more, dirOnly, hmore, hroute⟩ := exists_route ha after
  obtain ⟨hname, hr⟩ := hroute stamp (h.not_mem rfl)
  obtain ⟨hname', hr'⟩ := hroute stamp' (h'.not_mem rfl)
  have habs : Path.isAbsolute (a ++ "-" ++ stamp ++ after) = false := congrArg Route.absolute hr
  have habs' : Path.isAbsolute (a ++ "-" ++ stamp' ++ after) = false :=
    congrArg Route.absolute hr'
  have hsize : stamp.utf8ByteSize = stamp'.utf8ByteSize := h.size_eq.trans h'.size_eq.symm
  obtain ⟨start, hstart⟩ := exists_paths ha space after
  have hpath := hstart stamp (h.not_mem rfl)
  have hpath' := hstart stamp' (h'.not_mem rfl)
  have hlength : (Path.join space (a ++ "-" ++ stamp ++ after)).utf8ByteSize =
      (Path.join space (a ++ "-" ++ stamp' ++ after)).utf8ByteSize := by
    simp [hpath, hpath', hsize]
  have hnul : '\x00' ∈ (Path.join space (a ++ "-" ++ stamp ++ after)).toList ↔
      '\x00' ∈ (Path.join space (a ++ "-" ++ stamp' ++ after)).toList := by
    have hno : '\x00' ∉ stamp.toList := h.not_mem rfl
    have hno' : '\x00' ∉ stamp'.toList := h'.not_mem rfl
    simp [hpath, hpath', hno, hno']
  have hvalid : ValidPath (Path.join space (a ++ "-" ++ stamp ++ after)) ↔
      ValidPath (Path.join space (a ++ "-" ++ stamp' ++ after)) := by
    rw [ValidPath, ValidPath, hnul, hlength]
    simp [hpath, hpath']
  by_cases hv : ValidPath (Path.join space (a ++ "-" ++ stamp ++ after))
  · have hv' := hvalid.1 hv
    rw [locate_of_valid hv, locate_of_valid hv', Route.ofPath_join habs, Route.ofPath_join habs',
      start_join habs, start_join habs', hr, hr']
    rcases t.splits .name maxLinks (t.start space) (Route.ofPath space).steps with
      ⟨fault, hinto⟩ | ⟨links, here, hinto⟩
    · rw [hinto _ (by simp), hinto _ (by simp)]
    · rw [hinto _ (by simp), hinto _ (by simp), walk_down_outcome, walk_down_outcome]
      · simp [FileName.byteLength, hsize]
      · intro hm hlen
        obtain ⟨rest, rfl⟩ := hmore hm
        have heq : a ++ "-" ++ stamp' ++ (b ++ "/" ++ rest) =
            a ++ "-" ++ stamp' ++ b ++ "/" ++ rest := by
          rw [← String.append_assoc, ← String.append_assoc]
        exact h'.lookup_eq_none hname' heq hv' hinto hlen
      · intro hm hlen
        obtain ⟨rest, rfl⟩ := hmore hm
        have heq : a ++ "-" ++ stamp ++ (b ++ "/" ++ rest) =
            a ++ "-" ++ stamp ++ b ++ "/" ++ rest := by
          rw [← String.append_assoc, ← String.append_assoc]
        exact h.lookup_eq_none hname heq hv hinto hlen
  · rw [locate_of_not_valid hv, locate_of_not_valid fun hv' => hv (hvalid.2 hv')]
    simp only [hnul, hlength]

/-! ## Making the directory -/

theorem locate_of_createDir_error {path : String} {fault : IoFault}
    (h : t.createDir path = .error fault) (hne : fault ≠ .os .alreadyExists) :
    t.locate .name path = .error fault := by
  unfold createDir at h
  rcases hs : t.locate .name path with fault' | s <;> rw [hs] at h
  · cases h
    rfl
  · rcases hn : s.node with _ | node <;> simp only [bind, Except.bind, hn] at h
    · cases h
    · exact absurd (Except.error.inj h).symm hne

theorem createDir_of_locate_error {path : String} {fault : IoFault}
    (h : t.locate .name path = .error fault) : t.createDir path = .error fault := by
  rw [createDir, h]
  rfl

/-- A directory that cannot be made, and not because its name is taken, cannot be made with another
stamp either. -/
theorem createDir_alike (ha : '/' ∉ a.toList)
    (h : Stamp space (a ++ "-") after t size stamp)
    (h' : Stamp space (a ++ "-") after t size stamp') {fault : IoFault}
    (hne : fault ≠ .os .alreadyExists)
    (hfault : t.createDir (Path.join space (a ++ "-" ++ stamp ++ after)) = .error fault) :
    t.createDir (Path.join space (a ++ "-" ++ stamp' ++ after)) = .error fault := by
  have halike := locate_alike ha h h'
  rw [locate_of_createDir_error hfault hne] at halike
  refine createDir_of_locate_error ?_
  rcases hs : t.locate .name (Path.join space (a ++ "-" ++ stamp' ++ after)) with fault' | s <;>
    rw [hs] at halike <;> cases halike
  rfl

/-- If not all names are taken, one of those that are not decides what comes of the directory. -/
theorem make_spec {before : String} {stamps : List String}
    (h : ∃ stamp ∈ stamps, t.createDir (Path.join space (before ++ stamp ++ after)) ≠
      .error (.os .alreadyExists)) :
    ∃ stamp ∈ stamps,
      (∃ loc t', t.createDir (Path.join space (before ++ stamp ++ after)) = .ok (loc, t') ∧
        make space before after t stamps =
          (.ok (Path.join space (before ++ stamp ++ after), loc), t')) ∨
      ∃ fault, fault ≠ .os .alreadyExists ∧
        t.createDir (Path.join space (before ++ stamp ++ after)) = .error fault ∧
        make space before after t stamps =
          (.error (.io (.atPath (Path.join space (before ++ stamp ++ after)) fault)), t) := by
  induction stamps with
  | nil => simp at h
  | cons first stamps ih =>
    rcases hc : t.createDir (Path.join space (before ++ first ++ after)) with fault | ⟨loc, t'⟩
    · by_cases htaken : fault = .os .alreadyExists
      · rw [htaken] at hc
        have hlater : make space before after t (first :: stamps) =
            make space before after t stamps := by
          conv => lhs; unfold make
          simp only [hc]
        obtain ⟨stamp, hmem, hfree⟩ := h
        rcases List.mem_cons.1 hmem with rfl | hmem
        · exact absurd hc hfree
        · obtain ⟨stamp, hmem, hmake⟩ := ih ⟨stamp, hmem, hfree⟩
          rw [hlater]
          exact ⟨stamp, List.mem_cons_of_mem _ hmem, hmake⟩
      · refine ⟨first, List.mem_cons_self, .inr ⟨fault, htaken, hc, ?_⟩⟩
        unfold make
        simp only [hc]
    · refine ⟨first, List.mem_cons_self, .inl ⟨loc, t', hc, ?_⟩⟩
      unfold make
      simp only [hc]

/-- With stamps of one length two scratch directories are made alike, or neither can be made, for
the same reason. -/
theorem make_alike (ha : '/' ∉ a.toList) (hafter : after.toList ≠ [])
    {stamps stamps' : List String} (hstamps : Stamps space (a ++ "-") after t size stamps)
    (hstamps' : Stamps space (a ++ "-") after t size stamps') :
    (∃ dir loc t₁ dir' loc' t₁', make space (a ++ "-") after t stamps = (.ok (dir, loc), t₁) ∧
      make space (a ++ "-") after t stamps' = (.ok (dir', loc'), t₁') ∧
      Interchangeable dir dir') ∨
    ∃ path path' fault,
      make space (a ++ "-") after t stamps = (.error (.io (.atPath path fault)), t) ∧
      make space (a ++ "-") after t stamps' = (.error (.io (.atPath path' fault)), t) := by
  obtain ⟨stamp, hmem, hmake⟩ := make_spec hstamps.free
  obtain ⟨stamp', hmem', hmake'⟩ := make_spec hstamps'.free
  have h := hstamps.stamp stamp hmem
  have h' := hstamps'.stamp stamp' hmem'
  rcases hmake with ⟨loc, t₁, hc, hmake⟩ | ⟨fault, hne, hc, hmake⟩ <;>
    rcases hmake' with ⟨loc', t₁', hc', hmake'⟩ | ⟨fault', hne', hc', hmake'⟩
  · refine .inl ⟨_, _, _, _, _, _, hmake, hmake', ?_⟩
    obtain ⟨s, hs, -⟩ := createDir_spec hc
    obtain ⟨s', hs', -⟩ := createDir_spec hc'
    obtain ⟨start, hstart⟩ := exists_paths ha space after
    have hpath := hstart stamp (h.not_mem rfl)
    have hpath' := hstart stamp' (h'.not_mem rfl)
    refine ⟨(locate_eq_ok_iff.1 hs).1, (locate_eq_ok_iff.1 hs').1, ?_, ?_⟩
    · simp [hpath, hpath', h.size_eq, h'.size_eq]
    · have hlast : ∀ b, (start ++ (b ++ after)).toList.getLast? = after.toList.getLast? := by
        intro b
        obtain ⟨c, hc⟩ := Option.ne_none_iff_exists'.1 fun h =>
          hafter (List.getLast?_eq_none_iff.1 h)
        rw [← String.append_assoc, String.toList_append, List.getLast?_append, hc, Option.some_or]
      rw [hpath, hpath', hlast, hlast]
  · rw [createDir_alike ha h' h hne' hc'] at hc
    cases hc
  · rw [createDir_alike ha h h' hne hc] at hc'
    cases hc'
  · rw [createDir_alike ha h h' hne hc] at hc'
    cases hc'
    exact .inr ⟨_, _, _, hmake, hmake'⟩

end ScratchSpace

end SweepPlot
