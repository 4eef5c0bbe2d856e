import SweepPlot.Proofs.FileTree.Changes

/-!
# A scratch directory

A directory is made where nothing stood, and files in it are reached by joining its path and their
names. This stays so while the ways of the tree are kept.

* `ofPath_join` gives the route of such a path: that of the directory and the steps on from there.
* `walk_append` says that the route leads through the new directory.
* `Scratch t₀ dir loc t` says that the directory was made in `t₀` and that `t` is a later tree;
  `Scratch.locate_spec` and `Scratch.read_eq` say where a path leads and what it reads.
* `ReadsOutside` is about files that do not stand in the directory.
-/

namespace SweepPlot

/-! ## Routes to names -/

/-- A text that names something in a directory. -/
structure IsName (x : String) : Prop where
  slashFree : '/' ∉ x.toList
  ne_empty : x ≠ ""
  ne_dot : x ≠ "."
  ne_dots : x ≠ ".."

/-- A text without slashes is a name if it has another character than a dot. -/
theorem isName_of_mem {x : String} {c : Char} (hx : '/' ∉ x.toList) (hc : c ∈ x.toList)
    (hdot : c ≠ '.') : IsName x := by
  refine ⟨hx, ?_, ?_, ?_⟩ <;>
  · rintro rfl
    simp [hdot] at hc

theorem isName_of_underscore {a b : String} (ha : '/' ∉ a.toList) (hb : '/' ∉ b.toList) :
    IsName (a ++ "_" ++ b) := by
  have hmem : '_' ∈ (a ++ "_" ++ b).toList := by simp
  exact isName_of_mem (by simp [ha, hb]) hmem (by decide)

/-- A step for the name. -/
theorem Route.step?_of_isName {x : String} (hx : IsName x) :
    Route.step? x = some (.down (.text x)) := by
  rw [Route.step?, if_neg hx.ne_empty, if_neg hx.ne_dot, if_neg hx.ne_dots]

theorem Path.not_isAbsolute_of_isName {x : String} (hx : IsName x) :
    Path.isAbsolute x = false := by
  rw [Path.isAbsolute, beq_eq_false_iff_ne]
  intro h
  exact hx.slashFree (List.mem_of_mem_head? h)

/-- The route of a name is one step. -/
theorem Route.ofPath_of_isName {x : String} (hx : IsName x) :
    Route.ofPath x = ⟨false, [.down (.text x)], false⟩ := by
  have hsplit : Text.split '/' x = [x] := by
    simp [Text.split, Text.pieces_of_not_mem hx.slashFree]
  simp [Route.ofPath, hsplit, Path.not_isAbsolute_of_isName hx, Route.step?_of_isName hx,
    hx.ne_empty]

/-- The route of a name, a slash and something starts with a step down to the name. -/
theorem Route.ofPath_name_append {x : String} (hx : IsName x) (b : String) :
    Route.ofPath (x ++ "/" ++ b) =
      ⟨false, .down (.text x) :: (Route.ofPath b).steps, (Route.ofPath b).dirOnly⟩ := by
  have hsplit : Text.split '/' (x ++ "/" ++ b) = x :: Text.split '/' b := by
    simp [Text.split, Text.pieces_append_cons hx.slashFree]
  have habs : Path.isAbsolute (x ++ "/" ++ b) = false := by
    obtain ⟨c, hc⟩ : ∃ c, x.toList.head? = some c :=
      Option.ne_none_iff_exists'.1 fun h => hx.ne_empty (by simpa using h)
    have h := Path.not_isAbsolute_of_isName hx
    rw [Path.isAbsolute, hc] at h
    rw [Path.isAbsolute, String.append_assoc, String.toList_append, List.head?_append, hc,
      Option.some_or, h]
  obtain ⟨q, hq⟩ : ∃ q, (Text.split '/' b).getLast? = some q :=
    ⟨_, List.getLast?_eq_some_getLast (by simp [Text.split, Text.pieces_ne_nil])⟩
  simp [Route.ofPath, hsplit, habs, Route.step?_of_isName hx, List.getLast?_cons, hq]

/-- The path of something in a directory starts where that of the directory starts and goes on with
the steps to it. -/
theorem Route.ofPath_join {dir x : String} (hx : Path.isAbsolute x = false) :
    Route.ofPath (Path.join dir x) =
      ⟨Path.isAbsolute dir, (Route.ofPath dir).steps ++ (Route.ofPath x).steps,
        (Route.ofPath x).dirOnly⟩ := by
  by_cases hdir : dir = ""
  · subst hdir
    have hempty : (Route.ofPath "").steps = [] := rfl
    have hroot : Path.isAbsolute "" = false := rfl
    rw [Path.join, if_neg (by simp [hx]), if_pos (.inl rfl), String.empty_append, hempty, hroot,
      List.nil_append, ← hx]
    rfl
  have hne : dir.toList ≠ [] := fun h => hdir (String.toList_inj.1 h)
  have habs : ∀ b : List Char, (dir.toList ++ b).head? = dir.toList.head? := fun b => by
    cases h : dir.toList with
    | nil => exact absurd h hne
    | cons c cs => rfl
  -- a slash at the end of the directory ends in an empty piece, which is no step
  have key : ∀ a b : List Char, Text.pieces '/' (a ++ '/' :: b) =
      Text.pieces '/' a ++ Text.pieces '/' b := fun a b => Text.pieces_append_delimiter ..
  obtain ⟨q, hq⟩ : ∃ q, (Text.pieces '/' x.toList).getLast? = some q :=
    ⟨_, List.getLast?_eq_some_getLast (Text.pieces_ne_nil _ _)⟩
  unfold Path.join
  rw [if_neg (by simp [hx])]
  by_cases hlast : dir.toList.getLast? = some '/'
  · obtain ⟨a, ha⟩ := List.getLast?_eq_some_iff.1 hlast
    have hempty : Route.step? "" = none := rfl
    rw [if_pos (.inr hlast)]
    simp [Route.ofPath, Path.isAbsolute, Text.split, ha, key, hq, hempty]
  · rw [if_neg (by simp [hne, hlast])]
    simp [Route.ofPath, Path.isAbsolute, Text.split, key, habs, hq]

namespace FileTree

variable {t₀ t t' : FileTree} {aim : Aim}

theorem start_join {dir x : String} (hx : Path.isAbsolute x = false) :
    t.start (Path.join dir x) = t.start dir := by
  have habs : Path.isAbsolute (Path.join dir x) = Path.isAbsolute dir :=
    congrArg Route.absolute (Route.ofPath_join hx)
  rw [start, start, habs]

/-! ## Through a new directory -/

/-- A way to a place where nothing stands, walked on when there is a directory. -/
theorem walk_append (aim : Aim) {links : Nat} {here : Location} {steps : List Route.Step}
    {dirOnly : Bool} {s : Spot} (hw : Leads t₀ .name links here steps dirOnly s)
    (hs : s.node = none) (hk : KeepsWays t₀ t) (hdir : t.lookup s.location = some .dir) :
    ∃ links', ∀ rest, rest ≠ [] → ∀ d, t.walk aim links here (steps ++ rest) d =
      t.walk aim links' s.location rest d := by
  induction hw with
  | done => cases hs
  | up _ ih =>
    obtain ⟨links', ih⟩ := ih hs hdir
    exact ⟨links', fun rest hr d => by rw [List.cons_append, walk_up, ih rest hr d]⟩
  | stay _ ih =>
    obtain ⟨links', ih⟩ := ih hs hdir
    exact ⟨links', fun rest hr d => by rw [List.cons_append, walk_stay, ih rest hr d]⟩
  | dir _ hlen hl _ ih =>
    obtain ⟨links', ih⟩ := ih hs hdir
    refine ⟨links', fun rest hr d => ?_⟩
    rw [List.cons_append, walk_dir (by simp [hr]) hlen (hk.dir hl), ih rest hr d]
  | @leaf links here name dirOnly _ hlen hl =>
    refine ⟨links, fun rest hr d => ?_⟩
    rw [List.cons_append, List.nil_append, walk_dir (by simp [hr]) hlen hdir]
  | named => cases hs
  | @link links here name steps dirOnly target s _ hlen hl hn ht _ ih =>
    obtain ⟨links', ih⟩ := ih hs hdir
    refine ⟨links', fun rest hr d => ?_⟩
    have hne : ¬ steps ++ rest = [] := by simp [hr]
    rw [List.cons_append, walk_link (by simp [hr]) hlen (hk.link hl) (by simp [hr]) ht,
      ← List.append_assoc, if_neg hne, ih rest hr d]

/-- The directory at the path `dir` was made at `loc` in the tree `t₀`, and `t` is a later tree: the
ways are kept, and neither links nor devices stand in the directory. -/
structure Scratch (t₀ : FileTree) (dir : String) (loc : Location) (t : FileTree) : Prop where
  made : ∃ dirOnly, t₀.locate .name dir = .ok ⟨loc, none, dirOnly⟩
  ways : KeepsWays t₀ t
  dir : t.lookup loc = some .dir
  noLink : ∀ x target, t.lookup (loc ++ [x]) ≠ some (.link target)
  noDevice : ∀ x d, t.lookup (loc ++ [x]) ≠ some (.device d)

/-- A text is the name of a file that can be reached in a directory. -/
structure Reachable (dir x : String) : Prop extends IsName x where
  valid : ValidPath (Path.join dir x)
  length : (FileName.text x).byteLength ≤ maxNameLength

namespace Scratch

variable {dir x : String} {loc : Location}

/-- The path of something in the directory leads on from there. -/
theorem locate_join (h : Scratch t₀ dir loc t) (aim : Aim) (hx : Path.isAbsolute x = false)
    (hsteps : (Route.ofPath x).steps ≠ []) (hv : ValidPath (Path.join dir x)) :
    ∃ links, t.locate aim (Path.join dir x) =
      t.walk aim links loc (Route.ofPath x).steps (Route.ofPath x).dirOnly := by
  obtain ⟨dirOnly, hmade⟩ := h.made
  obtain ⟨links, hwalk⟩ := walk_append aim (locate_eq_ok_iff.1 hmade).2 rfl h.ways h.dir
  refine ⟨links, ?_⟩
  rw [← hwalk _ hsteps, locate_of_valid hv, Route.ofPath_join hx, start_join hx,
    start_congr h.ways.workDir dir]

/-- The path of a name in the directory leads one step on from there. -/
theorem locate_eq (h : Scratch t₀ dir loc t) (aim : Aim) (hx : IsName x)
    (hv : ValidPath (Path.join dir x)) :
    ∃ links, t.locate aim (Path.join dir x) = t.walk aim links loc [.down (.text x)] false := by
  have hsteps : (Route.ofPath x).steps ≠ [] := by simp [Route.ofPath_of_isName hx]
  obtain ⟨links, hlocate⟩ := h.locate_join aim (Path.not_isAbsolute_of_isName hx) hsteps hv
  rw [Route.ofPath_of_isName hx] at hlocate
  exact ⟨links, hlocate⟩

/-- A path of a name in the directory that leads somewhere leads to that name in the directory. -/
theorem locate_spec (h : Scratch t₀ dir loc t) (hx : IsName x) {s : Spot}
    (hs : t.locate aim (Path.join dir x) = .ok s) :
    Reachable dir x ∧ s.location = loc ++ [.text x] ∧ s.node = t.lookup (loc ++ [.text x]) := by
  have hv := (locate_eq_ok_iff.1 hs).1
  obtain ⟨links, hwalk⟩ := h.locate_eq aim hx hv
  rw [hwalk] at hs
  cases leads_of_walk hs with
  | dir _ hlen hl hdone =>
    cases hdone
    exact ⟨⟨hx, hv, hlen⟩, rfl, hl.symm⟩
  | leaf _ hlen _ => exact ⟨⟨hx, hv, hlen⟩, rfl, rfl⟩
  | named _ _ hl => exact absurd hl (h.noLink _ _)
  | link _ _ hl => exact absurd hl (h.noLink _ _)

/-- A file in the directory is read by the path of its name. -/
theorem read_eq (h : Scratch t₀ dir loc t) (hx : Reachable dir x) {content : Bytes}
    (hc : t.lookup (loc ++ [.text x]) = some (.file content)) :
    t.read (Path.join dir x) = .ok content := by
  obtain ⟨links, hwalk⟩ := h.locate_eq .target hx.toIsName hx.valid
  rw [walk_leaf (by simp) hx.length (hc ▸ isLeaf_file content), hc] at hwalk
  simp [read, openRead, hwalk, present, readAt, hc, bind, Except.bind, pure, Except.pure]

/-- The directory stays as it is when other directories are made. -/
theorem addsDirs (h : Scratch t₀ dir loc t) (ht : AddsDirs t t') : Scratch t₀ dir loc t' where
  made := h.made
  ways := h.ways.trans (Grows.of_addsDirs (S := fun _ => False) ht).keepsWays
  dir := ht.lookup_of_some h.dir
  noLink x target := by
    rcases ht.lookup (loc ++ [x]) with e | ⟨-, e⟩ <;> rw [e]
    · exact h.noLink x target
    · simp
  noDevice x d := by
    rcases ht.lookup (loc ++ [x]) with e | ⟨-, e⟩ <;> rw [e]
    · exact h.noDevice x d
    · simp

/-- The directory stays as it is when files are written or removed. -/
theorem changesFiles {S : Location → Prop} (h : Scratch t₀ dir loc t) (ht : ChangesFiles S t t') :
    Scratch t₀ dir loc t' where
  made := h.made
  ways := h.ways.trans ht.keepsWays
  dir := ht.keepsWays.dir h.dir
  noLink x target := by
    rcases ht.lookup (loc ++ [x]) with e | ⟨-, -, e | ⟨content, e⟩⟩ <;> rw [e]
    · exact h.noLink x target
    · simp
    · simp
  noDevice x d := by
    rcases ht.lookup (loc ++ [x]) with e | ⟨-, -, e | ⟨content, e⟩⟩ <;> rw [e]
    · exact h.noDevice x d
    · simp
    · simp

/-- Opening a file in the directory for writing changes that file only. -/
theorem openWrite_fills (h : Scratch t₀ dir loc t) {truncate : Bool} {k : Location}
    (hx : IsName x) (ho : t.openWrite truncate (Path.join dir x) = .ok (k, t')) :
    k = loc ++ [.text x] ∧ Reachable dir x ∧ Scratch t₀ dir loc t' ∧ Grows (· = k) t t' ∧
      ∃ start, t'.lookup k = some (.file start) ∧ (truncate = true → start = []) ∧
        ∀ old, t.lookup k = some (.file old) → truncate = false → start = old := by
  obtain ⟨s, hs, rfl, -, hagree, hcase⟩ := openWrite_spec ho
  obtain ⟨hreach, hk, -⟩ := h.locate_spec hx hs
  have hfile : ∃ start, t'.lookup s.location = some (.file start) ∧
      (t.lookup s.location = none ∨ ∃ old, t.lookup s.location = some (.file old)) ∧
      (truncate = true → start = []) ∧
      ∀ old, t.lookup s.location = some (.file old) → truncate = false → start = old := by
    rcases hcase with ⟨hl, hl'⟩ | ⟨content, hl, hl'⟩ | ⟨d, hl, -⟩
    · refine ⟨[], hl', .inl hl, fun _ => rfl, fun old ho => ?_⟩
      rw [hl] at ho
      cases ho
    · refine ⟨_, hl', .inr ⟨content, hl⟩, fun ht => if_pos ht, fun old ho ht => ?_⟩
      rw [hl] at ho
      cases ho
      exact if_neg (by simp [ht])
    · exact absurd (hk ▸ hl) (h.noDevice _ d)
  obtain ⟨start, hl', hl, htrunc, happ⟩ := hfile
  have hleaf : IsLeaf (t.lookup s.location) := by
    rcases hl with hl | ⟨old, hl⟩ <;> rw [hl]
    · exact isLeaf_none
    · exact isLeaf_file old
  exact ⟨hk, hreach, h.changesFiles (.of_agree hagree hleaf hl'), .of_agree hagree hl hl', start,
    hl', htrunc, happ⟩

end Scratch

/-! ## Making the directory -/

/-- What stands somewhere stands in a directory. -/
def WellFormed (t : FileTree) : Prop :=
  ∀ loc name, t.lookup (loc ++ [name]) ≠ none → t.lookup loc = some .dir

theorem wellFormed_of_nodes (h : ∀ x ∈ t.nodes, t.lookup x.1.dropLast = some .dir) :
    t.WellFormed := by
  intro loc name hne
  refine Decidable.byContradiction fun hdir => hne ?_
  rw [lookup, if_neg (by simp), List.lookup_eq_none_iff]
  intro x hx
  refine bne_iff_ne.2 fun heq => hdir ?_
  have hparent := h x hx
  rwa [← heq, List.dropLast_concat] at hparent

/-- Below a location where nothing stands, nothing stands. -/
theorem WellFormed.lookup_below (h : t.WellFormed) {loc : Location} (hl : t.lookup loc = none)
    (names : List FileName) : t.lookup (loc ++ names) = none := by
  induction names generalizing loc with
  | nil => rwa [List.append_nil]
  | cons name names ih =>
    rw [List.append_cons]
    refine ih (Decidable.byContradiction fun hne => ?_)
    rw [h _ _ hne] at hl
    cases hl

theorem Scratch.of_createDir (hwf : t₀.WellFormed) {dir : String} {loc : Location}
    (h : t₀.createDir dir = .ok (loc, t)) : Scratch t₀ dir loc t := by
  have hadds := createDir_addsDirs h
  obtain ⟨⟨loc, node, dirOnly⟩, hloc, rfl, rfl, hne, hl, rfl⟩ := createDir_spec h
  have hchild : ∀ x, (t₀.set loc .dir).lookup (loc ++ [x]) = none := fun x => by
    rw [lookup_set t₀ hne, if_neg (by simp)]
    exact hwf.lookup_below hl [x]
  exact {
    made := ⟨dirOnly, hloc⟩
    ways := (Grows.of_addsDirs (S := fun _ => False) hadds).keepsWays
    dir := lookup_set_self hne _
    noLink := fun x target => by rw [hchild]; simp
    noDevice := fun x d => by rw [hchild]; simp }

/-! ## Files outside of it -/

/-- A file that does not stand below the location has a content. -/
def ReadsOutside (t : FileTree) (loc : Location) (path : String) (content : Bytes) : Prop :=
  ∃ k, t.openRead path = .ok k ∧ ¬ loc <+: k ∧ t.readAt k = .ok content

/-- Two paths lead to the same place. -/
def SamePlace (t : FileTree) (a b : String) : Prop :=
  ∃ s s', t.locate .target a = .ok s ∧ t.locate .target b = .ok s' ∧ s.location = s'.location

instance (t : FileTree) (a b : String) : Decidable (t.SamePlace a b) :=
  match ha : t.locate .target a, hb : t.locate .target b with
  | .ok s, .ok s' => decidable_of_iff (s.location = s'.location)
      ⟨fun h => ⟨s, s', ha, hb, h⟩, fun ⟨r, r', hr, hr', h⟩ => by
        rw [ha] at hr
        rw [hb] at hr'
        cases hr
        cases hr'
        exact h⟩
  | .error _, _ => .isFalse fun ⟨_, _, hr, _⟩ => by simp [ha] at hr
  | .ok _, .error _ => .isFalse fun ⟨_, _, _, hr, _⟩ => by simp [hb] at hr

theorem readAt_congr {k : Location} (h : t'.lookup k = t.lookup k) : t'.readAt k = t.readAt k := by
  rw [readAt, readAt, h]

theorem lookup_ne_none_of_readAt {k : Location} {content : Bytes} (h : t.readAt k = .ok content) :
    ∃ n, t.lookup k = some n := by
  rcases hn : t.lookup k with _ | n
  · rw [readAt, hn] at h
    cases h
  · exact ⟨n, rfl⟩

theorem read_eq_ok_iff {path : String} {content : Bytes} : t.read path = .ok content ↔
    ∃ k, t.openRead path = .ok k ∧ t.readAt k = .ok content := by
  rw [read]
  cases t.openRead path <;> simp [bind, Except.bind]

/-- What can be read can be read in a tree that has grown. -/
theorem Grows.read {S : Location → Prop} (h : Grows S t t') {path : String} {content : Bytes}
    (hr : t.read path = .ok content) : ∃ content', t'.read path = .ok content' := by
  obtain ⟨k, hk, hc⟩ := read_eq_ok_iff.1 hr
  obtain ⟨n, hn⟩ := lookup_ne_none_of_readAt hc
  rcases h.lookup hn with hn' | ⟨-, -, content', -, hn'⟩
  · refine ⟨content, read_eq_ok_iff.2 ⟨k, h.openRead hk, ?_⟩⟩
    rw [readAt_congr (hn'.trans hn.symm), hc]
  · refine ⟨content', read_eq_ok_iff.2 ⟨k, h.openRead hk, ?_⟩⟩
    rw [readAt, hn']

namespace ReadsOutside

variable {loc : Location} {path : String} {content content' : Bytes} {S : Location → Prop}

/-- A file that exists before the directory is made is outside of it. -/
theorem of_createDir (hwf : t₀.WellFormed) {dir : String} (h : t₀.createDir dir = .ok (loc, t))
    (hc : t₀.read path = .ok content) : t.ReadsOutside loc path content := by
  obtain ⟨k, hk, hc⟩ := read_eq_ok_iff.1 hc
  obtain ⟨n, hn⟩ := lookup_ne_none_of_readAt hc
  have hgrows : Grows (fun _ => False) t₀ t := .of_addsDirs (createDir_addsDirs h)
  refine ⟨k, hgrows.openRead hk, ?_, ?_⟩
  · rintro ⟨names, rfl⟩
    obtain ⟨s, -, -, -, -, hl, -⟩ := createDir_spec h
    rw [hwf.lookup_below hl] at hn
    cases hn
  · rw [readAt_congr (t := t₀) (by rw [hn, hgrows.lookup_eq hn id]), hc]

/-- Files outside stay as they are in a tree that grows in the directory. -/
theorem grows (h : t.ReadsOutside loc path content) (ht : Grows S t t')
    (hS : ∀ k, S k → loc <+: k) : t'.ReadsOutside loc path content := by
  obtain ⟨k, hk, hout, hc⟩ := h
  obtain ⟨n, hn⟩ := lookup_ne_none_of_readAt hc
  refine ⟨k, ht.openRead hk, hout, ?_⟩
  rw [readAt_congr (t := t) (by rw [hn, ht.lookup_eq hn fun hs => hout (hS k hs)]), hc]

/-- What is read outside of the directory in a tree that has grown there could be read before. -/
theorem of_grows (h : t'.ReadsOutside loc path content) (ht : Grows S t t')
    (hS : ∀ k, S k → loc <+: k) (hr : t.read path = .ok content') :
    t.ReadsOutside loc path content := by
  obtain ⟨k, hk, hc'⟩ := read_eq_ok_iff.1 hr
  obtain ⟨k', hk', hout, hc⟩ := h
  rw [ht.openRead hk] at hk'
  cases hk'
  obtain ⟨n, hn⟩ := lookup_ne_none_of_readAt hc'
  refine ⟨k, hk, hout, ?_⟩
  rw [← hc]
  exact (readAt_congr (by rw [hn, ht.lookup_eq hn fun hs => hout (hS k hs)])).symm

/-- A file stays as it is when another one changes. -/
theorem changesFiles (h : t.ReadsOutside loc path content) (ht : ChangesFiles S t t')
    (hS : ∀ s, t.locate .target path = .ok s → ¬ S s.location) :
    t'.ReadsOutside loc path content := by
  obtain ⟨k, hk, hout, hc⟩ := h
  obtain ⟨s, hs, -, -, rfl⟩ := openRead_eq_ok_iff.1 hk
  have hl : t'.lookup s.location = t.lookup s.location :=
    (ht.lookup _).resolve_right fun hch => hS s hs hch.1
  refine ⟨s.location, ht.keepsWays.openRead hk fun hne hleaf => ?_, hout, ?_⟩
  · rw [hl]
    exact ⟨hne, hleaf⟩
  · rw [readAt_congr hl, hc]

end ReadsOutside

end FileTree

end SweepPlot
