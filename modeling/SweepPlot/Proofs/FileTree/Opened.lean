import SweepPlot.Proofs.FileTree.Scratch

/-!
# Files that have been opened

A path that is opened for writing leads to a file or a device, and to the same place afterwards.

* `stat_eq_ok_iff` says when something stands at a path.
* `locate_of_openWrite` finds the place again, and `read_of_openWrite` and `stat_of_openWrite` say
  what is found there when it has been written.
* `openWrite_device` and `append_device` say that a device keeps nothing.
* `append_of_openWrite` says so of a file that is emptied and written.
* `openWrite_again` opens a file once more that has been written, and `read_of_agree` says that
  other files read as before.
-/

namespace SweepPlot.FileTree

variable {t t₁ t' : FileTree} {truncate : Bool} {path : String} {loc : Location}

/-- A path that asks for a directory is not opened for writing. -/
theorem dirOnly_of_openWrite (h : t.openWrite truncate path = .ok (loc, t₁)) {s : Spot}
    (hs : t.locate .writing path = .ok s) : s.dirOnly = false := by
  unfold openWrite at h
  rw [hs] at h
  simp only [bind, Except.bind] at h
  split at h
  · cases h
  · rename_i hd
    simpa using hd

/-- The place of a path that is opened for writing, found again for reading. -/
theorem locate_of_openWrite (h : t.openWrite truncate path = .ok (loc, t₁)) :
    t.locate .target path = .ok ⟨loc, t.lookup loc, false⟩ := by
  obtain ⟨s, hs, rfl, hn, -⟩ := openWrite_spec h
  obtain ⟨hv, hw⟩ := locate_eq_ok_iff.1 hs
  have hd := dirOnly_of_openWrite h hs
  have hspot : s = ⟨s.location, t.lookup s.location, false⟩ := by rw [← hn, ← hd]
  rw [← hspot]
  exact locate_eq_ok_iff.2 ⟨hv, hw.target_of_writing⟩

/-- What stands at a path that is opened for writing is no directory and no link. -/
theorem isLeaf_of_openWrite (h : t.openWrite truncate path = .ok (loc, t₁)) :
    IsLeaf (t.lookup loc) := by
  obtain ⟨s, -, -, -, -, ⟨hl, -⟩ | ⟨content, hl, -⟩ | ⟨d, hl, -⟩⟩ := openWrite_spec h <;> rw [hl]
  · exact isLeaf_none
  · exact isLeaf_file content
  · exact isLeaf_device d

/-- Writing what has been opened leaves all ways as they are. -/
theorem keepsWays_of_openWrite (h : t.openWrite truncate path = .ok (loc, t₁))
    (hagree : Agree (· = loc) t t') : KeepsWays t t' := by
  have hstays : ∀ {k n}, ¬ IsLeaf (some n) → t.lookup k = some n → t'.lookup k = some n := by
    intro k n hn hk
    rw [hagree.lookup k, hk]
    rintro rfl
    exact hn (hk ▸ isLeaf_of_openWrite h)
  exact ⟨hagree.workDir, hstays fun hn => hn.1 rfl, hstays fun hn => hn.2 _ rfl⟩

/-- The place is the same when what stands there has been written. -/
theorem locate_of_openWrite_of_agree (h : t.openWrite truncate path = .ok (loc, t₁))
    (hagree : Agree (· = loc) t t') (hleaf : IsLeaf (t'.lookup loc)) :
    t'.locate .target path = .ok ⟨loc, t'.lookup loc, false⟩ :=
  (keepsWays_of_openWrite h hagree).locate (locate_of_openWrite h) (isLeaf_of_openWrite h) hleaf

/-- What has been opened and written can be opened again, and nothing of it is lost then. -/
theorem openWrite_again (h : t.openWrite truncate path = .ok (loc, t₁))
    (hagree : Agree (· = loc) t t') {content : Bytes}
    (hl : t'.lookup loc = some (.file content)) : t'.openWrite false path = .ok (loc, t') := by
  obtain ⟨s, hs, rfl, hn, -⟩ := openWrite_spec h
  have hdir := dirOnly_of_openWrite h hs
  have hs' := (keepsWays_of_openWrite h hagree).locate hs (hn ▸ isLeaf_of_openWrite h)
    (hl ▸ isLeaf_file content)
  unfold openWrite
  rw [hs']
  simp [bind, Except.bind, hdir, hl]

/-- A path that can be read and does not lead to a location leads to another one. -/
theorem read_elsewhere_iff {source : String} {content : Bytes} :
    t.read source = .ok content ∧ t.openRead source ≠ .ok loc ↔
      ∃ origin, t.openRead source = .ok origin ∧ t.readAt origin = .ok content ∧ origin ≠ loc := by
  constructor
  · rintro ⟨hread, hother⟩
    obtain ⟨origin, hopen, hcontent⟩ := read_eq_ok_iff.1 hread
    exact ⟨origin, hopen, hcontent, fun heq => hother (heq ▸ hopen)⟩
  · rintro ⟨origin, hopen, hcontent, hne⟩
    exact ⟨read_eq_ok_iff.2 ⟨origin, hopen, hcontent⟩, by simpa [hopen] using hne⟩

/-- A path that leads to another file than the one that is written reads as before. -/
theorem read_of_agree (h : t.openWrite truncate path = .ok (loc, t₁))
    (hagree : Agree (· = loc) t t') {source : String} {content : Bytes}
    (hread : t.read source = .ok content ∧ t.openRead source ≠ .ok loc) :
    t'.read source = .ok content ∧ t'.openRead source ≠ .ok loc := by
  obtain ⟨origin, hopen, hcontent, hne⟩ := read_elsewhere_iff.1 hread
  have hsame := hagree.lookup origin hne
  refine read_elsewhere_iff.2 ⟨origin, ?_, ?_, hne⟩
  · exact (keepsWays_of_openWrite h hagree).openRead hopen fun hsome hleaf =>
      hsame ▸ ⟨hsome, hleaf⟩
  · rw [readAt_congr hsame, hcontent]

/-- The file at a path that is opened for writing reads what stands there in the end. -/
theorem read_of_openWrite (h : t.openWrite truncate path = .ok (loc, t₁))
    (hagree : Agree (· = loc) t t') {content : Bytes}
    (hl : t'.lookup loc = some (.file content)) : t'.read path = .ok content := by
  have hloc := locate_of_openWrite_of_agree h hagree (hl ▸ isLeaf_file content)
  refine read_eq_ok_iff.2 ⟨loc, openRead_eq_ok_iff.2 ⟨_, hloc, ?_, fun _ => rfl, rfl⟩, ?_⟩
  · rw [hl]
    simp
  · rw [readAt, hl]

theorem read_of_lookup_none (h : t.openWrite truncate path = .ok (loc, t₁))
    (hl : t.lookup loc = none) (content : Bytes) : t.read path ≠ .ok content := by
  intro hread
  obtain ⟨k, hk, -⟩ := read_eq_ok_iff.1 hread
  obtain ⟨s, hs, hne, -⟩ := openRead_eq_ok_iff.1 hk
  rw [locate_of_openWrite h] at hs
  cases hs
  exact hne hl

/-- Something stands at a path if links lead there and it is a directory or need not be one. -/
theorem stat_eq_ok_iff {node : Node} : t.stat path = .ok node ↔
    ∃ s, t.locate .target path = .ok s ∧ s.node = some node ∧
      (node ≠ .dir → s.dirOnly = false) := by
  unfold stat present
  rcases t.locate .target path with e | ⟨loc', n, dirOnly⟩
  · simp [bind, Except.bind]
  · rcases n with _ | ⟨content | _ | target | d⟩ <;> cases dirOnly <;>
      cases node <;> simp [bind, Except.bind]

/-- What is found at a path that is opened for writing is what stands at its place. -/
theorem stat_of_openWrite (h : t.openWrite truncate path = .ok (loc, t₁))
    (hagree : Agree (· = loc) t t') (hleaf : IsLeaf (t'.lookup loc)) {node : Node} :
    t'.stat path = .ok node ↔ t'.lookup loc = some node := by
  rw [stat_eq_ok_iff, locate_of_openWrite_of_agree h hagree hleaf]
  constructor
  · rintro ⟨s, hs, hn, -⟩
    cases hs
    exact hn
  · exact fun hn => ⟨_, rfl, hn, fun _ => rfl⟩

/-- A device stays as it is when it is opened. -/
theorem openWrite_device (h : t.openWrite truncate path = .ok (loc, t₁)) {d : Device}
    (hd : t.lookup loc = some (.device d)) : t₁ = t := by
  obtain ⟨s, hs, rfl, hn, -⟩ := openWrite_spec h
  have hdir := dirOnly_of_openWrite h hs
  unfold openWrite at h
  rw [hs] at h
  simp only [bind, Except.bind, hdir, hn, hd] at h
  cases h
  rfl

theorem append_device {d : Device} (h : t.lookup loc = some (.device d)) (bytes : Bytes) :
    t.append loc bytes = t := by
  rw [append, content?, h]

/-- What is written to an opened file stands at its path then, unless a device stands there, which
keeps nothing. -/
theorem append_of_openWrite (h : t.openWrite true path = .ok (loc, t₁)) (bytes : Bytes) :
    ((∀ d, t.stat path ≠ .ok (.device d)) →
      (t₁.append loc bytes).stat path = .ok (.file bytes) ∧
      (t₁.append loc bytes).read path = .ok bytes) ∧
    ∀ d, t.stat path = .ok (.device d) → t₁.append loc bytes = t := by
  have hstat : ∀ {node}, t.stat path = .ok node ↔ t.lookup loc = some node :=
    stat_of_openWrite h (.refl _ _) (isLeaf_of_openWrite h)
  obtain ⟨s, -, -, -, hagree, hcase⟩ := openWrite_spec h
  constructor
  · intro hdevice
    have hempty : t₁.lookup loc = some (.file []) := by
      obtain ⟨-, hl⟩ | ⟨content, -, hl⟩ | ⟨d, hd, -⟩ := hcase
      · exact hl
      · exact hl
      · exact absurd (hstat.2 hd) (hdevice d)
    obtain ⟨hagree', hl⟩ := append_spec hempty bytes
    exact ⟨(stat_of_openWrite h (hagree.trans hagree') (hl ▸ isLeaf_file _)).2 hl,
      read_of_openWrite h (hagree.trans hagree') hl⟩
  · intro d hd
    rw [openWrite_device h (hstat.1 hd), append_device (hstat.1 hd)]

end SweepPlot.FileTree
